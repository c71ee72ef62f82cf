import Paging.Proofs.Traffic

/-!
# Paging.Proofs.Consumption — what a call takes from its stream

A stream may be endless, may fail, and may go on after an end, so that what a call takes from it is
not known from the elements of a list.  It is known from the values that the stream gives next, up to
the number that fills the page asked for, and from the one or two answers that follow them
(`Stream.Consumes`).  Nothing else is pulled, and what has not been pulled is still there for the
next reader, in order.
-/

namespace Paging

namespace Stream

variable {α : Type} {strategy : Strategy} {r : Request} {s : Stream α}

/-- The outcome of a request and the number of pulls made for it, by what the stream gives. -/
structure Consumes (s : Stream α) (strategy : Strategy) (r : Request)
    (outcome : Except Fault (Page α)) (pulls : Nat) : Prop where
  /-- The values fill the page asked for: one more pull decides whether it is the last. -/
  filled : ∀ xs, s.Gives xs → xs.length = r.reach →
    pulls = r.reach + 1 ∧
      outcome = (s.event (s.position + r.reach)).ends.map fun isLast =>
        ⟨Reference.slice xs r.target r.size, r.target, isLast⟩
  /-- A fault comes first: it is the outcome, and nothing is pulled after it. -/
  failed : ∀ xs fault, s.Gives xs → xs.length < r.reach →
    s.event (s.position + xs.length) = .raise fault →
    pulls = xs.length + 1 ∧ outcome = .error fault
  /-- An end comes first, on a page that may be the answer: one more pull decides whether it is the
  last. -/
  ended : ∀ xs, s.Gives xs → xs.length < r.reach → s.event (s.position + xs.length) = .stop →
    Reference.pageCount xs.length r.size = r.target ∨ strategy = .returnLastPage →
    pulls = xs.length + 2 ∧
      outcome = (s.event (s.position + xs.length + 1)).ends.map fun isLast =>
        ⟨Reference.slice xs (Reference.pageCount xs.length r.size) r.size,
          Reference.pageCount xs.length r.size, isLast⟩
  /-- An end comes first, before the page asked for: nothing is pulled after it. -/
  missed : ∀ xs, s.Gives xs → xs.length < r.reach → s.event (s.position + xs.length) = .stop →
    ¬ (Reference.pageCount xs.length r.size = r.target ∨ strategy = .returnLastPage) →
    pulls = xs.length + 1 ∧ outcome = Reference.page strategy r xs

/-- A stream gives a number of values, or fewer of them and then something else. -/
theorem exists_gives (s : Stream α) (n : Nat) :
    ∃ xs, s.Gives xs ∧
      (xs.length = n ∨ xs.length < n ∧ ∀ x, s.event (s.position + xs.length) ≠ .value x) := by
  induction n with
  | zero => exact ⟨[], nofun, .inl rfl⟩
  | succ n ih =>
    obtain ⟨xs, hgives, hlength | ⟨hlt, hend⟩⟩ := ih
    · -- one more value, or the first answer that is none
      by_cases hvalue : ∃ x, s.event (s.position + xs.length) = .value x
      · obtain ⟨x, hx⟩ := hvalue
        refine ⟨xs ++ [x], hgives.concat hx, .inl ?_⟩
        rw [List.length_append, List.length_singleton, hlength]
      · exact ⟨xs, hgives, .inr ⟨by omega, fun x hx => hvalue ⟨x, hx⟩⟩⟩
    · exact ⟨xs, hgives, .inr ⟨Nat.lt_succ_of_lt hlt, hend⟩⟩

theorem advance_inj {m n : Nat} (h : s.advance m = s.advance n) : m = n := by
  have hposition : s.position + m = s.position + n := congrArg Stream.position h
  omega

/-- **Reading a page takes from a stream what is needed and no more.** -/
theorem consumes_page (s : Stream α) (strategy : Strategy) (r : Request) :
    ∃ pulls, s.Consumes strategy r (s.page strategy r).1 pulls ∧
      (s.page strategy r).2 = s.advance pulls := by
  -- in every case some number of pulls has been made
  have hmoved : ∃ pulls, (s.page strategy r).2 = s.advance pulls := by
    obtain ⟨xs, hgives, hlength | ⟨hlt, hend⟩⟩ := s.exists_gives r.reach
    · exact ⟨_, congrArg Prod.snd (page_of_eq hgives hlength)⟩
    · cases hevent : s.event (s.position + xs.length) with
      | value x => exact absurd hevent (hend x)
      | stop =>
        have hpage : s.page strategy r = _ := page_of_stop hgives hlt hevent
        split at hpage
        · exact ⟨_, congrArg Prod.snd hpage⟩
        · exact ⟨_, congrArg Prod.snd hpage⟩
      | raise fault => exact ⟨_, congrArg Prod.snd (page_of_raise hgives hlt hevent)⟩
  obtain ⟨pulls, hpulls⟩ := hmoved
  have hcount : ∀ {outcome n}, s.page strategy r = (outcome, s.advance n) →
      pulls = n ∧ (s.page strategy r).1 = outcome := by
    intro outcome n hpage
    exact ⟨advance_inj (hpulls.symm.trans (congrArg Prod.snd hpage)), congrArg Prod.fst hpage⟩
  refine ⟨pulls, ⟨?_, ?_, ?_, ?_⟩, hpulls⟩
  · exact fun xs hgives hlength => hcount (page_of_eq hgives hlength)
  · exact fun xs fault hgives hlt hraise => hcount (page_of_raise hgives hlt hraise)
  · intro xs hgives hlt hstop hkept
    have hpage : s.page strategy r = _ := page_of_stop hgives hlt hstop
    rw [if_pos hkept] at hpage
    exact hcount hpage
  · intro xs hgives hlt hstop hpast
    have hpage : s.page strategy r = _ := page_of_stop hgives hlt hstop
    rw [if_neg hpast] at hpage
    exact hcount hpage

end Stream

/-- The contacts of a number of pulls, if they are noted down. -/
def Tap.noted (tap : Tap) (pulls : Nat) : List Contact :=
  if tap.watched then (List.range' tap.stream.position pulls).map Contact.pull else []

/-- Pulls are contacts with a source. -/
theorem Tap.filter_noted (tap : Tap) (pulls : Nat) :
    (tap.noted pulls).filter (fun contact => !contact.isTelling) = tap.noted pulls := by
  apply List.filter_eq_self.2
  intro contact hcontact
  unfold noted at hcontact
  split at hcontact
  · obtain ⟨i, _, rfl⟩ := List.mem_map.1 hcontact
    rfl
  · cases hcontact

namespace Pager

open Tracing

/-- Reading a page from a stream that calls share moves that stream on, and notes down the pulls. -/
theorem read_shared (p : Pager) (r : Request) {w : Service} {i : Nat} (hi : i < w.taps.length)
    {pulls : Nat} (hmoved : ((w.tap i).stream.page p.strategy r).2 = (w.tap i).stream.advance pulls) :
    (p.read r (.shared i) w).2.tap i = { w.tap i with stream := (w.tap i).stream.advance pulls } ∧
      (p.read r (.shared i) w).2.traffic = w.traffic ++ (w.tap i).noted pulls := by
  have hpulled : ((w.tap i).stream.advance pulls).position - (w.tap i).stream.position = pulls :=
    Nat.add_sub_cancel_left _ _
  have hread : p.read r (.shared i) w =
      (((w.tap i).stream.page p.strategy r).1,
        { w with
          taps := w.taps.set i { w.tap i with stream := (w.tap i).stream.advance pulls }
          journal := { w.journal with
            contacts := w.journal.contacts ++ (w.tap i).noted pulls } }) := by
    rw [read, Service.withTap]
    simp only [hmoved, hpulled]
    rfl
  rw [hread]
  constructor
  · simp [Service.tap, hi]
  · show (w.journal.contacts ++ (w.tap i).noted pulls).filter _ = _
    rw [List.filter_append, Tap.filter_noted]
    rfl

/-- **Exactly what is needed is taken from a stream.**  In a discreet state the outcome of a call on a
stream that calls share, and the number of pulls made for it, are what the stream's next answers make
them.  One way or another every stream gives what decides this, so that no call on an endless one
fails to end.  The pulls are made one after the other, and the stream is left where they end. -/
theorem consumption_getPage (p : Pager) (r : Request) {w : Service} (hw : w.Discreet) {i : Nat}
    (hi : i < w.taps.length) :
    (∃ xs, (w.tap i).stream.Gives xs ∧ (xs.length = r.reach ∨ xs.length < r.reach ∧
      ∀ x, (w.tap i).stream.event ((w.tap i).stream.position + xs.length) ≠ .value x)) ∧
    ∃ pulls, (w.tap i).stream.Consumes p.strategy r
        (p.getPage (some (.shared i)) r.target r.size w).1 pulls ∧
      ((p.getPage (some (.shared i)) r.target r.size w).2.tap i).stream =
        (w.tap i).stream.advance pulls ∧
      (p.getPage (some (.shared i)) r.target r.size w).2.traffic =
        w.traffic ++ (w.tap i).noted pulls := by
  obtain ⟨pulls, hconsumes, hmoved⟩ := (w.tap i).stream.consumes_page p.strategy r
  obtain ⟨start, hbegin⟩ := exists_begin_of_discreet hw
  have hlike := p.suppliesLike_getPage r w (.shared i) hbegin
  -- beginning the call leaves the stream as it is
  have htaps : (begin w).2.taps = w.taps := by rw [snd_begin]
  have htap : (begin w).2.tap i = w.tap i := by
    rw [Service.tap, htaps]
    rfl
  have hread := p.read_shared r (w := (begin w).2) (htaps.symm ▸ hi) (by rw [htap]; exact hmoved)
  rw [htap, (aside_begin w).traffic] at hread
  refine ⟨(w.tap i).stream.exists_gives r.reach, pulls, ?_, ?_, ?_⟩
  · rw [fst_getPage p r hw (.shared i)]
    exact hconsumes
  · rw [Service.tap, hlike.taps]
    exact congrArg Tap.stream hread.1
  · rw [hlike.traffic]
    exact hread.2

/-- A state in which a stream is read that goes on after its end. -/
def resuming : Service :=
  { Service.complaining with
    taps := [{ stream := .ofPulls [.value (.int 1), .value (.int 2), .value (.int 3), .stop,
      .value (.int 4)], watched := true }] }

/-- Three values and an end instead of four pages of two: the second page is answered as the last, and
the pull after the end meets a value, which shows that it is not and is gone. -/
theorem consumption_getPage_of_resuming :
    resuming.Discreet ∧ 0 < resuming.taps.length ∧
    (getPage ⟨.returnLastPage⟩ (some (.shared 0)) 4 2 resuming).1 = .ok ⟨[.int 3], 2, false⟩ ∧
    ((getPage ⟨.returnLastPage⟩ (some (.shared 0)) 4 2 resuming).2.tap 0).stream =
      (resuming.tap 0).stream.advance 5 := by
  have hlike : resuming.TellsLike Service.complaining := ⟨rfl, rfl, rfl, rfl⟩
  have hdiscreet := hlike.discreet Service.discreet_complaining
  have hgives : (resuming.tap 0).stream.Gives [.int 1, .int 2, .int 3] := by
    intro i hi
    match i, hi with
    | 0, _ => rfl
    | 1, _ => rfl
    | 2, _ => rfl
  obtain ⟨_, pulls, hconsumes, hmoved, _⟩ := consumption_getPage ⟨.returnLastPage⟩
    ⟨4, 2, by decide, by decide⟩ hdiscreet (show 0 < resuming.taps.length by decide)
  obtain ⟨rfl, houtcome⟩ := hconsumes.ended _ hgives (by decide) rfl (.inr rfl)
  exact ⟨hdiscreet, by decide, houtcome, hmoved⟩

end Pager

end Paging
