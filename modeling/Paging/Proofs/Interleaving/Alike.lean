import Paging.Proofs.Interleaving.Place

/-!
# Paging.Proofs.Interleaving.Alike — two runs of one call

A call is run twice, from states that agree on the place where it gets its pages from.  The two runs
are alike if piece by piece they come to the same: they end with the same outcome or wait under the
same label, they make the same contacts and fetch as many chunks, and whatever happens between two
pieces they go on alike, as long as the states in which they are resumed agree again on that place.

A piece that ends with a wait makes exactly one contact, and a call that is cancelled where it waits
makes none and fails.
-/

namespace Paging

open Tracing

/-! ## States in which telling does not matter -/

/-- States in which every call can begin, readings that calls may begin with, and nothing changes
what a call that has begun so answers. -/
structure Tells (K : Service → Prop) (Starts : Option Rat → Prop) : Prop where
  begins : ∀ u, K u → ∃ start v, begin u = (.ok start, v) ∧ Starts start ∧ K v
  reports : ∀ u call start outcome, K u → Starts start →
    ∃ v, report emit call start outcome u = (outcome, v) ∧ K v
  tellsLike : ∀ u v, K u → v.TellsLike u → K v

/-- In a discreet state telling does not matter, and it stays so. -/
theorem exists_tells {w : Service} (hw : w.Discreet) : ∃ K Starts, Tells K Starts ∧ K w := by
  rcases hw with hoff | hcontained
  · refine ⟨fun u => u.tracing.enabled = false, fun start => start = none, ⟨?_, ?_, ?_⟩, hoff⟩
    · intro u hu
      exact ⟨none, u, begin_of_off hu, rfl, hu⟩
    · rintro u call _ outcome hu rfl
      refine ⟨u, ?_, hu⟩
      cases outcome <;> rfl
    · intro u v hu hv
      rw [hv.tracing]
      exact hu
  · refine ⟨Service.Contained, fun _ => True, ⟨?_, ?_, ?_⟩, hcontained⟩
    · intro u hu
      obtain ⟨start, v, hbegin, hv⟩ := calm_begin u hu
      exact ⟨start, v, hbegin, trivial, hv⟩
    · intro u call start outcome hu _
      refine ⟨_, Prod.ext (fst_report ?_ outcome) rfl,
        contained_report calm_emit call start outcome hu⟩
      intro page fault
      obtain ⟨_, v, hconclude, _⟩ := calm_conclude calm_emit call page fault start u hu
      exact ⟨v, hconclude⟩
    · intro u v hu hv
      exact hv.contained hu

namespace Place

variable (K : Service → Prop) (p : Place)

/-! ## Pieces -/

/-- Two states from which one call at a place goes on alike. -/
structure Meets (u v : Service) : Prop where
  left : K u
  right : K v
  stands_left : p.Stands u
  stands_right : p.Stands v
  agree : p.Agree u v

/-- Two pieces make the same contacts and fetch as many chunks. -/
structure Both (said : List Contact) (fetched : Nat) (s t u v : Service) : Prop where
  meets : Meets K p u v
  left : p.Does said fetched s u
  right : p.Does said fetched t v

/-- Two pieces in which nothing is asked for. -/
def Idles (s t u v : Service) : Prop := Both K p [] 0 s t u v

/-- Two pieces that do not end with a wait.  Where pages are waited for, they ask for nothing. -/
def Rests (s t u v : Service) : Prop :=
  ∃ said fetched, (p.waits = true → said = []) ∧ Both K p said fetched s t u v

/-- Two pieces that end with a wait.  They ask for the one page that is waited for. -/
def Asks (s t u v : Service) : Prop :=
  p.waits = true ∧ ∃ contact fetched, Both K p [contact] fetched s t u v

variable {K p} {s t u v s' t' : Service} {said said' : List Contact} {fetched fetched' : Nat}

theorem Both.trans (h : Both K p said fetched s t u v) (h' : Both K p said' fetched' u v s' t') :
    Both K p (said ++ said') (fetched + fetched') s t s' t' :=
  ⟨h'.meets, h.left.trans h'.left, h.right.trans h'.right⟩

theorem Idles.rests (h : Idles K p s t u v) : Rests K p s t u v := ⟨[], 0, fun _ => rfl, h⟩

theorem Idles.trans (h : Idles K p s t u v) (h' : Idles K p u v s' t') : Idles K p s t s' t' :=
  Both.trans h h'

theorem Rests.meets (h : Rests K p s t u v) : Meets K p u v := by
  obtain ⟨_, _, _, hboth⟩ := h
  exact hboth.meets

theorem Rests.trans (h : Rests K p s t u v) (h' : Rests K p u v s' t') : Rests K p s t s' t' := by
  obtain ⟨said, fetched, hsaid, hboth⟩ := h
  obtain ⟨said', fetched', hsaid', hboth'⟩ := h'
  refine ⟨said ++ said', fetched + fetched', fun hwaits => ?_, hboth.trans hboth'⟩
  rw [hsaid hwaits, hsaid' hwaits]
  rfl

theorem Rests.asks (h : Rests K p s t u v) (h' : Asks K p u v s' t') : Asks K p s t s' t' := by
  obtain ⟨said, fetched, hsaid, hboth⟩ := h
  obtain ⟨hwaits, contact, fetched', hboth'⟩ := h'
  have hsame := hboth.trans hboth'
  rw [hsaid hwaits] at hsame
  exact ⟨hwaits, contact, fetched + fetched', hsame⟩

/-! ## Runs -/

/-- Two runs of one computation that come to the same piece by piece, and give only what `Q` holds
of. -/
def Alike {α : Type} (K : Service → Prop) (p : Place) (Q : α → Prop) (s t : Service) :
    Suspension Service Fault α → Suspension Service Fault α → Prop
  | .done r u, .done r' v => r = r' ∧ (∀ a, r = .ok a → Q a) ∧ Rests K p s t u v
  | .waiting label s' resume, .waiting label' t' resume' => label = label' ∧
    Asks K p s t s' t' ∧ ∀ u v, Meets K p u v →
      Alike K p Q u v (resume none u) (resume' none v) ∧
      ∀ e, ∃ u' v', resume (some e) u = .done (.error e) u' ∧
        resume' (some e) v = .done (.error e) v' ∧ Idles K p u v u' v'
  | _, _ => False

variable {α β : Type} {Q : α → Prop} {R : β → Prop}

/-- What is done before two runs begin is part of their first pieces. -/
theorem Alike.after {x y : Suspension Service Fault α} (h : Alike K p Q u v x y)
    (hrests : Rests K p s t u v) : Alike K p Q s t x y := by
  cases x with
  | done r u' =>
    cases y with
    | done r' v' => exact ⟨h.1, h.2.1, hrests.trans h.2.2⟩
    | waiting => exact h.elim
  | waiting label u' resume =>
    cases y with
    | done => exact h.elim
    | waiting label' v' resume' => exact ⟨h.1, hrests.asks h.2.1, h.2.2⟩

/-- What comes after two runs that are alike goes on alike, if it hands on the faults with which
they are cancelled. -/
theorem Alike.andThen {x y : Suspension Service Fault α}
    {next next' : Except Fault α → Service → Suspension Service Fault β}
    (h : Alike K p Q s t x y)
    (hnext : ∀ r u v, Meets K p u v → (∀ a, r = .ok a → Q a) →
      Alike K p R u v (next r u) (next' r v))
    (hcancel : ∀ e u v, Meets K p u v → ∃ u' v', next (.error e) u = .done (.error e) u' ∧
      next' (.error e) v = .done (.error e) v' ∧ Idles K p u v u' v') :
    Alike K p R s t (x.andThen next) (y.andThen next') := by
  induction x generalizing s t y with
  | done r u =>
    cases y with
    | done r' v =>
      obtain ⟨rfl, hq, hrests⟩ := h
      exact (hnext r u v hrests.meets hq).after hrests
    | waiting => exact h.elim
  | waiting label u resume ih =>
    cases y with
    | done => exact h.elim
    | waiting label' v resume' =>
      obtain ⟨hlabel, hasks, hresume⟩ := h
      refine ⟨hlabel, hasks, fun u v hmeets => ⟨ih none u (hresume u v hmeets).1, fun e => ?_⟩⟩
      obtain ⟨u', v', hleft, hright, hidles⟩ := (hresume u v hmeets).2 e
      obtain ⟨u'', v'', hleft', hright', hidles'⟩ := hcancel e u' v' hidles.meets
      refine ⟨u'', v'', ?_, ?_, hidles.trans hidles'⟩
      · show (resume (some e) u).andThen next = _
        rw [hleft, Suspension.andThen_done, hleft']
      · show (resume' (some e) v).andThen next' = _
        rw [hright, Suspension.andThen_done, hright']

theorem Meets.idles (h : Meets K p u v) : Idles K p u v u v :=
  ⟨h, does_of_suppliesLike p (.refl u), does_of_suppliesLike p (.refl v)⟩

/-- A sequence of two parts. -/
theorem alike_bind {x y : Later α} {f g : α → Later β} (h : Alike K p Q s t (x s) (y t))
    (hfg : ∀ a u v, Meets K p u v → Q a → Alike K p R u v (f a u) (g a v)) :
    Alike K p R s t ((x >>= f) s) ((y >>= g) t) := by
  rw [Async.bind_apply, Async.bind_apply]
  apply h.andThen
  · intro r u v hmeets hq
    cases r with
    | ok a => exact hfg a u v hmeets (hq a rfl)
    | error e => exact ⟨rfl, nofun, hmeets.idles.rests⟩
  · intro e u v hmeets
    exact ⟨u, v, rfl, rfl, hmeets.idles⟩

/-- A part that does nothing at a place and succeeds. -/
theorem alike_of_idles {x y : Act α} {a : α} {f g : α → Later β} (hx : x s = (.ok a, u))
    (hy : y t = (.ok a, v)) (hidles : Idles K p s t u v)
    (hfg : Alike K p R u v (f a u) (g a v)) :
    Alike K p R s t ((Async.ofAction x >>= f) s) ((Async.ofAction y >>= g) t) := by
  rw [Async.ofAction_bind_of_ok hx, Async.ofAction_bind_of_ok hy]
  exact hfg.after hidles.rests

/-- Two runs that give the same at once. -/
theorem alike_done {r : Except Fault α} (hq : ∀ a, r = .ok a → Q a) (h : Rests K p s t u v) :
    Alike K p Q s t (.done r u) (.done r v) := ⟨rfl, hq, h⟩

end Place

end Paging
