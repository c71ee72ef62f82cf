import Paging.Proofs.Tracing.Bystander
import Paging.Proofs.Tracing.Notification

/-!
# Paging.Proofs.Tracing.Nesting — how deep calls of listeners nest

Events are dealt with down to a depth, and the number of listeners that have yet to ask for their page
is taken for it (`emit`).  That depth is no bound: a listener asks after it has given up asking again,
and nothing that telling does lets it ask again (`onlooker_pendingNested`).  So any two depths that
reach that number deal with an event in the same way (`emitWithin_congr`), and what a listener asks for
is a call that is told of like any other (`emit_nested`).
-/

namespace Paging.Tracing

open Act

/-! ## Listeners that have yet to ask -/

variable {n : Nat} {w : Service} {event : PageEvent}

/-- A listener that asks is one fewer that has yet to. -/
theorem claimNested_cases (i : Nat) (w : Service) :
    (∃ v, Service.claimNested i w = (.ok true, v) ∧ v.tracing = w.tracing ∧
      pendingNested v = pendingNested w) ∨
    ∃ v, Service.claimNested i w = (.ok false, v) ∧ v.tracing = w.tracing ∧
      pendingNested v < pendingNested w := by
  have hcount : ∀ w : Service, pendingNested w = w.listeners.countP fun l => !l.nestedDone :=
    fun w => List.countP_eq_length_filter.symm
  unfold Service.claimNested
  cases hlistener : w.listeners[i]? with
  | none => exact .inl ⟨w, rfl, rfl, rfl⟩
  | some listener =>
    obtain ⟨hi, hget⟩ := List.getElem?_eq_some_iff.1 hlistener
    simp only
    cases hdone : listener.nestedDone with
    | true =>
      refine .inl ⟨_, rfl, rfl, ?_⟩
      rw [hcount, hcount]
      simp [List.countP_set hi, hget, hdone]
    | false =>
      refine .inr ⟨_, rfl, rfl, ?_⟩
      have hpos : 0 < w.listeners.countP fun l => !l.nestedDone :=
        List.countP_pos_iff.2 ⟨listener, hget ▸ List.getElem_mem hi, by rw [hdone]; rfl⟩
      rw [hcount, hcount]
      simp only [List.countP_set hi, hget, hdone]
      exact Nat.sub_lt hpos Nat.one_pos

theorem pendingNested_of_announce_eq {u : Service} {result : Except Fault Unit}
    (h : announce event w = (result, u)) : pendingNested u = pendingNested w := by
  rw [pendingNested, pendingNested, (of_announce_eq h).2]

/-- Nothing that telling does lets a listener ask again. -/
theorem onlooker_pendingNested :
    Onlooker fun v w : Service => pendingNested v ≤ pendingNested w where
  refl _ := Nat.le_refl _
  trans := Nat.le_trans
  notice _ _ := Nat.le_refl _
  contact _ _ := Nat.le_refl _
  clock _ := Nat.le_refl _
  registry _ _ := Nat.le_refl _
  tracing _ _ := Nat.le_refl _
  claim i w := by
    rcases claimNested_cases i w with ⟨v, hclaim, _, hcount⟩ | ⟨v, hclaim, _, hcount⟩
    · rw [hclaim]
      exact Nat.le_of_eq hcount
    · rw [hclaim]
      exact Nat.le_of_lt hcount

/-! ## Ways to ask -/

/-- Two ways to ask that are alike as long as fewer than so many listeners have yet to ask. -/
def AskAlike {α : Type} (n : Nat) (ask ask' : Int → Int → Service → α) : Prop :=
  ∀ page size w, pendingNested w < n → ask page size w = ask' page size w

/-- A way to ask that does not let listeners ask again. -/
def AskSettles (ask : Int → Int → Act Unit) : Prop :=
  ∀ page size w, pendingNested (ask page size w).2 ≤ pendingNested w

theorem settles_askWith_emit : AskSettles (askWith emit) :=
  onlooker_pendingNested.within_askWith onlooker_pendingNested.within_emit

variable {ask ask' : Int → Int → Act Unit}

/-- When a listener asks it is no longer among those that have yet to. -/
theorem perform_congr (hask : AskAlike n ask ask') (hw : pendingNested w ≤ n) (i : Nat)
    (name : String) (reaction : Reaction) :
    reaction.perform ask i name event w = reaction.perform ask' i name event w := by
  cases reaction with
  | nested page size =>
    rw [Reaction.perform, Reaction.perform]
    rcases claimNested_cases i w with ⟨v, hclaim, _⟩ | ⟨v, hclaim, _, hcount⟩
    · rw [Action.bind_of_ok hclaim, Action.bind_of_ok hclaim]
      rfl
    · rw [Action.bind_of_ok hclaim, Action.bind_of_ok hclaim]
      exact hask page size v (Nat.lt_of_lt_of_le hcount hw)
  | _ => rfl

theorem react_congr (hsettles : AskSettles ask) (hask : AskAlike n ask ask')
    (hw : pendingNested w ≤ n) (i : Nat) (listener : Listener) (reactions : List Reaction) :
    listener.react ask i event reactions w = listener.react ask' i event reactions w := by
  induction reactions generalizing w with
  | nil => rfl
  | cons reaction rest ih =>
    apply Action.bind_congr (perform_congr hask hw i listener.name reaction)
    intro _ v hperformed
    have hless := onlooker_pendingNested.within_perform hsettles i listener.name event reaction w
    rw [hperformed] at hless
    exact ih (Nat.le_trans hless hw)

/-- A delivery does not let listeners ask again. -/
theorem pendingNested_resumed (hsettles : AskSettles ask) (event : PageEvent) (i : Nat) (w : Service) :
    pendingNested (Delivery.of ask event i w).resumed ≤ pendingNested w := by
  have hafter : pendingNested (handle ask event i w).2 ≤ pendingNested w := by
    unfold handle
    cases w.listeners[i]? with
    | none => exact Nat.le_refl _
    | some listener =>
      exact onlooker_pendingNested.within_react (fun reaction _ =>
        onlooker_pendingNested.within_perform hsettles i listener.name event reaction) w
  rw [Delivery.resumed]
  cases (Delivery.of ask event i w).record? <;> exact hafter

/-- So no delivery begins with more of them than there were. -/
theorem pendingNested_before (hsettles : AskSettles ask) {registry : List Nat} {d : Delivery}
    (hd : d ∈ deliveries ask event registry w) : pendingNested d.before ≤ pendingNested w := by
  induction registry generalizing w with
  | nil => cases hd
  | cons i rest ih =>
    rw [deliveries] at hd
    rcases List.mem_cons.1 hd with rfl | hd
    · exact Nat.le_refl _
    · cases hstop : (Delivery.of ask event i w).stop? with
      | none =>
        rw [hstop] at hd
        exact Nat.le_trans (ih hd) (pendingNested_resumed hsettles event i w)
      | some fault =>
        rw [hstop] at hd
        cases hd

/-- What listeners do with an event depends only on how those ask that have yet to. -/
theorem deliveries_congr (hsettles : AskSettles ask) (hask : AskAlike n ask ask')
    (hw : pendingNested w ≤ n) (registry : List Nat) :
    deliveries ask event registry w = deliveries ask' event registry w := by
  induction registry generalizing w with
  | nil => rfl
  | cons i rest ih =>
    have hhandle : handle ask event i w = handle ask' event i w := by
      unfold handle
      cases w.listeners[i]? with
      | none => rfl
      | some listener => exact react_congr hsettles hask hw i listener listener.reactions
    have hof : Delivery.of ask event i w = Delivery.of ask' event i w := by
      rw [Delivery.of, Delivery.of, hhandle]
    have hless := pendingNested_resumed hsettles event i w
    rw [deliveries, deliveries, ← hof]
    cases (Delivery.of ask event i w).stop? with
    | none =>
      simp only
      rw [ih (Nat.le_trans hless hw)]
    | some fault => rfl

theorem emitWith_congr (hsettles : AskSettles ask) (hask : AskAlike n ask ask')
    (hw : pendingNested w ≤ n) (event : PageEvent) :
    emitWith ask event w = emitWith ask' event w := by
  cases hon : w.tracing.enabled with
  | false => rw [emitWith_of_off hon, emitWith_of_off hon]
  | true =>
    rw [emitWith_of_on hon, emitWith_of_on hon]
    refine Action.bind_congr ?_ fun _ _ _ => rfl
    rw [tellWith_apply, tellWith_apply]
    apply Action.bind_congr rfl
    intro _ u hannounced
    have hu : pendingNested u ≤ n := by rwa [pendingNested_of_announce_eq hannounced]
    rw [Act.current_bind, Act.current_bind, notify_eq, notify_eq,
      deliveries_congr hsettles hask hu]

/-! ## Depths -/

section

variable {emit emit' : Emitter}

/-- A report depends only on how its event is dealt with. -/
theorem report_congr (hemit : ∀ event w, pendingNested w ≤ n → emit event w = emit' event w)
    (hw : pendingNested w ≤ n) (call : Call) (start : Option Rat)
    (outcome : Except Fault (Page Value)) :
    report emit call start outcome w = report emit' call start outcome w := by
  have hconclude : ∀ page fault,
      conclude emit call page fault start w = conclude emit' call page fault start w := by
    intro page fault
    cases start with
    | none => rfl
    | some start =>
      apply Action.bind_congr rfl
      intro stop v hclock
      have hless := onlooker_pendingNested.within_readClock w
      rw [hclock] at hless
      exact hemit _ v (Nat.le_trans hless hw)
  cases outcome with
  | ok page => exact Action.bind_congr (hconclude _ _) fun _ _ _ => rfl
  | error fault => exact Action.bind_congr (hconclude _ _) fun _ _ _ => rfl

/-- The same holds of a page that a listener asks for. -/
theorem askWith_congr (hemit : ∀ event w, pendingNested w ≤ n → emit event w = emit' event w)
    (hw : pendingNested w ≤ n) (page size : Int) :
    askWith emit page size w = askWith emit' page size w := by
  apply Action.bind_congr rfl
  intro request u hchecked
  obtain rfl : w = u := (Prod.ext_iff.1 hchecked).2
  have hfollow : ∀ call (body : Except Fault (Page Value)),
      follow emit call (Act.ofExcept body) w = follow emit' call (Act.ofExcept body) w := by
    intro call body
    apply Action.bind_congr rfl
    intro start v hbegun
    have hless := onlooker_pendingNested.within_begin w
    rw [hbegun] at hless
    apply Action.bind_congr rfl
    intro outcome t hread
    obtain rfl : v = t := (Prod.ext_iff.1 hread).2
    exact report_congr hemit (Nat.le_trans hless hw) call start outcome
  have hserve : ∀ body : Except Fault (Page Value),
      serve emit .fail request (Act.ofExcept body) w =
        serve emit' .fail request (Act.ofExcept body) w :=
    fun body => Action.bind_congr (hfollow _ body) fun _ _ _ => rfl
  exact Action.bind_congr (hserve _) fun _ _ _ => rfl

end

/-- Depths that reach the number of listeners that have yet to ask are alike to them. -/
theorem askWithin_alike {depth depth' : Nat} (hdepth : n ≤ depth) (hdepth' : n ≤ depth') :
    AskAlike n (askWithin depth) (askWithin depth') := by
  -- whoever asks has left the listeners that have yet to, so one level less is enough for its event
  induction n generalizing depth depth' with
  | zero => exact fun _ _ w hw => absurd hw (Nat.not_lt_zero _)
  | succ n ih =>
    obtain ⟨depth, rfl⟩ := Nat.exists_eq_add_of_lt hdepth
    obtain ⟨depth', rfl⟩ := Nat.exists_eq_add_of_lt hdepth'
    intro page size w hw
    apply askWith_congr (n := n) _ (Nat.le_of_lt_succ hw)
    intro event v hv
    rw [emitWithin_eq, emitWithin_eq]
    exact emitWith_congr (onlooker_pendingNested.within_askWithin _)
      (ih (Nat.le_add_right _ _) (Nat.le_add_right _ _)) hv event

/-- **The depth is no bound.**  Any two depths that reach the number of listeners that have yet to ask
deal with an event in the same way. -/
theorem emitWithin_congr {depth depth' : Nat} (hdepth : pendingNested w ≤ depth)
    (hdepth' : pendingNested w ≤ depth') (event : PageEvent) :
    emitWithin depth event w = emitWithin depth' event w := by
  rw [emitWithin_eq, emitWithin_eq]
  exact emitWith_congr (onlooker_pendingNested.within_askWithin depth)
    (askWithin_alike hdepth hdepth') (Nat.le_refl _) event

/-- **A listener that asks for a page makes a call like any other.** -/
theorem emit_nested (event : PageEvent) (w : Service) :
    emit event w = emitWith (askWith emit) event w := by
  rw [emit_eq]
  apply emitWith_congr (onlooker_pendingNested.within_askWithin _) _ (Nat.le_refl _)
  intro page size v hv
  obtain ⟨depth, hdepth⟩ := Nat.exists_eq_add_of_lt hv
  rw [hdepth]
  apply askWith_congr _ (Nat.le_add_right _ depth)
  exact fun event u hu => emitWithin_congr hu (Nat.le_refl _) event

end Paging.Tracing
