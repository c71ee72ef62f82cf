import Paging.Proofs.Effect.InStep
import Paging.Proofs.Interleaving.Turns
import Paging.Proofs.Tracing.Inquiry

/-!
# Paging.Proofs.Tracing.Transparency — with and without tracing

The same calls are made twice, under the same schedule: once in a state in which whatever telling runs
into is contained, and once with tracing off.  Every call answers the same at the same moment, and
asks its source for the same.  Listeners may fail, come and go, forget the events, switch tracing off
or ask for pages of their own, and spans may fail in every part but the tracer.

What two runs share at every moment is that sources and servers stand alike and that telling does not
matter in either (`Unseen`).  Readings go in step because they do not look at anything else, and
telling of a call neither changes its outcome nor touches what stands alike.
-/

namespace Paging

open Tracing

/-! ## Calls in step -/

/-- States of two runs that differ only in what no call looks at. -/
structure Unseen (K K' : Service → Prop) (u v : Service) : Prop where
  supplies : u.SuppliesLike v
  left : K u
  right : K' v

variable {K K' : Service → Prop} {Starts Starts' : Option Rat → Prop} {u v : Service}

theorem Reading.aside_close (a : Reading) (start : Option Rat) (outcome : Except Fault (Page Value)) :
    Act.Aside (a.close start outcome) := by
  apply (aside_report aside_emit a.call start outcome).bind
  intro page
  exact (Service.aside_notice _).bind fun _ => Act.aside_pure page

/-- Where telling does not matter, a call that is closed has the outcome of its reading. -/
theorem Tells.close (htells : Tells K Starts) (hu : K u) {start : Option Rat} (hstart : Starts start)
    (a : Reading) (outcome : Except Fault (Page Value)) :
    ∃ t, a.close start outcome u = (outcome, t) ∧ K t := by
  obtain ⟨t, hreport, ht⟩ := htells.reports u a.call start outcome hu hstart
  cases outcome with
  | ok page =>
    refine ⟨(logResolved a.request page t).2, ?_, htells.tellsLike t _ ht ⟨rfl, rfl, rfl, rfl⟩⟩
    rw [Reading.close, Action.bind_of_ok hreport]
    rfl
  | error fault =>
    refine ⟨t, ?_, ht⟩
    rw [Reading.close, Action.bind_of_error hreport]

/-- Readings that match, and what comes after them, go in step where telling does not matter. -/
theorem Matches.inStep {α β : Type} {s t : Service} {x y : Suspension Service Fault α}
    {next next' : Except Fault α → Service → Suspension Service Fault β}
    (htells : Tells K Starts) (htells' : Tells K' Starts') (h : Matches s t x y) (hs : K s)
    (ht : K' t) (hnext : ∀ r u v, Unseen K K' u v →
      (next r u).InStep (Unseen K K') (next' r v)) :
    (x.andThen next).InStep (Unseen K K') (y.andThen next') := by
  have hafter : ∀ {s t u v}, K s → K' t → Keeps s t u v → Unseen K K' u v := fun hs ht hkeeps =>
    ⟨hkeeps.supplies, htells.tellsLike _ _ hs hkeeps.left, htells'.tellsLike _ _ ht hkeeps.right⟩
  induction x generalizing s t y with
  | done r u =>
    cases y with
    | done r' v =>
      obtain ⟨rfl, hkeeps⟩ := h
      exact hnext r u v (hafter hs ht hkeeps)
    | waiting => exact h.elim
  | waiting label u resume ih =>
    cases y with
    | done => exact h.elim
    | waiting label' v resume' =>
      obtain ⟨hlabel, hkeeps, hresume, hcancel⟩ := h
      refine ⟨hlabel, hafter hs ht hkeeps, fun signal u v hunseen => ?_⟩
      cases signal with
      | none => exact ih none u (hresume u v hunseen.supplies) hunseen.left hunseen.right
      | some e =>
        -- a reading that is cancelled is over, and its call is closed with the fault
        show ((resume (some e) u).andThen next).InStep _ ((resume' (some e) v).andThen next')
        rw [(hcancel e u).1, (hcancel e v).2]
        exact hnext (.error e) u v hunseen

/-- **A call goes in step with itself** from states that differ only in what no call looks at. -/
theorem Inquiry.inStep_body (htells : Tells K Starts) (htells' : Tells K' Starts') (c : Inquiry)
    (h : Unseen K K' u v) : (c.body u).InStep (Unseen K K') (c.body v) := by
  rcases c.accepted_cases with ⟨fault, _, hbody⟩ | ⟨a, _, hbody, hreads⟩
  · rw [hbody]
    exact ⟨rfl, h⟩
  · obtain ⟨start, s, hleft, hstart, hs⟩ := htells.begins u h.left
    obtain ⟨start', t, hright, hstart', ht⟩ := htells'.begins v h.right
    have hsupplies : s.SuppliesLike t := by
      have hu := aside_begin u
      have hv := aside_begin v
      rw [hleft] at hu
      rw [hright] at hv
      exact hu.trans (h.supplies.trans hv.symm)
    rw [hbody, Reading.traced_apply hleft, Reading.traced_apply hright]
    apply (hreads s t hsupplies).inStep htells htells' hs ht
    intro outcome u v hunseen
    obtain ⟨u', hclose, hu'⟩ := htells.close hunseen.left hstart a outcome
    obtain ⟨v', hclose', hv'⟩ := htells'.close hunseen.right hstart' a outcome
    have hu := a.aside_close start outcome u
    have hv := a.aside_close start' outcome v
    rw [hclose] at hu
    rw [hclose'] at hv
    rw [Reading.closing_of_close hclose, Reading.closing_of_close hclose']
    exact ⟨rfl, hu.trans (hunseen.supplies.trans hv.symm), hu', hv'⟩

/-! ## Schedules -/

/-- The state as it would be with tracing off. -/
def Service.untraced (w : Service) : Service := { w with tracing := .disabled }

namespace Pool

variable {ι : Type} {P S : Pool ι Service Fault (Page Value)}

/-- Moves between states in which sources and servers stand alike give the same account. -/
theorem account_eq {e e' : Entry ι Service Fault (Page Value)}
    (h : e.InStep Service.SuppliesLike e') : account e = account e' := by
  rw [account, account, h.heard, h.after.traffic, h.before.traffic]
  simp only [Service.sequence, h.after.sequences, h.before.sequences]

variable [DecidableEq ι]

theorem accounts_eq (h : List.Forall₂ (Entry.InStep Service.SuppliesLike) P.log S.log) (i : ι) :
    P.accounts i = S.accounts i := by
  rw [accounts, accounts]
  generalize P.log = log, S.log = log' at h ⊢
  induction h with
  | nil => rfl
  | cons hentry _ ih =>
    rw [List.filter_cons, List.filter_cons, hentry.who]
    split
    · rw [List.map_cons, List.map_cons, ih, account_eq hentry]
    · exact ih

/-- **Tracing is transparent.**  Whatever calls are made and however they take turns, are cancelled or
let go of, each answers the same as with tracing off, and has asked its source for the same at every
moment. -/
theorem transparent {w : Service} (hw : w.Contained) (calls : ι → Inquiry)
    (moves : List (ι × Move Fault))
    (hP : P = (start w fun i => (calls i).body).run moves)
    (hS : S = (start w.untraced fun i => (calls i).body).run moves) :
    (∀ i, P.accounts i = S.accounts i) ∧ P.state.SuppliesLike S.state ∧
      List.Forall₂ (Entry.InStep Service.SuppliesLike) P.log S.log := by
  obtain ⟨K, Starts, htells, hleft⟩ := exists_tells (.inr hw)
  obtain ⟨K', Starts', htells', hright⟩ := exists_tells (w := w.untraced) (.inl rfl)
  have hstart : Unseen K K' w w.untraced := ⟨⟨rfl, rfl, rfl, rfl, rfl, rfl⟩, hleft, hright⟩
  have hstep : P.InStep (Unseen K K') S := by
    rw [hP, hS]
    apply InStep.run
    exact inStep_start hstart fun i u v h => (calls i).inStep_body htells htells' h
  have hlog : List.Forall₂ (Entry.InStep Service.SuppliesLike) P.log S.log :=
    hstep.log.imp fun e e' h => ⟨h.who, h.begins, h.heard, h.before.supplies, h.after.supplies⟩
  exact ⟨accounts_eq hlog, hstep.state.supplies, hlog⟩

end Pool

/-- A state in which tracing is on and everything that can get in the way does: a listener asks for a
page of its own, forgets the events and fails, another one switches tracing off, and spans cannot be
started. -/
def Service.meddled : Service where
  tracing := { enabled := true, captures := true, threshold := .whole 0, registry := [0, 1] }
  listeners := [⟨"audit", [.nested 2 2, .clear, .raise (.raised .valueError "full")], false⟩,
    ⟨"switch", [.disable, .remove "audit"], false⟩]
  clock := { tick := 1, face := fun count => some count }
  exporter := some { start := some (.raised .runtimeError "no span") }
  taps := [⟨.ofList [.int 1, .int 2, .int 3], true⟩]

theorem Service.contained_meddled : meddled.Contained := by
  refine ⟨?_, ?_, fun _ => rfl, by decide +kernel⟩
  · intro l hl fault hfault
    simp only [meddled, List.mem_cons, List.not_mem_nil, or_false] at hl
    rcases hl with rfl | rfl
    · simp only [List.mem_cons, reduceCtorEq, false_or, List.not_mem_nil, or_false,
        Reaction.raise.injEq] at hfault
      rw [hfault]
      rfl
    · simp at hfault
  · rintro e ⟨⟩
    exact ⟨rfl, by rintro fault ⟨⟩; rfl, nofun, nofun⟩

namespace Pool

/-- A call on a chain that makes its readers wait, and one on a watched stream. -/
def pair : Bool → Inquiry
  | true => .feed ⟨.fail⟩
      (some (.chain ⟨[⟨[.int 6], none, none⟩, ⟨[.int 7], none, none⟩], true⟩ 0)) 1 2
  | false => .stream ⟨.fail⟩ (some (.shared 0)) 1 2

/-- The first call waits, the second is made, and the first goes on. -/
def inTurn : List (Bool × Move Fault) := [(true, .step), (false, .step), (true, .step)]

/-- Both calls have their pages, and the stream was pulled three times. -/
theorem transparent_of_meddled :
    Service.meddled.Contained ∧
    ((start Service.meddled fun i => (pair i).body).run inTurn).outcome true =
      some (.ok ⟨[.int 6, .int 7], 1, true⟩) ∧
    ((start Service.meddled fun i => (pair i).body).run inTurn).outcome false =
      some (.ok ⟨[.int 1, .int 2], 1, false⟩) ∧
    ((start Service.meddled fun i => (pair i).body).run inTurn).said false =
      [.pull 0, .pull 1, .pull 2] := by
  have haccounts := (transparent Service.contained_meddled pair inTurn rfl rfl).1
  refine ⟨Service.contained_meddled, ?_, ?_, ?_⟩
  · rw [outcome, haccounts]
    rfl
  · rw [outcome, haccounts]
    rfl
  · rw [said, haccounts]
    rfl

end Pool

end Paging
