import Paging.Pager
import Paging.Proofs.Query.Life
import Paging.Proofs.Tracing.Aside
import Paging.Proofs.Tracing.Containment

/-!
# Paging.Proofs.Tracing.Reading — reading a page has nothing to do with telling of it

Reading deals with sources and servers.  It neither looks at switches, listeners, exporter and clock
nor changes them, so that two runs of a reading which begin in states with the same sources and
servers come to the same, piece by piece, whatever is told in one of them and not in the other
(`Matches`).  A reading that is cancelled where it waits is over at once.

As in the logic of calm actions, computations of which this holds (`Reads`) are put together from
parts of which it holds; `reads_readFeed` and `reads_read` are what the rules come to.
-/

namespace Paging

/-! ## Actions -/

/-- Two pieces of readings lead from `s` to `u` and from `t` to `v`, states with the same sources and
servers, and leave alone what telling needs. -/
structure Keeps (s t u v : Service) : Prop where
  supplies : u.SuppliesLike v
  left : u.TellsLike s
  right : v.TellsLike t

theorem Keeps.trans {s t u v u' v' : Service} (h : Keeps s t u v) (h' : Keeps u v u' v') :
    Keeps s t u' v' :=
  ⟨h'.supplies, h'.left.trans h.left, h'.right.trans h.right⟩

theorem Service.SuppliesLike.keeps {u v : Service} (h : u.SuppliesLike v) : Keeps u v u v :=
  ⟨h, .refl u, .refl v⟩

namespace Act

variable {α : Type}

/-- An action that deals with sources and servers only. -/
def Reads (x : Act α) : Prop :=
  ∀ u v, u.SuppliesLike v → (x u).1 = (x v).1 ∧ Keeps u v (x u).2 (x v).2

theorem reads_ofExcept (outcome : Except Fault α) : Reads (Act.ofExcept outcome) :=
  fun _ _ h => ⟨rfl, h.keeps⟩

end Act

open Act

namespace Service

variable {u v : Service}

theorem reads_notice (n : Notice) : Reads (notice n) := by
  intro u v h
  exact ⟨rfl, ⟨h.settings, h.taps, h.sequences, h.servers, h.queries, h.traffic⟩,
    ⟨rfl, rfl, rfl, rfl⟩, ⟨rfl, rfl, rfl, rfl⟩⟩

/-- The traffic after more contacts. -/
theorem traffic_append (h : u.SuppliesLike v) (more : List Contact) :
    (u.journal.contacts ++ more).filter (fun c => !c.isTelling) =
      (v.journal.contacts ++ more).filter fun c => !c.isTelling := by
  rw [List.filter_append, List.filter_append]
  exact congrArg (· ++ _) h.traffic

theorem reads_contact (c : Contact) : Reads (contact c) := by
  intro u v h
  exact ⟨rfl, ⟨h.settings, h.taps, h.sequences, h.servers, h.queries, traffic_append h [c]⟩,
    ⟨rfl, rfl, rfl, rfl⟩, ⟨rfl, rfl, rfl, rfl⟩⟩

theorem reads_queryUpdate (i : Nat) (f : Query → Query) : Reads (queryUpdate i f) := by
  intro u v h
  refine ⟨rfl, ⟨h.settings, h.taps, h.sequences, h.servers, ?_, h.traffic⟩,
    ⟨rfl, rfl, rfl, rfl⟩, ⟨rfl, rfl, rfl, rfl⟩⟩
  exact congrArg (List.modify · i f) h.queries

variable {α : Type}

theorem reads_withServer (i : Nat) (f : Server → Except Fault α × Server) :
    Reads (withServer i f) := by
  intro u v h
  have hserver : u.server i = v.server i := congrArg (List.getD · i default) h.servers
  refine ⟨congrArg (fun s => (f s).1) hserver,
    ⟨h.settings, h.taps, h.sequences, ?_, h.queries, h.traffic⟩,
    ⟨rfl, rfl, rfl, rfl⟩, ⟨rfl, rfl, rfl, rfl⟩⟩
  show u.servers.set i (f (u.server i)).2 = v.servers.set i (f (v.server i)).2
  rw [hserver, h.servers]

theorem reads_withSequence (i : Nat) (f : Chunked Value → Except Fault α × Chunked Value) :
    Reads (withSequence i f) := by
  intro u v h
  have hsequence : u.sequence i = v.sequence i := congrArg (List.getD · i default) h.sequences
  refine ⟨congrArg (fun c => (f c).1) hsequence,
    ⟨h.settings, h.taps, ?_, h.servers, h.queries, h.traffic⟩,
    ⟨rfl, rfl, rfl, rfl⟩, ⟨rfl, rfl, rfl, rfl⟩⟩
  show u.sequences.set i (f (u.sequence i)).2 = v.sequences.set i (f (v.sequence i)).2
  rw [hsequence, h.sequences]

theorem reads_withTap (i : Nat) (f : Stream Value → Except Fault α × Stream Value) :
    Reads (withTap i f) := by
  intro u v h
  have htap : u.tap i = v.tap i := congrArg (List.getD · i default) h.taps
  refine ⟨congrArg (fun tap : Tap => (f tap.stream).1) htap,
    ⟨h.settings, ?_, h.sequences, h.servers, h.queries, ?_⟩,
    ⟨rfl, rfl, rfl, rfl⟩, ⟨rfl, rfl, rfl, rfl⟩⟩
  · show u.taps.set i { u.tap i with stream := (f (u.tap i).stream).2 } =
      v.taps.set i { v.tap i with stream := (f (v.tap i).stream).2 }
    rw [htap, h.taps]
  · simp only [withTap, traffic, htap]
    exact traffic_append h _

end Service

/-! ## Computations that may wait -/

/-- Two runs of a reading that begin in `s` and in `t` and come to the same piece by piece, as long
as they are resumed in states with the same sources and servers. -/
def Matches {α : Type} (s t : Service) :
    Suspension Service Fault α → Suspension Service Fault α → Prop
  | .done r u, .done r' v => r = r' ∧ Keeps s t u v
  | .waiting label u resume, .waiting label' v resume' => label = label' ∧ Keeps s t u v ∧
    (∀ u v, u.SuppliesLike v → Matches u v (resume none u) (resume' none v)) ∧
    ∀ e u, resume (some e) u = .done (.error e) u ∧ resume' (some e) u = .done (.error e) u
  | _, _ => False

/-- What is done before two runs begin is part of their first pieces. -/
theorem Matches.after {α : Type} {s t u v : Service} {x y : Suspension Service Fault α}
    (h : Matches u v x y) (hkeeps : Keeps s t u v) : Matches s t x y := by
  cases x with
  | done r u' =>
    cases y with
    | done r' v' => exact ⟨h.1, hkeeps.trans h.2⟩
    | waiting => exact h.elim
  | waiting label u' resume =>
    cases y with
    | done => exact h.elim
    | waiting label' v' resume' => exact ⟨h.1, hkeeps.trans h.2.1, h.2.2⟩

/-- What comes after two runs that match goes on in the same way, if it hands on the faults with which
they are cancelled. -/
theorem Matches.andThen {α β : Type} {s t : Service} {x y : Suspension Service Fault α}
    {next : Except Fault α → Service → Suspension Service Fault β} (h : Matches s t x y)
    (hok : ∀ a u v, u.SuppliesLike v → Matches u v (next (.ok a) u) (next (.ok a) v))
    (herror : ∀ e u, next (.error e) u = .done (.error e) u) :
    Matches s t (x.andThen next) (y.andThen next) := by
  induction x generalizing s t y with
  | done r u =>
    cases y with
    | done r' v =>
      obtain ⟨rfl, hkeeps⟩ := h
      cases r with
      | ok a => exact (hok a u v hkeeps.supplies).after hkeeps
      | error e =>
        rw [Suspension.andThen_done, Suspension.andThen_done, herror, herror]
        exact ⟨rfl, hkeeps⟩
    | waiting => exact h.elim
  | waiting label u resume ih =>
    cases y with
    | done => exact h.elim
    | waiting label' v resume' =>
      obtain ⟨hlabel, hkeeps, hresume, hcancel⟩ := h
      refine ⟨hlabel, hkeeps, fun u v h => ih none u (hresume u v h), fun e u => ?_⟩
      obtain ⟨hleft, hright⟩ := hcancel e u
      simp only [hleft, hright, Suspension.andThen_done, herror, and_self]

/-- A run that matches itself leaves alone what telling needs, however it is resumed. -/
theorem Matches.always_tellsLike {α : Type} {s : Service} {x : Suspension Service Fault α}
    {used : List (Option Fault)} (h : Matches s s x x) :
    x.Always used fun _ _ v => v.TellsLike s := by
  induction x generalizing s used with
  | done r u => exact h.2.left
  | waiting label u resume ih =>
    obtain ⟨_, hkeeps, hresume, hcancel⟩ := h
    intro signal
    cases signal with
    | none =>
      apply (ih none u (hresume u u (.refl u))).mono
      exact fun _ _ v hv => hv.trans hkeeps.left
    | some e =>
      rw [(hcancel e u).1]
      exact hkeeps.left

namespace Later

variable {α β : Type}

/-- A computation that deals with sources and servers only. -/
def Reads (x : Later α) : Prop := ∀ u v, u.SuppliesLike v → Matches u v (x u) (x v)

/-- A reading leaves alone what telling needs. -/
theorem Reads.always_tellsLike {x : Later α} {used : List (Option Fault)} (hx : Reads x)
    (s : Service) : (x s).Always used fun _ _ v => v.TellsLike s :=
  (hx s s (.refl s)).always_tellsLike

theorem reads_ofAction {x : Act α} (hx : Act.Reads x) : Reads (Async.ofAction x) := hx

theorem reads_pure (a : α) : Reads (pure a : Later α) := fun _ _ h => ⟨rfl, h.keeps⟩

theorem reads_fail (fault : Fault) : Reads (Async.fail fault : Later α) := fun _ _ h => ⟨rfl, h.keeps⟩

theorem reads_wait (label : String) : Reads (Async.wait label : Later Unit) :=
  fun _ _ h => ⟨rfl, h.keeps, fun _ _ h => ⟨rfl, h.keeps⟩, fun _ _ => ⟨rfl, rfl⟩⟩

theorem Reads.bind {x : Later α} {f : α → Later β} (hx : Reads x) (hf : ∀ a, Reads (f a)) :
    Reads (x >>= f) := by
  intro u v h
  rw [Async.bind_apply, Async.bind_apply]
  exact (hx u v h).andThen hf fun _ _ => rfl

/-- A computation may look at the state, if states with the same sources and servers are the same to
it. -/
theorem reads_current_bind {f : Service → Later α}
    (hsame : ∀ u v, u.SuppliesLike v → f u = f v) (hf : ∀ u, Reads (f u)) :
    Reads (Async.ofAction Service.current >>= f) := by
  intro u v h
  show Matches u v (f u u) (f v v)
  rw [hsame u v h]
  exact hf v u v h

end Later

open Later

/-! ## Fetching -/

theorem Session.reads_send (server : Nat) (session : Option Nat) (c : Command) :
    Reads (Session.send server session c) := by
  apply (reads_ofAction (Service.reads_contact _)).bind
  intro _
  have hwait : Reads (Session.waitFor server c) := by
    apply reads_current_bind
    · intro u v h
      rw [Service.server, Service.server, h.servers]
    · intro u
      cases (u.server server).suspends with
      | true => exact reads_wait _
      | false => exact reads_pure ()
  exact hwait.bind fun _ => reads_ofAction (Service.reads_withServer server _)

theorem BatchView.reads_accept (view : BatchView) (reply : Reply) : Reads (view.accept reply) := by
  cases reply with
  | bare => exact reads_fail _
  | cursor id batch =>
    apply (reads_ofAction (Service.reads_queryUpdate view.query _)).bind
    intro _
    have hreceive : Act.Reads (receive view.query view.converter batch) := by
      intro u v h
      rw [receive, Action.bind_apply, Action.bind_apply, Act.ofExcept, Action.ofExcept_apply,
        Action.ofExcept_apply]
      cases convert view.converter batch <;> exact ⟨rfl, h.keeps⟩
    exact reads_ofAction hreceive

theorem BatchView.reads_fetch (view : BatchView) : Reads view.fetch := by
  apply reads_current_bind
  · intro u v h
    simp only [Service.query_congr h.queries, Service.server_congr h.servers]
  · intro u
    simp only
    cases (u.query view.query).isAlive with
    | false => exact reads_fail _
    | true => exact (Session.reads_send _ _ _).bind view.reads_accept

theorem Feed.reads_fetch (feed : Feed) : Reads feed.fetch := by
  cases feed with
  | chain c i =>
    apply (reads_ofAction (Service.reads_contact _)).bind
    intro _
    have hwait : Reads (Feed.waitFor c (i + 1)) := by
      unfold Feed.waitFor
      split
      · exact reads_wait _
      · exact reads_pure ()
    apply hwait.bind
    intro _
    exact (reads_ofAction (reads_ofExcept _)).bind fun _ => reads_pure _
  | chunk sequence view =>
    exact (reads_ofAction (Service.reads_withSequence sequence _)).bind fun _ => reads_pure _
  | batch view => exact view.reads_fetch.bind fun _ => reads_pure _

/-! ## Reading -/

namespace Feed

variable {u v : Service}

theorem hasMore_congr (h : u.SuppliesLike v) (feed : Feed) : feed.hasMore u = feed.hasMore v := by
  cases feed with
  | chain => rfl
  | chunk sequence view => simp only [hasMore, Service.sequence, h.sequences]
  | batch view => simp only [hasMore, BatchView.hasMore, Service.query, h.queries]

theorem horizon_congr (h : u.SuppliesLike v) (feed : Feed) : feed.horizon u = feed.horizon v := by
  cases feed with
  | chain => rfl
  | chunk sequence view => simp only [horizon, Service.sequence, h.sequences]
  | batch view => simp only [horizon, Service.server, Service.query, h.queries, h.servers]

end Feed

namespace Pager

theorem reads_probe (feed : Feed) (c : Collector Value) : Reads (probe feed c) := by
  apply (reads_ofAction (Service.reads_notice _)).bind
  intro _
  exact feed.reads_fetch.bind fun _ => reads_pure _

theorem reads_advance (feed : Feed) (c : Collector Value) : Reads (advance feed c) :=
  (reads_ofAction (Service.reads_notice _)).bind fun _ => feed.reads_fetch

theorem reads_collect (limit : Nat) (feed : Feed) (c : Collector Value) :
    Reads (collect limit feed c) := by
  induction limit generalizing feed c with
  | zero => exact reads_ofAction (reads_ofExcept _)
  | succ limit ih =>
    apply reads_current_bind
    · intro u v h
      rw [feed.hasMore_congr h]
    · intro u
      cases c.visit feed.elements (feed.hasMore u) with
      | resolved answer => exact reads_ofAction (reads_ofExcept answer)
      | probing c => exact reads_probe feed c
      | wanting c => exact (reads_advance feed c).bind fun next => ih next c

/-- **Reading a page from a feed has nothing to do with telling.** -/
theorem reads_readFeed (p : Pager) (r : Request) (feed : Feed) : Reads (p.readFeed r feed) := by
  apply reads_current_bind
  · intro u v h
    rw [feed.horizon_congr h]
  · exact fun u => reads_collect _ feed _

/-- Nor has reading a page from a stream. -/
theorem reads_read (p : Pager) (r : Request) (source : Source) :
    Reads (Async.ofAction (p.read r source)) := by
  cases source with
  | fresh s => exact reads_ofAction (reads_ofExcept _)
  | shared i => exact reads_ofAction (Service.reads_withTap i _)

end Pager

end Paging
