import Paging.Proofs.Tracing.Bystander

/-!
# Paging.Proofs.Tracing.Aside — tracing leaves sources and servers alone

Telling of a call reads the clock, runs listeners and exports spans.  Whatever these do, and however
they fail, nothing that pages are read from is touched: streams, sequences, servers and queries stand
as they did, and no contact with any of them is made (`Service.SuppliesLike`).  An action of which
this holds in every state is called aside, and telling of a call is aside (`aside_report`).
-/

namespace Paging

/-! ## What pages are read from -/

/-- The contacts with sources and servers, in order. -/
def Service.traffic (w : Service) : List Contact :=
  w.journal.contacts.filter fun contact => !contact.isTelling

/-- A state in which sources and servers stand as in another, after the same contacts with them. -/
structure Service.SuppliesLike (w v : Service) : Prop where
  settings : w.settings = v.settings
  taps : w.taps = v.taps
  sequences : w.sequences = v.sequences
  servers : w.servers = v.servers
  queries : w.queries = v.queries
  traffic : w.traffic = v.traffic

namespace Service

theorem SuppliesLike.refl (w : Service) : w.SuppliesLike w := ⟨rfl, rfl, rfl, rfl, rfl, rfl⟩

theorem SuppliesLike.trans {u v w : Service} (h : u.SuppliesLike v) (h' : v.SuppliesLike w) :
    u.SuppliesLike w where
  settings := h.settings.trans h'.settings
  taps := h.taps.trans h'.taps
  sequences := h.sequences.trans h'.sequences
  servers := h.servers.trans h'.servers
  queries := h.queries.trans h'.queries
  traffic := h.traffic.trans h'.traffic

theorem SuppliesLike.symm {u v : Service} (h : u.SuppliesLike v) : v.SuppliesLike u :=
  ⟨h.settings.symm, h.taps.symm, h.sequences.symm, h.servers.symm, h.queries.symm, h.traffic.symm⟩

/-- A contact that is not one of telling goes to the end of the traffic. -/
theorem traffic_contact {c : Contact} (h : c.isTelling = false) (w : Service) :
    (contact c w).2.traffic = w.traffic ++ [c] := by
  show (w.journal.contacts ++ [c]).filter _ = _
  simp [traffic, h]

end Service

/-! ## Actions that are aside -/

namespace Act

variable {α β : Type}

/-- An action that leaves sources and servers alone, whatever its outcome. -/
def Aside (x : Act α) : Prop := ∀ w, (x w).2.SuppliesLike w

end Act

open Act

/-- Nothing that telling does touches sources and servers. -/
theorem onlooker_suppliesLike : Onlooker Service.SuppliesLike where
  refl := .refl
  trans := .trans
  notice _ _ := ⟨rfl, rfl, rfl, rfl, rfl, rfl⟩
  contact := by
    intro c hc w
    refine ⟨rfl, rfl, rfl, rfl, rfl, ?_⟩
    show (w.journal.contacts ++ [c]).filter _ = _
    simp [Service.traffic, hc]
  clock _ := ⟨rfl, rfl, rfl, rfl, rfl, rfl⟩
  registry _ _ := ⟨rfl, rfl, rfl, rfl, rfl, rfl⟩
  tracing _ _ := ⟨rfl, rfl, rfl, rfl, rfl, rfl⟩
  claim := Service.within_claimNested .refl fun _ _ => ⟨rfl, rfl, rfl, rfl, rfl, rfl⟩

namespace Act

variable {α β : Type}

theorem aside_pure (a : α) : Aside (pure a : Act α) := onlooker_suppliesLike.within_pure a

theorem Aside.bind {x : Act α} {f : α → Act β} (hx : Aside x) (hf : ∀ a, Aside (f a)) :
    Aside (x >>= f) := onlooker_suppliesLike.within_bind hx hf

end Act

theorem Service.aside_notice (n : Notice) : Aside (notice n) := onlooker_suppliesLike.notice n

namespace Tracing

/-- An emitter that leaves sources and servers alone. -/
def AsideEmitter (emit : Emitter) : Prop := ∀ event, Aside (emit event)

theorem aside_begin : Aside begin := onlooker_suppliesLike.within_begin

/-- **Telling of a call leaves sources and servers alone**, whatever is told and whoever listens. -/
theorem aside_report {emit : Emitter} (hemit : AsideEmitter emit) (call : Call)
    (start : Option Rat) (outcome : Except Fault (Page Value)) :
    Aside (report emit call start outcome) :=
  onlooker_suppliesLike.within_report hemit call start outcome

theorem aside_emit : AsideEmitter emit := onlooker_suppliesLike.within_emit

end Tracing

end Paging
