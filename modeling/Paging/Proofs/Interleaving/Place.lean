import Paging.Proofs.Chunked
import Paging.Proofs.Query.Conversation
import Paging.Proofs.Traffic

/-!
# Paging.Proofs.Interleaving.Place — where a call gets its pages from

A call on a feed reads the state it shares with others at one place: the sequence that is served in
chunks, or the query and its server; a chain is carried along (`Feed.place`).  What a piece of a
call does is known from the contacts that it makes, from the chunks that it fetches, and from what
it leaves alone (`Place.Does`).  Calls at places that are apart do not touch what the other reads:
two queries on two servers, or two sequences, or even one sequence, of which they change only the
count of fetches.
-/

namespace Paging

/-- Where a call gets its pages from, and whether it waits for them. -/
inductive Place
  /-- The call carries its pages along. -/
  | nowhere (waits : Bool)
  /-- A sequence that is served in chunks. -/
  | sequence (i : Nat)
  /-- A query and the server that it runs on. -/
  | query (q server : Nat) (waits : Bool)

/-- The same elements served in the same chunks. -/
structure Chunked.SameElements (c d : Chunked Value) : Prop where
  elements : c.elements = d.elements
  fetchSize : c.fetchSize = d.fetchSize
  trailing : c.trailing = d.trailing

namespace Place

/-- Whether a call at a place waits for its pages. -/
def waits : Place → Bool
  | nowhere waits => waits
  | sequence _ => false
  | query _ _ waits => waits

/-- Two calls may read from two places at the same time.  They do not share a query or a server. -/
def Apart : Place → Place → Prop
  | query q server _, query q' server' _ => q ≠ q' ∧ server ≠ server'
  | _, _ => True

/-- What is read at a place is the same in two states. -/
def Agree (u v : Service) : Place → Prop
  | nowhere _ => True
  | sequence i => (u.sequence i).SameElements (v.sequence i)
  | query q server _ => u.query q = v.query q ∧ u.server server = v.server server

/-- What is read at a place has been opened. -/
def Stands (w : Service) : Place → Prop
  | nowhere _ => True
  | sequence i => i < w.sequences.length
  | query q server waits => q < w.queries.length ∧ server < w.servers.length ∧
    (w.query q).server = server ∧ (w.server server).suspends = waits

/-- Whether the count of a sequence is changed by calls at a place. -/
def counts (i : Nat) : Place → Bool
  | sequence j => i == j
  | _ => false

/-- A piece of a call makes these contacts, fetches so many chunks, and leaves alone what is read at
places that are apart. -/
structure Does (p : Place) (said : List Contact) (fetched : Nat) (u v : Service) : Prop where
  traffic : v.traffic = u.traffic ++ said
  fetchCount : ∀ i, (v.sequence i).fetchCount =
    (u.sequence i).fetchCount + if p.counts i then fetched else 0
  length_sequences : v.sequences.length = u.sequences.length
  length_servers : v.servers.length = u.servers.length
  length_queries : v.queries.length = u.queries.length
  spares : ∀ p', p.Apart p' → p'.Agree u v

variable {p p' : Place} {said said' : List Contact} {fetched fetched' : Nat} {u v w : Service}

theorem Agree.refl (p : Place) (w : Service) : p.Agree w w := by
  cases p with
  | nowhere => trivial
  | sequence i => exact ⟨rfl, rfl, rfl⟩
  | query q server => exact ⟨rfl, rfl⟩

theorem Agree.trans (h : p.Agree u v) (h' : p.Agree v w) : p.Agree u w := by
  cases p with
  | nowhere => trivial
  | sequence i =>
    exact ⟨h.elements.trans h'.elements, h.fetchSize.trans h'.fetchSize,
      h.trailing.trans h'.trailing⟩
  | query q server => exact ⟨h.1.trans h'.1, h.2.trans h'.2⟩

theorem Agree.symm (h : p.Agree u v) : p.Agree v u := by
  cases p with
  | nowhere => trivial
  | sequence i => exact ⟨h.elements.symm, h.fetchSize.symm, h.trailing.symm⟩
  | query q server => exact ⟨h.1.symm, h.2.symm⟩

theorem Does.trans (h : p.Does said fetched u v) (h' : p.Does said' fetched' v w) :
    p.Does (said ++ said') (fetched + fetched') u w where
  traffic := by rw [h'.traffic, h.traffic, List.append_assoc]
  fetchCount i := by
    rw [h'.fetchCount, h.fetchCount]
    cases p.counts i with
    | true => exact Nat.add_assoc _ _ _
    | false => rfl
  length_sequences := h'.length_sequences.trans h.length_sequences
  length_servers := h'.length_servers.trans h.length_servers
  length_queries := h'.length_queries.trans h.length_queries
  spares p' hp' := (h.spares p' hp').trans (h'.spares p' hp')

/-- A place that a piece leaves alone stands as before. -/
theorem Stands.of_agree (h : p.Stands u) (hagree : p.Agree u v)
    (hsequences : v.sequences.length = u.sequences.length)
    (hservers : v.servers.length = u.servers.length)
    (hqueries : v.queries.length = u.queries.length) : p.Stands v := by
  cases p with
  | nowhere => trivial
  | sequence i =>
    rw [Stands, hsequences]
    exact h
  | query q server =>
    rw [Stands, hservers, hqueries, ← hagree.1, ← hagree.2]
    exact h

/-! ## What the pieces of a call do -/

section Keeps

variable (hsequences : v.sequences = u.sequences) (hservers : v.servers = u.servers)
  (hqueries : v.queries = u.queries)

include hsequences hservers hqueries

/-- Where sequences, servers and queries stand as before, so does every place. -/
theorem agree_of_keeps (p : Place) : p.Agree u v := by
  cases p with
  | nowhere => trivial
  | sequence i =>
    rw [Agree, Service.sequence, Service.sequence, hsequences]
    exact ⟨rfl, rfl, rfl⟩
  | query q server =>
    exact ⟨(Service.query_congr hqueries q).symm, (Service.server_congr hservers server).symm⟩

/-- A piece that only makes contacts. -/
theorem does_of_keeps (p : Place) (htraffic : v.traffic = u.traffic ++ said) :
    p.Does said 0 u v where
  traffic := htraffic
  fetchCount i := by
    rw [Service.sequence, hsequences, ite_self]
    rfl
  length_sequences := by rw [hsequences]
  length_servers := by rw [hservers]
  length_queries := by rw [hqueries]
  spares p' _ := agree_of_keeps hsequences hservers hqueries p'

end Keeps

/-- What tells of a call, or is written down, does nothing at any place. -/
theorem does_of_suppliesLike (p : Place) (h : v.SuppliesLike u) : p.Does [] 0 u v :=
  does_of_keeps h.sequences h.servers h.queries p (by rw [h.traffic, List.append_nil])

theorem does_contact (p : Place) {c : Contact} (hc : c.isTelling = false) (u : Service) :
    p.Does [c] 0 u (Service.contact c u).2 :=
  does_of_keeps (u := u) (v := (Service.contact c u).2) rfl rfl rfl p
    (Service.traffic_contact hc u)

/-! ## Sequences -/

theorem sequence_withSequence {α : Type} {i : Nat}
    (f : Chunked Value → Except Fault α × Chunked Value) (hi : i < u.sequences.length) :
    (Service.withSequence i f u).2.sequence i = (f (u.sequence i)).2 := by
  simp [Service.withSequence, Service.sequence, hi]

theorem sequence_withSequence_of_ne {α : Type} {i j : Nat} (h : j ≠ i)
    (f : Chunked Value → Except Fault α × Chunked Value) (u : Service) :
    (Service.withSequence i f u).2.sequence j = u.sequence j := by
  simp [Service.withSequence, Service.sequence, h.symm]

/-- Fetching a chunk changes only the count of its sequence. -/
theorem does_fetchChunk {i : Nat} (hi : i < u.sequences.length) (view : ChunkView Value) :
    (sequence i).Does [] (if (u.sequence i).hasMore view then 1 else 0) u
      (Service.withSequence i (fun c => c.fetch view) u).2 where
  traffic := (List.append_nil _).symm
  fetchCount j := by
    by_cases hj : j = i
    · subst hj
      rw [sequence_withSequence _ hi, counts, beq_self_eq_true, if_pos rfl, Chunked.fetch]
      cases (u.sequence j).hasMore view <;> rfl
    · rw [sequence_withSequence_of_ne hj, counts, if_neg (by rw [beq_iff_eq]; exact hj),
        Nat.add_zero]
  length_sequences := List.length_set
  length_servers := rfl
  length_queries := rfl
  spares p' _ := by
    cases p' with
    | nowhere => trivial
    | query => exact ⟨rfl, rfl⟩
    | sequence j =>
      by_cases hj : j = i
      · subst hj
        rw [Agree, sequence_withSequence _ hi, Chunked.fetch]
        cases (u.sequence j).hasMore view <;> exact ⟨rfl, rfl, rfl⟩
      · rw [Agree, sequence_withSequence_of_ne hj]
        exact ⟨rfl, rfl, rfl⟩

/-! ## Queries and servers -/

variable {q server : Nat} {waits : Bool}

theorem server_withServer_of_ne {α : Type} {i j : Nat} (h : j ≠ i)
    (f : Server → Except Fault α × Server) (u : Service) :
    (Service.withServer i f u).2.server j = u.server j := by
  simp [Service.withServer, Service.server, h.symm]

theorem query_queryUpdate_of_ne {i j : Nat} (h : j ≠ i) (f : Query → Query) (u : Service) :
    (Service.queryUpdate i f u).2.query j = u.query j := by
  simp [Service.queryUpdate, Service.query, h.symm]

/-- A server deals with something. -/
theorem does_withServer {α : Type} (f : Server → Except Fault α × Server) (u : Service) :
    (query q server waits).Does [] 0 u (Service.withServer server f u).2 where
  traffic := (List.append_nil _).symm
  fetchCount i := rfl
  length_sequences := rfl
  length_servers := List.length_set
  length_queries := rfl
  spares p' hp' := by
    cases p' with
    | nowhere => trivial
    | sequence => exact ⟨rfl, rfl, rfl⟩
    | query => exact ⟨rfl, (server_withServer_of_ne hp'.2.symm f u).symm⟩

/-- A query receives a batch. -/
theorem does_queryUpdate (f : Query → Query) (u : Service) :
    (query q server waits).Does [] 0 u (Service.queryUpdate q f u).2 where
  traffic := (List.append_nil _).symm
  fetchCount i := rfl
  length_sequences := rfl
  length_servers := rfl
  length_queries := List.length_modify ..
  spares p' hp' := by
    cases p' with
    | nowhere => trivial
    | sequence => exact ⟨rfl, rfl, rfl⟩
    | query => exact ⟨(query_queryUpdate_of_ne hp'.1.symm f u).symm, rfl⟩

end Place

/-- Where a call on a feed gets its pages from. -/
def Feed.place (w : Service) : Feed → Place
  | chain c _ => .nowhere c.suspends
  | chunk i _ => .sequence i
  | batch view => .query view.query (w.query view.query).server
    (w.server (w.query view.query).server).suspends

end Paging
