import Paging.Service

/-!
# Paging.Proofs.Settings — settings over every history of changes

A change gives some fields of the settings other values, or restores the built-in settings.  What a
change comes to is said field by field (`Settings.Becomes`): a field that is named has what was read
for it, any other keeps its value, no name is unknown, and the two page sizes fit together.  All that
is known of a history of changes follows from that: the settings stay valid, a change that is refused
changes nothing, and two changes that are made one after the other are one change.

That a field which is not named keeps its value is also what comes of validating everything anew:
the settings written out, with the new values entered after them (`configure_eq_make`).
-/

namespace Paging

namespace Settings

/-! ## Settings as named values -/

/-- The value of a field. -/
def get (s : Settings) : Field → Value
  | .outOfBounds => .text s.outOfBounds.name
  | .defaultPageSize => .int s.defaultPageSize
  | .maxPageSize => .int s.maxPageSize
  | .fetchSize => .int s.fetchSize

/-- Every field with its value. -/
def dump (s : Settings) : Members := Field.all.map fun field => (field.name, s.get field)

theorem lookup_dump (s : Settings) (field : Field) :
    s.dump.reverse.lookup field.name = some (s.get field) := by
  cases field <;> rfl

/-! ## Names of no field -/

/-- The names of no field, in order. -/
def strangers (values : Members) : List String :=
  (values.map Prod.fst).filter fun name => !(Field.all.map Field.name).contains name

theorem unknown_eq (values : Members) :
    unknown values = (strangers values).map fun name => ⟨.unknownField, [.field name]⟩ := by
  rw [unknown, strangers, List.filter_map, List.map_map]
  rfl

theorem unknown_eq_nil {values : Members} : unknown values = [] ↔ strangers values = [] := by
  rw [unknown_eq, List.map_eq_nil_iff]

theorem names_put (name : String) (v : Value) (values : Members) :
    (Members.put name v values).map Prod.fst =
      if name ∈ values.map Prod.fst then values.map Prod.fst
      else values.map Prod.fst ++ [name] := by
  induction values with
  | nil => rfl
  | cons p rest ih =>
    obtain ⟨n, w⟩ := p
    by_cases hn : n = name
    · simp [Members.put, hn]
    · rw [Members.put, if_neg hn, List.map_cons, ih]
      by_cases hmem : name ∈ rest.map Prod.fst
      · simp [hmem]
      · simp [hmem, Ne.symm hn]

/-- Which strangers there are after a value has been entered is a matter of the strangers before. -/
theorem strangers_put (name : String) (v : Value) (values : Members) :
    strangers (Members.put name v values) =
      if (Field.all.map Field.name).contains name ∨ name ∈ strangers values then strangers values
      else strangers values ++ [name] := by
  rw [strangers, strangers, names_put]
  by_cases hfield : (Field.all.map Field.name).contains name = true
  · -- the name of a field is filtered out wherever it stands
    simp only [hfield, true_or, if_true]
    split
    · rfl
    · simp only [List.filter_append, List.filter_cons, List.filter_nil, hfield, Bool.not_true,
        Bool.false_eq_true, if_false, List.append_nil]
  · by_cases hmem : name ∈ values.map Prod.fst
    · rw [if_pos hmem, if_pos]
      right
      exact List.mem_filter.2 ⟨hmem, by simpa using hfield⟩
    · rw [if_neg hmem, if_neg]
      · simp only [List.filter_append, List.filter_cons, List.filter_nil, hfield, Bool.not_false,
          if_true]
      · rintro (h | h)
        · exact hfield h
        · exact hmem (List.mem_filter.1 h).1

theorem strangers_foldl_put {before before' : Members} (h : strangers before = strangers before')
    (values : Members) :
    strangers (values.foldl (fun members p => Members.put p.1 p.2 members) before) =
      strangers (values.foldl (fun members p => Members.put p.1 p.2 members) before') := by
  induction values generalizing before before' with
  | nil => exact h
  | cons p rest ih =>
    apply ih
    rw [strangers_put, strangers_put, h]

/-- Values entered after others that name fields only have the strangers that they have alone. -/
theorem strangers_ofPairs_append {before : Members} (h : strangers (Members.ofPairs before) = [])
    (values : Members) :
    strangers (Members.ofPairs (before ++ values)) = strangers (Members.ofPairs values) := by
  rw [Members.ofPairs, List.foldl_append]
  exact strangers_foldl_put h values

/-! ## What a change comes to -/

/-- The settings `new` are what `base` becomes when some fields are given other values. -/
structure Becomes (base : Settings) (values : Members) (new : Settings) : Prop where
  outOfBounds : fieldValue .outOfBounds strategy base.outOfBounds values = .ok new.outOfBounds
  defaultPageSize : fieldValue .defaultPageSize Lenient.positive base.defaultPageSize values =
    .ok new.defaultPageSize
  maxPageSize : fieldValue .maxPageSize Lenient.positive base.maxPageSize values =
    .ok new.maxPageSize
  fetchSize : fieldValue .fetchSize Lenient.positive base.fetchSize values = .ok new.fetchSize
  strangers : strangers values = []
  default_le_max : new.defaultPageSize ≤ new.maxPageSize

theorem override_eq_ok {base new : Settings} {values : Members} :
    base.override values = .ok new ↔ base.Becomes values new := by
  constructor
  · intro h
    simp only [override] at h
    split at h
    · next strategy default max fetch unknown hstrategy hdefault hmax hfetch hunknown =>
      split at h
      · cases h
      · next hle =>
        cases h
        exact ⟨hstrategy, hdefault, hmax, hfetch, unknown_eq_nil.1 hunknown, Int.not_lt.1 hle⟩
    · cases h
  · intro h
    unfold override
    simp only [h.outOfBounds, h.defaultPageSize, h.maxPageSize, h.fetchSize,
      unknown_eq_nil.2 h.strangers, if_neg (Int.not_lt.2 h.default_le_max)]

theorem configure_eq_ok {base new : Settings} {values : Members} :
    base.configure values = .ok new ↔ base.Becomes values new := by
  rw [← override_eq_ok, configure]
  cases base.override values with
  | ok s => exact ⟨fun h => by cases h; rfl, fun h => by cases h; rfl⟩
  | error issues => exact ⟨nofun, nofun⟩

section Field

variable {α : Type} {field : Field} {read : Value → Except Complaint α} {kept a b : α}
  {values before after : Members}

/-- A field that is not named keeps its value. -/
theorem fieldValue_of_not_named (h : values.lookup field.name = none) :
    fieldValue field read kept values = .ok kept := by
  simp only [fieldValue, h]

/-- A field that is named has what is read for it, whatever was kept. -/
theorem fieldValue_of_named {v : Value} (h : values.lookup field.name = some v) (kept' : α) :
    fieldValue field read kept values = fieldValue field read kept' values := by
  simp only [fieldValue, h]

/-- A field that is valid, kept or given, is valid in the end. -/
theorem one_le_fieldValue {kept n : Int}
    (h : fieldValue field Lenient.positive kept values = .ok n) (hkept : 1 ≤ kept) : 1 ≤ n := by
  unfold fieldValue at h
  split at h
  · cases h
    exact hkept
  · split at h
    · next m hread =>
      cases h
      exact Lenient.one_le_of_positive hread
    · cases h

/-- The value of a field depends only on what is found for it. -/
theorem fieldValue_congr (h : before.lookup field.name = after.lookup field.name) :
    fieldValue field read kept before = fieldValue field read kept after := by
  simp only [fieldValue, h]

/-- What is entered last decides; where it does not name a field, what was entered before does. -/
theorem fieldValue_ofPairs_append :
    fieldValue field read kept (Members.ofPairs (before ++ after)) =
      if (after.reverse.lookup field.name).isSome then
        fieldValue field read kept (Members.ofPairs after)
      else fieldValue field read kept (Members.ofPairs before) := by
  have hboth : (Members.ofPairs (before ++ after)).lookup field.name =
      (after.reverse.lookup field.name).or (before.reverse.lookup field.name) := by
    rw [Members.lookup_ofPairs, List.reverse_append, List.lookup_append]
  cases hafter : after.reverse.lookup field.name with
  | none =>
    refine fieldValue_congr ?_
    rw [hboth, hafter, Members.lookup_ofPairs]
    rfl
  | some v =>
    refine fieldValue_congr ?_
    rw [hboth, hafter, Members.lookup_ofPairs, hafter]
    rfl

/-- A field that is changed twice has what the two changes together make of it. -/
theorem fieldValue_twice
    (hbefore : fieldValue field read kept (Members.ofPairs before) = .ok a)
    (hafter : fieldValue field read a (Members.ofPairs after) = .ok b) :
    fieldValue field read kept (Members.ofPairs (before ++ after)) = .ok b := by
  rw [fieldValue_ofPairs_append]
  cases hnamed : after.reverse.lookup field.name with
  | none =>
    rw [fieldValue_of_not_named (by rw [Members.lookup_ofPairs, hnamed])] at hafter
    cases hafter
    exact hbefore
  | some v =>
    have hnamed : (Members.ofPairs after).lookup field.name = some v := by
      rw [Members.lookup_ofPairs, hnamed]
    exact (fieldValue_of_named hnamed a).trans hafter

/-- Keeping a value is reading it anew from where it is written out. -/
theorem fieldValue_dump (s : Settings) (field : Field) (h : read (s.get field) = .ok kept)
    (kept' : α) : fieldValue field read kept (Members.ofPairs values) =
      fieldValue field read kept' (Members.ofPairs (s.dump ++ values)) := by
  rw [fieldValue_ofPairs_append]
  have hdump : (Members.ofPairs s.dump).lookup field.name = some (s.get field) := by
    rw [Members.lookup_ofPairs, lookup_dump]
  cases hnamed : values.reverse.lookup field.name with
  | none =>
    have hnamed : (Members.ofPairs values).lookup field.name = none := by
      rw [Members.lookup_ofPairs, hnamed]
    rw [fieldValue_of_not_named hnamed]
    simp [fieldValue, hdump, h]
  | some v =>
    exact fieldValue_of_named (by rw [Members.lookup_ofPairs, hnamed]) kept'

end Field

namespace Becomes

variable {base new newer : Settings} {values before after : Members}

/-- Valid settings become valid ones. -/
theorem valid (h : base.Becomes values new) (hbase : base.Valid) : new.Valid where
  one_le_default := one_le_fieldValue h.defaultPageSize hbase.one_le_default
  default_le_max := h.default_le_max
  one_le_fetch := one_le_fieldValue h.fetchSize hbase.one_le_fetch

/-- Only the fields that are named change. -/
theorem get_eq (h : base.Becomes values new) {field : Field}
    (hfield : values.lookup field.name = none) : new.get field = base.get field := by
  cases field with
  | outOfBounds =>
    have hkept := (fieldValue_of_not_named hfield).symm.trans h.outOfBounds
    simp only [get, Except.ok.inj hkept]
  | defaultPageSize =>
    have hkept := (fieldValue_of_not_named hfield).symm.trans h.defaultPageSize
    simp only [get, Except.ok.inj hkept]
  | maxPageSize =>
    have hkept := (fieldValue_of_not_named hfield).symm.trans h.maxPageSize
    simp only [get, Except.ok.inj hkept]
  | fetchSize =>
    have hkept := (fieldValue_of_not_named hfield).symm.trans h.fetchSize
    simp only [get, Except.ok.inj hkept]

/-- Two changes, one after the other, are one change. -/
theorem trans (h : base.Becomes (Members.ofPairs before) new)
    (h' : new.Becomes (Members.ofPairs after) newer) :
    base.Becomes (Members.ofPairs (before ++ after)) newer where
  outOfBounds := fieldValue_twice h.outOfBounds h'.outOfBounds
  defaultPageSize := fieldValue_twice h.defaultPageSize h'.defaultPageSize
  maxPageSize := fieldValue_twice h.maxPageSize h'.maxPageSize
  fetchSize := fieldValue_twice h.fetchSize h'.fetchSize
  strangers := (strangers_ofPairs_append h.strangers after).trans h'.strangers
  default_le_max := h'.default_le_max

end Becomes

/-- The name of a strategy is read as that strategy. -/
theorem strategy_get (s : Settings) : strategy (s.get .outOfBounds) = .ok s.outOfBounds := by
  have hname : Text.capitals (Text.trimmed Text.isBlank s.outOfBounds.name.toList) =
      s.outOfBounds.name.toList := by
    cases s.outOfBounds <;> decide
  simp only [get, strategy, hname, String.ofList_toList, Strategy.ofName?_name]

theorem positive_int {n : Int} (h : 1 ≤ n) : Lenient.positive (.int n) = .ok n := by
  simp [Lenient.positive, Int.not_lt.2 h]

/-- **Keeping what is not named is validating everything anew.**  Valid settings that are written
out can be read back, so that a change may as well be made by entering the new values after them. -/
theorem configure_eq_make {s : Settings} (h : s.Valid) (values : Members) :
    s.configure (Members.ofPairs values) = make (Members.ofPairs (s.dump ++ values)) := by
  have hmax : 1 ≤ s.maxPageSize := Int.le_trans h.one_le_default h.default_le_max
  have hunknown : unknown (Members.ofPairs values) =
      unknown (Members.ofPairs (s.dump ++ values)) := by
    rw [unknown_eq, unknown_eq, strangers_ofPairs_append rfl]
  unfold configure make override
  rw [fieldValue_dump s .outOfBounds (strategy_get s) builtIn.outOfBounds,
    fieldValue_dump s .defaultPageSize (positive_int h.one_le_default) builtIn.defaultPageSize,
    fieldValue_dump s .maxPageSize (positive_int hmax) builtIn.maxPageSize,
    fieldValue_dump s .fetchSize (positive_int h.one_le_fetch) builtIn.fetchSize, hunknown]

/-- A change of the settings. -/
inductive Change
  /-- Some fields are given other values.  This may be refused. -/
  | configure (values : Members)
  /-- The built-in settings are restored. -/
  | reset

end Settings

/-! ## Histories -/

namespace Service

open Settings

variable {w v : Service} {values : Members}

/-- The state after a change, whether it was made or refused. -/
def changed (w : Service) : Change → Service
  | .configure values => (configure values w).2
  | .reset => (resetSettings w).2

/-- A change is made, and only the settings change, or it is refused, and nothing does. -/
theorem configure_cases (values : Members) (w : Service) :
    (∃ new, w.settings.Becomes values new ∧
      configure values w = (.ok new, { w with settings := new })) ∨
    ∃ fault, configure values w = (.error fault, w) := by
  cases hconfigure : w.settings.configure values with
  | ok new =>
    refine .inl ⟨new, configure_eq_ok.1 hconfigure, ?_⟩
    show (Act.ofExcept (w.settings.configure values) >>= _) w = _
    rw [hconfigure]
    rfl
  | error fault =>
    refine .inr ⟨fault, ?_⟩
    show (Act.ofExcept (w.settings.configure values) >>= _) w = _
    rw [hconfigure]
    rfl

theorem configure_eq_ok_iff {new : Settings} :
    configure values w = (.ok new, v) ↔
      w.settings.Becomes values new ∧ v = { w with settings := new } := by
  constructor
  · intro h
    obtain ⟨new', hbecomes, hmade⟩ | ⟨fault, hrefused⟩ := configure_cases values w
    · cases hmade.symm.trans h
      exact ⟨hbecomes, rfl⟩
    · cases hrefused.symm.trans h
  · rintro ⟨hbecomes, rfl⟩
    have hconfigure := configure_eq_ok.2 hbecomes
    show (Act.ofExcept (w.settings.configure values) >>= _) w = _
    rw [hconfigure]
    rfl

theorem eq_of_configure_eq_error {fault : Fault} (h : configure values w = (.error fault, v)) :
    v = w := by
  obtain ⟨new, _, hmade⟩ | ⟨fault', hrefused⟩ := configure_cases values w
  · cases hmade.symm.trans h
  · cases hrefused.symm.trans h
    rfl

theorem valid_changed (hw : w.settings.Valid) (change : Change) :
    (w.changed change).settings.Valid := by
  cases change with
  | configure values =>
    obtain ⟨new, hbecomes, hmade⟩ | ⟨fault, hrefused⟩ := configure_cases values w
    · simp only [changed, hmade]
      exact hbecomes.valid hw
    · simp only [changed, hrefused]
      exact hw
  | reset => exact valid_builtIn

theorem valid_history (hw : w.settings.Valid) (changes : List Change) :
    (changes.foldl changed w).settings.Valid := by
  induction changes generalizing w with
  | nil => exact hw
  | cons change rest ih => exact ih (valid_changed hw change)

/-- **Settings over every history of changes.**  They stay valid; a change that is refused leaves
everything as it was; one that is made changes only the fields it names; and two changes made one
after the other come to what a single change with both their values comes to, where the later value
of a name counts. -/
theorem settings_over_history (hw : w.settings = .builtIn) (changes : List Change)
    (hv : v = changes.foldl changed w) :
    (v.settings.Valid ∧ v.settings.outOfBounds ∈ Strategy.all) ∧
    (∀ values fault u, configure values v = (.error fault, u) → u = v) ∧
    (∀ values new u, configure values v = (.ok new, u) → u = { v with settings := new } ∧
      ∀ field : Field, values.lookup field.name = none →
        new.get field = v.settings.get field) ∧
    ∀ before after new newer t u,
      configure (Members.ofPairs before) v = (.ok new, t) →
      configure (Members.ofPairs after) t = (.ok newer, u) →
      configure (Members.ofPairs (before ++ after)) v = (.ok newer, u) := by
  have hvalid : v.settings.Valid := by
    rw [hv]
    exact valid_history (hw ▸ valid_builtIn) changes
  refine ⟨⟨hvalid, ?_⟩, ?_, ?_, ?_⟩
  · cases v.settings.outOfBounds <;> decide
  · intro values fault u h
    exact eq_of_configure_eq_error h
  · intro values new u h
    obtain ⟨hbecomes, rfl⟩ := configure_eq_ok_iff.1 h
    exact ⟨rfl, fun field hfield => hbecomes.get_eq hfield⟩
  · intro before after new newer t u hfirst hsecond
    obtain ⟨hnew, rfl⟩ := configure_eq_ok_iff.1 hfirst
    obtain ⟨hnewer, rfl⟩ := configure_eq_ok_iff.1 hsecond
    exact configure_eq_ok_iff.2 ⟨hnew.trans hnewer, rfl⟩

/-- The default page size cannot be raised on its own, but after the largest one, in two changes or in
one. -/
theorem settings_over_history_of_two_steps :
    ({} : Service).settings = .builtIn ∧
    (∃ fault, configure [("default_page_size", .int 200)] {} = (.error fault, {})) ∧
    configure (Members.ofPairs ([("max_page_size", .int 500), ("fetch_size", .int 7)] ++
      [("default_page_size", .int 200), ("fetch_size", .bool true)]))
        ([Change.configure [("default_page_size", .int 200)]].foldl changed {}) =
      (.ok ⟨.fail, 200, 500, 1⟩, { settings := ⟨.fail, 200, 500, 1⟩ }) :=
  ⟨rfl, ⟨_, rfl⟩,
    (settings_over_history (w := {}) rfl [.configure [("default_page_size", .int 200)]] rfl).2.2.2
      [("max_page_size", .int 500), ("fetch_size", .int 7)]
      [("default_page_size", .int 200), ("fetch_size", .bool true)]
      ⟨.fail, 20, 500, 7⟩ ⟨.fail, 200, 500, 1⟩ _ _ rfl rfl⟩

end Service

end Paging
