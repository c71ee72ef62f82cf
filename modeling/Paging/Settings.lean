import Paging.Number.Lenient
import Paging.Text.Capital
import Paging.Strategy
import Paging.Fault

/-!
# Paging.Settings — pagination defaults

Settings are changed by naming fields and giving them values of any kind.  `Settings.override`
validates: every field that is wrong is reported, in the order of the fields, then every name that
is no field; whether the two page sizes fit together is looked at only when nothing else is wrong.
A change that is refused changes nothing.
-/

namespace Paging

/-- Pagination defaults. -/
structure Settings where
  /-- What a page past the end is answered with. -/
  outOfBounds : Strategy
  /-- The page size where none is given. -/
  defaultPageSize : Int
  /-- The largest page size a caller can have. -/
  maxPageSize : Int
  /-- The number of documents asked for in one batch. -/
  fetchSize : Int
  deriving DecidableEq

namespace Settings

/-- The built-in settings. -/
def builtIn : Settings := ⟨.fail, 20, 100, 100⟩

/-- Settings under which every call gets sizes of at least one, and the default is allowed. -/
structure Valid (s : Settings) : Prop where
  one_le_default : 1 ≤ s.defaultPageSize
  default_le_max : s.defaultPageSize ≤ s.maxPageSize
  one_le_fetch : 1 ≤ s.fetchSize

theorem valid_builtIn : builtIn.Valid := ⟨by decide, by decide, by decide⟩

/-! ## Fields -/

/-- The fields of the settings. -/
inductive Field
  | outOfBounds
  | defaultPageSize
  | maxPageSize
  | fetchSize
  deriving DecidableEq

/-- The name of a field. -/
def Field.name : Field → String
  | outOfBounds => "out_of_bounds"
  | defaultPageSize => "default_page_size"
  | maxPageSize => "max_page_size"
  | fetchSize => "fetch_size"

/-- Every field, in the order of the settings. -/
def Field.all : List Field := [outOfBounds, defaultPageSize, maxPageSize, fetchSize]

/-- The strategy a value names: a text whose capitals, without the blanks around it, are its name. -/
def strategy (v : Value) : Except Complaint Strategy :=
  match v with
  | .text s =>
    match Strategy.ofName? (String.ofList (Text.capitals (Text.trimmed Text.isBlank s.toList))) with
    | some strategy => .ok strategy
    | none => .error .notAStrategy
  | _ => .error .notAStrategy

/-- The value of a field: the one that is kept, or what an override makes of it. -/
def fieldValue {α : Type} (field : Field) (read : Value → Except Complaint α) (kept : α)
    (overrides : Members) : Except Issue α :=
  match overrides.lookup field.name with
  | none => .ok kept
  | some v => match read v with
    | .ok a => .ok a
    | .error complaint => .error ⟨complaint, [.field field.name]⟩

/-- The issue of a field, if it has one. -/
def issueOf {α : Type} : Except Issue α → List Issue
  | .ok _ => []
  | .error issue => [issue]

/-- The overrides that name no field. -/
def unknown (overrides : Members) : List Issue :=
  (overrides.filter fun p => !(Field.all.map Field.name).contains p.1).map fun p =>
    ⟨.unknownField, [.field p.1]⟩

/-- The settings after some fields have been given other values. -/
def override (base : Settings) (overrides : Members) : Except (List Issue) Settings :=
  let outOfBounds := fieldValue .outOfBounds strategy base.outOfBounds overrides
  let defaultPageSize :=
    fieldValue .defaultPageSize Lenient.positive base.defaultPageSize overrides
  let maxPageSize := fieldValue .maxPageSize Lenient.positive base.maxPageSize overrides
  let fetchSize := fieldValue .fetchSize Lenient.positive base.fetchSize overrides
  match outOfBounds, defaultPageSize, maxPageSize, fetchSize, unknown overrides with
  | .ok outOfBounds, .ok defaultPageSize, .ok maxPageSize, .ok fetchSize, [] =>
    if maxPageSize < defaultPageSize then .error [⟨.sizesOutOfOrder, []⟩]
    else .ok ⟨outOfBounds, defaultPageSize, maxPageSize, fetchSize⟩
  | outOfBounds, defaultPageSize, maxPageSize, fetchSize, unknown =>
    .error (issueOf outOfBounds ++ issueOf defaultPageSize ++ issueOf maxPageSize ++
      issueOf fetchSize ++ unknown)

/-- New settings from named values; the rest is built in. -/
def make (values : Members) : Except Fault Settings :=
  (builtIn.override values).mapError .invalid

/-- The current settings with some fields changed. -/
def configure (current : Settings) (values : Members) : Except Fault Settings :=
  (current.override values).mapError .invalid

/-- Assigning to a name does not change settings in place.  It is refused, except for names that
begin with an underscore: these are private, and nothing looks at what is kept under them. -/
def assign (name : String) : Except Fault Unit :=
  if name.toList.head? = some '_' then .ok () else .error (.invalid [⟨.frozen, [.field name]⟩])

end Settings

end Paging
