namespace Gateway

/-! Structured settings before they are given meaning: what a settings file or
a message holds. A table keeps its entries in the order of writing, repeated
names included, and remembers whether it was written on one line as a value.
Points in time are kept as written. A value of a kind that no setting has is
`other`. -/

inductive Document where
  | null
  | boolean (value : Bool)
  | integer (value : Int)
  | text (value : String)
  | moment (value : String)
  | list (items : List Document)
  | table (inline : Bool) (entries : List (String × Document))
  | other
  deriving Inhabited

namespace Document

/-! Views of single values. Each is `none` for a document of another kind. -/

def boolean? : Document → Option Bool
  | .boolean value => some value
  | _ => none

def text? : Document → Option String
  | .text value => some value
  | _ => none

def natural? : Document → Option Nat
  | .integer value =>
      if 0 ≤ value ∧ value < 0x10000000000000000 then some value.toNat else none
  | _ => none

def list? {α : Type} (read : Document → Option α) : Document → Option (List α)
  | .list items => items.mapM read
  | _ => none

/-- A point in time counts as a table with this one entry. -/
def momentName : String := "$__toml_private_datetime"

/-- The entries of a table whose names are free. -/
def entries? {α : Type} (read : Document → Option α) :
    Document → Option (List (String × α))
  | .table _ entries => entries.mapM (fun entry => do some (entry.1, ← read entry.2))
  | .moment value => do some [(momentName, ← read (.text value))]
  | _ => none

/-! Records: tables whose names are fixed. A known name occurs at most once and
unknown names are passed over. A list stands for a record too: its items are
the values of the first names. -/

structure Fields where
  known : List (String × Document)

def occursOnce (entries : List (String × Document)) (name : String) : Bool :=
  (entries.filter (fun entry => entry.1 == name)).length ≤ 1

def fields? (names : List String) : Document → Option Fields
  | .table _ entries =>
      if names.all (occursOnce entries) then some { known := entries } else none
  | .list items =>
      if items.length ≤ names.length then some { known := names.zip items } else none
  | .moment _ => some { known := [] }
  | _ => none

namespace Fields

def get? (fields : Fields) (name : String) : Option Document :=
  fields.known.lookup name

def required {α : Type} (fields : Fields) (name : String) (read : Document → Option α) :
    Option α :=
  (fields.get? name).bind read

/-- A value with a default. -/
def withDefault {α : Type} (fields : Fields) (name : String) (default : α)
    (read : Document → Option α) : Option α :=
  match fields.get? name with
  | none | some .null => some default
  | some document => read document

/-- A value that may be left out or be set to nothing; the two may differ. -/
def optional {α : Type} (fields : Fields) (name : String) (default : Option α)
    (read : Document → Option α) : Option (Option α) :=
  match fields.get? name with
  | none => some default
  | some .null => some none
  | some document => (read document).map some

end Fields

end Document

end Gateway
