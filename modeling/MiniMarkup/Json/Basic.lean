/-! # JSON values

Enumerations and records have two forms each: a name alone or over `null`, and members by name or by place. -/

namespace MiniMarkup

inductive Json where
  | null
  | bool (value : Bool)
  | int (value : Int)
  /-- A number with a fraction: the mantissa times a negative power of ten. -/
  | decimal (mantissa : Int) (exponent : Nat)
  | str (value : String)
  | arr (items : List Json)
  | obj (members : List (String × Json))
  deriving Inhabited, Repr

namespace Json

def bool? : Json → Option Bool
  | bool value => some value
  | _ => none

def str? : Json → Option String
  | str value => some value
  | _ => none

/-- An integer of 32 bits without a sign. -/
def word? : Json → Option UInt32
  | int (.ofNat value) => if value < UInt32.size then some (.ofNat value) else none
  | _ => none

/-- `null` stands for none. -/
def nullable? {α : Type} (read : Json → Option α) : Json → Option (Option α)
  | null => some none
  | json => (read json).map some

/-- The name of a variant that holds nothing. -/
def variant? : Json → Option String
  | str name => some name
  | obj [(name, null)] => some name
  | _ => none

theorem variant?_eq_some_iff {json : Json} {name : String} :
    json.variant? = some name ↔ json = .str name ∨ json = .obj [(name, .null)] := by
  fun_cases variant? json <;> simp_all

/-- One of `values`, by any of its names. -/
def oneOf? {α : Type} (values : List α) (names : α → List String) (json : Json) : Option α :=
  json.variant?.bind fun name => values.find? fun value => (names value).contains name

/-- The members of a record: by name in an object, which may have others, and by place in an array,
which may be short but not long. -/
def record? (fields : List String) : Json → Option (String → Option Json)
  | obj members => some fun field => members.lookup field
  | arr items => if items.length ≤ fields.length then some fun field => items[fields.idxOf field]? else none
  | _ => none

end Json

end MiniMarkup
