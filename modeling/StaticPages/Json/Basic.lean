import StaticPages.Decimal

namespace StaticPages

/-- A JSON value. An object keeps its fields in the order in which they were
    first given. -/
inductive Json where
  | null
  | bool (value : Bool)
  | number (value : Decimal)
  | string (value : String)
  | array (items : List Json)
  | object (fields : List (String × Json))
  deriving Inhabited, Repr

namespace Json

def nat (n : Nat) : Json := .number (Decimal.ofNat n)

def int (n : Int) : Json := .number (Decimal.ofInt n)

def strings (items : List String) : Json := .array (items.map .string)

/-- The object of those fields that have a value. -/
def present (fields : List (String × Option Json)) : Json :=
  .object (fields.filterMap fun (key, value?) => value?.map fun value => (key, value))

/-- The fields with a value set: in its place if the key is already there. -/
def setField (fields : List (String × Json)) (key : String) (value : Json) :
    List (String × Json) :=
  match fields with
  | [] => [(key, value)]
  | (other, old) :: rest =>
    if other == key then (key, value) :: rest else (other, old) :: setField rest key value

/-- The name of a value's type. -/
def typeName : Json → String
  | null => "null"
  | bool _ => "boolean"
  | number _ => "number"
  | string _ => "string"
  | array _ => "array"
  | object _ => "object"

end Json

end StaticPages
