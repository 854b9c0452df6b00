import TestReach.Decimal.Binary

/-!
# JSON values

Objects keep their members in order, and the same name may stand in one more than once. A number is
held as what it can be used for.
-/

namespace TestReach

inductive Json.Number
  | natural (n : Nat)
  | float (x : Float)
  | tooLarge

inductive Json
  | null
  | bool (b : Bool)
  | number (n : Json.Number)
  | string (text? : Option String)
  | array (items : List Json)
  | object (members : List (Option String × Json))

namespace Json

def text (s : String) : Json := .string (some s)

def texts (ss : List String) : Json := .array (ss.map text)

def ofMembers (members : List (String × Json)) : Json :=
  .object (members.map fun (name, value) => (some name, value))

def member? (name : String) (value? : Option Json) : List (String × Json) :=
  match value? with
  | some value => [(name, value)]
  | none => []

def asText? : Json → Option String
  | string text? => text?
  | _ => none

def asBool? : Json → Option Bool
  | bool b => some b
  | _ => none

def asNatural? : Json → Option Nat
  | number (.natural n) => some n
  | _ => none

def asFloat? : Json → Option Float
  | number (.natural n) => some (Decimal.toFloat false n 1)
  | number (.float x) => some x
  | _ => none

def asArray? : Json → Option (List Json)
  | array items => some items
  | _ => none

def asListOf? {α : Type} (read? : Json → Option α) (j : Json) : Option (List α) :=
  j.asArray?.bind fun items => items.mapM read?

def asNullable? {α : Type} (read? : Json → Option α) : Json → Option (Option α)
  | null => some none
  | j => (read? j).map some

-- A record is read from an object by the names of its fields, where other names are passed over and
-- no field stands twice, or from an array by the order of its fields.
def fieldOf? (members : List (Option String × Json)) (name : String) : Option (Option Json) :=
  match members.filter fun (key, _) => key == some name with
  | [] => some none
  | [(_, value)] => some (some value)
  | _ => none

def fields? (names : List String) : Json → Option (List (Option Json))
  | object members =>
    if members.all fun (key, _) => key.isSome then names.mapM (fieldOf? members) else none
  | array items =>
    if items.length ≤ names.length then
      some ((List.range names.length).map fun i => items[i]?)
    else none
  | _ => none

def required? {α : Type} (read? : Json → Option α) (field : Option Json) : Option α :=
  field.bind read?

def optional? {α : Type} (default : α) (read? : Json → Option α) (field : Option Json) : Option α :=
  match field with
  | some j => read? j
  | none => some default

def asName? : Json → Option String
  | string text? => text?
  | object [(name, null)] => name
  | _ => none

end Json

end TestReach
