import KatakanaLsp.Number.Binary64

/-!
# JSON values

A value keeps the fields of an object as they were written, in order and with repetitions.
`canonical` gives the form in which values are compared, logged and sent: fields sorted by key,
and of several with one key the last.
-/

namespace KatakanaLsp

/-- A number: an integer of 64 bits, signed or not, or a float. -/
inductive JsonNumber where
  | int (value : Int)
  | float (value : Binary64)
  deriving DecidableEq, Repr

/-- A JSON value. -/
inductive Json where
  | null
  | bool (value : Bool)
  | number (value : JsonNumber)
  | string (value : String)
  | array (items : List Json)
  | object (fields : List (String × Json))
  deriving Repr

namespace Json

/-- An integer. -/
def int (value : Int) : Json := .number (.int value)

/-- A natural number. -/
def nat (value : Nat) : Json := .number (.int value)

/-- A string, or null where there is none. -/
def ofOption : Option String → Json
  | some s => .string s
  | none => .null

/-- An array of strings. -/
def strings (l : List String) : Json := .array (l.map .string)

/-- Adds a field to a sorted list of fields, unless its key is there already. -/
def insertField (key : String) (value : Json) : List (String × Json) → List (String × Json)
  | [] => [(key, value)]
  | f :: rest =>
    if key < f.1 then (key, value) :: f :: rest
    else if key = f.1 then f :: rest
    else f :: insertField key value rest

mutual

/-- The form with sorted keys, where a later field replaces an earlier one of its key. -/
def canonical : Json → Json
  | .array items => .array (canonicalItems items)
  | .object fields => .object (canonicalFields fields)
  | .null => .null
  | .bool b => .bool b
  | .number n => .number n
  | .string s => .string s

/-- `canonical` for each item of an array. -/
def canonicalItems : List Json → List Json
  | [] => []
  | v :: rest => canonical v :: canonicalItems rest

/-- The sorted fields of an object. The fields behind one are sorted in before it, so that it only
finds a place if none of them has its key. -/
def canonicalFields : List (String × Json) → List (String × Json)
  | [] => []
  | (k, v) :: rest => insertField k (canonical v) (canonicalFields rest)

end

/-- The fields of an object; any other value has none. -/
def fields : Json → List (String × Json)
  | .object fs => fs
  | _ => []

/-- The value of the first field with a key. -/
def field? (j : Json) (key : String) : Option Json := j.fields.lookup key

/-- Whether an object has a field with a key. -/
def hasField (j : Json) (key : String) : Bool := j.fields.any (·.1 == key)

/-- The text of a string value. -/
def asString? : Json → Option String
  | .string s => some s
  | _ => none

/-- The value of an integer. -/
def asInt? : Json → Option Int
  | .number (.int i) => some i
  | _ => none

/-- The value of a truth value. -/
def asBool? : Json → Option Bool
  | .bool b => some b
  | _ => none

end Json

end KatakanaLsp
