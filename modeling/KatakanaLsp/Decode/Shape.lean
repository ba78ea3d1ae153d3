import KatakanaLsp.Decode.Error
import KatakanaLsp.Url.Parse

/-!
# Shapes of JSON values

The protocol says of every message which fields its parameters have and of which type. A `Shape` is
such a description, and `Shape.read` holds a value against it. The answer is the value in its *named
form*: records are objects of the fields that are known and present, whether they came as objects or
as arrays in the order of declaration, and URLs are in their serialized form.

The first fault is reported. In an object, fields count in the order in which they stand, unknown
ones are passed over, and what is missing is looked for last, in the order of declaration. A record
that takes in the fields of others, its *parts*, reads its own fields first.
-/

namespace KatakanaLsp.Decode

/-- How a field may be left out: not at all; with null or by absence; by absence only. -/
inductive Presence where
  | required
  | optional
  | defaulted
  deriving DecidableEq, Repr

mutual

/-- What a value must look like. -/
inductive Shape where
  | any
  | boolean
  | text
  | url
  | unsigned32
  | signed32
  | decimal
  | choice (names : List String)
  | list (item : Shape)
  | dictionary (item : Shape)
  | either (name : String) (first second : Shape)
  | record (name : String) (fields : Fields)
  | joined (name : String) (own : Fields) (parts : Parts)

/-- The fields of a record in the order of declaration. -/
inductive Fields where
  | done
  | field (key : String) (presence : Presence) (shape : Shape) (rest : Fields)

/-- Groups of fields that a record takes in. -/
inductive Parts where
  | done
  | part (fields : Fields) (rest : Parts)

end

namespace Fields

/-- A required field before others. -/
def req (key : String) (shape : Shape) (rest : Fields) : Fields := .field key .required shape rest

/-- An optional field before others. -/
def opt (key : String) (shape : Shape) (rest : Fields) : Fields := .field key .optional shape rest

/-- Optional fields of one shape before others. -/
def opts (keys : List String) (shape : Shape) (rest : Fields) : Fields :=
  keys.foldr (fun key fs => .field key .optional shape fs) rest

/-- The number of fields. -/
def count : Fields → Nat
  | .done => 0
  | .field _ _ _ rest => rest.count + 1

/-- The first required field that has no value. -/
def missing? (values : List (String × Json)) : Fields → Option String
  | .done => none
  | .field key presence _ rest =>
    if presence = .required ∧ !(values.any (·.1 == key)) then some key else rest.missing? values

end Fields

/-- An integer between two bounds. -/
def readInteger (expected : String) (low high : Int) (v : Json) : Except DecodeError Json :=
  match v with
  | .number (.int i) =>
    if low ≤ i ∧ i ≤ high then .ok v else .error (.invalidValue v expected)
  | v => .error (.invalidType v expected)

/-- A URL, in its serialized form. -/
def readUrl (v : Json) : Except DecodeError Json :=
  match v with
  | .string s =>
    match Url.parse s with
    | .ok u => .ok (.string u.text)
    | .error e => .error (.invalidUrl e s)
  | v => .error (.invalidType v "a string representing an URL")

/-- One of several names: as a string, or as the only key of an object whose value is null. -/
def readChoice (names : List String) (v : Json) : Except DecodeError Json :=
  match v with
  | .string s => if s ∈ names then .ok v else .error (.unknownVariant s names)
  | .object [(key, value)] =>
    if key ∉ names then .error (.unknownVariant key names)
    else
      match value with
      | .null => .ok (.string key)
      | value => .error (.invalidType value "unit")
  | .object _ => .error (.invalidValue v "map with a single key")
  | v => .error (.invalidType v "string or map")

/-- Present fields, as long as none of the required ones is missing. -/
def complete (fields : Fields) (values : List (String × Json)) :
    Except DecodeError (List (String × Json)) :=
  match fields.missing? values with
  | some key => .error (.missingField key)
  | none => .ok values

mutual

/-- The named form of a value that has a shape. `buffered` says that the value comes from the
parts of a record; it shows only in the text of one error. -/
def Shape.read (buffered : Bool) : Shape → Json → Except DecodeError Json
  | .any, v => .ok v
  | .boolean, v =>
    match v with
    | .bool _ => .ok v
    | v => .error (.invalidType v "a boolean")
  | .text, v =>
    match v with
    | .string _ => .ok v
    | v => .error (.invalidType v "a string")
  | .url, v => readUrl v
  | .unsigned32, v => readInteger "u32" 0 0xFFFFFFFF v
  | .signed32, v => readInteger "i32" (-0x80000000) 0x7FFFFFFF v
  | .decimal, v =>
    match v with
    | .number _ => .ok v
    | v => .error (.invalidType v "f32")
  | .choice names, v => readChoice names v
  | .list item, v =>
    match v with
    | .array items => (items.mapM fun i => item.read buffered i).map .array
    | v => .error (.invalidType v "a sequence")
  | .dictionary item, v =>
    match v with
    | .object fields =>
      (fields.mapM fun f => (item.read buffered f.2).map fun w => (f.1, w)).map .object
    | v => .error (.invalidType v "a map")
  | .either name first second, v =>
    match first.read true v with
    | .ok w => .ok w
    | .error _ =>
      match second.read true v with
      | .ok w => .ok w
      | .error _ => .error (.noAlternative name)
  | .record name fields, v =>
    match v with
    | .object given => do
      let values ← given.filterMapM fun f => fields.readKey buffered f.1 f.2
      return .object (← complete fields values)
    | .array items => do
      let n := fields.count
      let values ← fields.readItems buffered (items.length, name, n) items
      if n < items.length then
        .error (.tooManyItems items.length (if buffered then some n else none))
      else return .object values
    | v => .error (.invalidType v ("struct " ++ name))
  | .joined name own parts, v =>
    match v with
    | .object given => do
      let values ← given.filterMapM fun f => own.readKey buffered f.1 f.2
      let values ← complete own values
      return .object (values ++ (← parts.readAll given))
    | v => .error (.invalidType v ("struct " ++ name))

/-- A field of an object, unless its key is unknown or it is absent. -/
def Fields.readKey (buffered : Bool) :
    Fields → String → Json → Except DecodeError (Option (String × Json))
  | .done, _, _ => .ok none
  | .field k presence shape rest, key, v =>
    if k = key then
      match presence, v with
      | .optional, .null => .ok none
      | _, v => (shape.read buffered v).map fun w => some (key, w)
    else rest.readKey buffered key v

/-- The fields of an array, which are in the order of declaration. -/
def Fields.readItems (buffered : Bool) :
    Fields → Nat × String × Nat → List Json → Except DecodeError (List (String × Json))
  | .done, _, _ => .ok []
  | .field _ .defaulted _ rest, whole, [] => rest.readItems buffered whole []
  | .field _ _ _ _, (length, name, count), [] => .error (.tooFewItems length name count)
  | .field key presence shape rest, whole, v :: items =>
    match presence, v with
    | .optional, .null => rest.readItems buffered whole items
    | _, v => do
      let w ← shape.read buffered v
      return (key, w) :: (← rest.readItems buffered whole items)

/-- The fields of all parts. -/
def Parts.readAll : Parts → List (String × Json) → Except DecodeError (List (String × Json))
  | .done, _ => .ok []
  | .part fields rest, given => do
    let values ← given.filterMapM fun f => fields.readKey true f.1 f.2
    let values ← complete fields values
    return values ++ (← rest.readAll given)

end

/-- The named form of a value that has a shape. -/
def Shape.decode (shape : Shape) (v : Json) : Except DecodeError Json := shape.read false v

end KatakanaLsp.Decode
