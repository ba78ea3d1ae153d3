import KatakanaLsp.Json.Printer
import KatakanaLsp.Text.Quoted
import KatakanaLsp.Url.Host

/-!
# Decoding errors

Why a JSON value does not have the shape that is asked of it, and the text that says so: what was
found, and what was expected in its place.
-/

namespace KatakanaLsp.Decode

/-- A value as errors name it: scalars by their text, arrays and objects by their kind. -/
def found : Json → String
  | .null => "null"
  | .bool b => "boolean `" ++ (if b then "true" else "false") ++ "`"
  | .number (.int i) => "integer `" ++ Decimal.intText i ++ "`"
  | .number (.float x) => "floating point `" ++ String.ofList x.text ++ "`"
  | .string s => "string " ++ Text.quoted s
  | .array _ => "sequence"
  | .object _ => "map"

/-- A number of elements in words. -/
def elements (n : Nat) : String :=
  if n = 1 then "1 element" else Decimal.text n ++ " elements"

/-- Names between commas, each in backticks. -/
def nameList (names : List String) : String :=
  String.intercalate ", " (names.map fun n => "`" ++ n ++ "`")

/-- Why a value does not have a shape. -/
inductive DecodeError where
  | missingField (key : String)
  | invalidType (value : Json) (expected : String)
  | invalidValue (value : Json) (expected : String)
  | unknownVariant (name : String) (variants : List String)
  | tooFewItems (length : Nat) (record : String) (count : Nat)
  | tooManyItems (length : Nat) (count : Option Nat)
  | noAlternative (name : String)
  | invalidUrl (cause : Url.UrlError) (text : String)

/-- The text of an error. -/
def DecodeError.message : DecodeError → String
  | .missingField key => "missing field `" ++ key ++ "`"
  | .invalidType v expected => "invalid type: " ++ found v ++ ", expected " ++ expected
  | .invalidValue v expected => "invalid value: " ++ found v ++ ", expected " ++ expected
  | .unknownVariant name variants =>
    "unknown variant `" ++ name ++ "`, expected one of " ++ nameList variants
  | .tooFewItems n record count =>
    "invalid length " ++ Decimal.text n ++ ", expected struct " ++ record ++ " with "
      ++ elements count
  | .tooManyItems n (some count) =>
    "invalid length " ++ Decimal.text n ++ ", expected " ++ elements count ++ " in sequence"
  | .tooManyItems n none =>
    "invalid length " ++ Decimal.text n ++ ", expected fewer elements in array"
  | .noAlternative name => "data did not match any variant of untagged enum " ++ name
  | .invalidUrl cause text => cause.message ++ ": " ++ Text.quoted text

end KatakanaLsp.Decode
