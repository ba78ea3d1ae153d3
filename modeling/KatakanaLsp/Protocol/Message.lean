import KatakanaLsp.Json.Printer

/-!
# Messages

A message is an object marked as version 2.0. One with an identifier and an outcome answers a
request of the server's; every other calls a method, and expects an answer if it has an identifier.
-/

namespace KatakanaLsp.Protocol

/-- What identifies a request. -/
inductive RequestId where
  | number (value : Int)
  | text (value : String)
  | null
  deriving DecidableEq, Repr

/-- An identifier as JSON. -/
def RequestId.json : RequestId → Json
  | .number n => .int n
  | .text s => .string s
  | .null => .null

/-- The identifier in a value: an integer of 64 bits with a sign, a string or null. -/
def RequestId.ofJson? : Json → Option RequestId
  | .number (.int i) => if i ≤ Decimal.maxSigned64 then some (.number i) else none
  | .string s => some (.text s)
  | .null => some .null
  | _ => none

/-- Whether a list of fields has a key twice. -/
def repeats (fields : List (String × Json)) (key : String) : Bool :=
  1 < (fields.filter (·.1 == key)).length

/-- An error that answers a request. -/
structure ResponseError where
  code : Int
  message : String
  data : Option Json

namespace ResponseError

/-- The name of a code. -/
def codeText (code : Int) : String :=
  if code = -32700 then "Parse error"
  else if code = -32600 then "Invalid request"
  else if code = -32601 then "Method not found"
  else if code = -32602 then "Invalid params"
  else if code = -32603 then "Internal error"
  else if code = -32800 then "Canceled"
  else if code = -32801 then "Content modified"
  else "Server error"

/-- An error in a line of the log. -/
def text (e : ResponseError) : String := codeText e.code ++ ": " ++ e.message

/-- What arrived is no JSON in a frame. -/
def parseError : ResponseError := ⟨-32700, "Parse error", none⟩

/-- What arrived is no message, or cannot be asked now. -/
def invalidRequest : ResponseError := ⟨-32600, "Invalid request", none⟩

/-- The method is not served. -/
def methodNotFound (name : Option String) : ResponseError :=
  ⟨-32601, "Method not found", name.map .string⟩

/-- The parameters are missing or have the wrong shape. -/
def invalidParams (message : String) : ResponseError := ⟨-32602, message, none⟩

/-- The server has not been initialized. -/
def notInitialized : ResponseError := ⟨-32002, "Server not initialized", none⟩

/-- The request was given up before it was served. -/
def canceled : ResponseError := ⟨-32800, "Canceled", none⟩

/-- An error as JSON; without data it has no field for them. -/
def json (e : ResponseError) : Json :=
  .object ([("code", .int e.code), ("message", .string e.message)]
    ++ (match e.data with
      | some d => [("data", d)]
      | none => []))

/-- The fields of an error. -/
def knownKeys : List String := ["code", "message", "data"]

/-- The error in a value: a code, a message and perhaps data, each once, and nothing else. -/
def ofJson? (j : Json) : Option ResponseError :=
  if j.fields.all (fun f => knownKeys.contains f.1) && !knownKeys.any (repeats j.fields) then do
    let code ← (j.field? "code").bind Json.asInt?
    let message ← (j.field? "message").bind Json.asString?
    if code ≤ Decimal.maxSigned64 then return ⟨code, message, j.field? "data"⟩ else none
  else none

end ResponseError

/-- What a reply says. -/
inductive Outcome where
  | result (value : Json)
  | error (cause : ResponseError)

/-- A method that is called. -/
structure Call where
  method : String
  params : Option Json
  id : Option RequestId

/-- A message that the server receives. -/
inductive Message where
  | reply (id : RequestId) (outcome : Outcome)
  | call (c : Call)

namespace Message

/-- The version that messages are marked with. -/
def version : String := "2.0"

/-- Whether a value is marked with the version. -/
def isMarked (j : Json) : Bool := (j.field? "jsonrpc").bind Json.asString? == some version

/-- The outcome in a message: a result, or else a well-formed error. A field that is given twice
says nothing. -/
def outcome? (j : Json) : Option Outcome :=
  let once (key : String) : Option Json := if repeats j.fields key then none else j.field? key
  match once "result" with
  | some v => some (.result v)
  | none => ((once "error").bind ResponseError.ofJson?).map .error

/-- The reply that a message is, if it has an identifier and an outcome. -/
def reply? (j : Json) : Option Message :=
  if ["jsonrpc", "id"].any (repeats j.fields) then none
  else do
    let id ← (j.field? "id").bind RequestId.ofJson?
    let outcome ← outcome? j
    return .reply id outcome

/-- The method that a message calls; one that is not named has the empty name. -/
def method? (j : Json) : Option String :=
  match j.field? "method" with
  | none => some ""
  | some v => v.asString?

/-- The identifier of a message, which need not have one, but must not have what is none. -/
def identifier? (j : Json) : Option (Option RequestId) :=
  match j.field? "id" with
  | none => some none
  | some v => (RequestId.ofJson? v).map some

/-- The call that a message is. -/
def call? (j : Json) : Option Message :=
  if ["jsonrpc", "id", "method", "params"].any (repeats j.fields) then none
  else do
    let method ← method? j
    let id ← identifier? j
    return .call ⟨method, (j.field? "params").map Json.canonical, id⟩

/-- The message that a value is: a reply if it can be one. -/
def ofJson? (j : Json) : Option Message :=
  if isMarked j then (reply? j).orElse fun _ => call? j else none

/-! ## Messages that the server sends -/

/-- An answer with a result. -/
def resultMessage (id : RequestId) (result : Json) : Json :=
  .object [("jsonrpc", .string version), ("result", result), ("id", id.json)]

/-- An answer with an error. -/
def errorMessage (id : RequestId) (cause : ResponseError) : Json :=
  .object [("jsonrpc", .string version), ("error", cause.json), ("id", id.json)]

/-- A request of the server's. -/
def requestMessage (id : Nat) (method : String) (params : Json) : Json :=
  .object [("jsonrpc", .string version), ("method", .string method), ("params", params),
    ("id", .nat id)]

end Message

end KatakanaLsp.Protocol
