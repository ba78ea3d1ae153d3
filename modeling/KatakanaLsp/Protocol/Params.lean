import KatakanaLsp.Completion.Provider
import KatakanaLsp.Protocol.Capabilities

/-!
# Parameters of the messages that the server answers

Each kind of parameters has a shape, and a value of that shape is read into a structure of what the
server looks at. `decode?` of a structure is the shape's reading followed by that.
-/

namespace KatakanaLsp.Protocol

open Decode (Shape DecodeError)

/-- A value below a value, by the keys on the way. -/
def valueAt? : List String → Json → Option Json
  | [], j => some j
  | key :: keys, j => (j.field? key).bind (valueAt? keys)

/-- A text below a value. -/
def textAt? (keys : List String) (j : Json) : Option String := (valueAt? keys j).bind Json.asString?

/-- A number below a value. -/
def integerAt? (keys : List String) (j : Json) : Option Int := (valueAt? keys j).bind Json.asInt?

/-- The URL below a value in named form. -/
def urlAt (keys : List String) (j : Json) : Url := ⟨(textAt? keys j).getD ""⟩

/-! ## `initialize` -/

/-- What the server looks at when it is initialized. -/
structure InitializeParams where
  clientName : Option String
  dynamicCompletion : Option Bool
  deriving DecidableEq, Repr

namespace InitializeParams

/-- The client that is named to the server. -/
def clientInfo : Shape := .record "ClientInfo" (.req "name" .text (.opt "version" .text .done))

/-- The shape of the parameters. -/
def shape : Shape :=
  .record "InitializeParams"
    (.opt "processId" .unsigned32
    (.opt "rootPath" .text
    (.opt "rootUri" .url
    (.opt "initializationOptions" .any
    (.req "capabilities" Capabilities.client
    (.opt "trace" (.choice ["off", "messages", "verbose"])
    (.opt "workspaceFolders" (.list (.record "WorkspaceFolder"
      (.req "uri" .url (.req "name" .text .done))))
    (.opt "clientInfo" clientInfo
    (.opt "locale" .text .done)))))))))

/-- The parameters in a value. -/
def decode (v : Json) : Except DecodeError InitializeParams :=
  (shape.decode v).map fun j =>
    { clientName := textAt? ["clientInfo", "name"] j
      dynamicCompletion :=
        (valueAt? ["capabilities", "textDocument", "completion", Capabilities.dynamicRegistration]
          j).bind Json.asBool? }

end InitializeParams

/-! ## Open documents -/

/-- A document that was opened. -/
structure OpenParams where
  uri : Url
  languageId : String
  version : Int
  deriving DecidableEq, Repr

/-- The parameters in a value. -/
def OpenParams.decode (v : Json) : Except DecodeError OpenParams :=
  (Shape.decode (.record "DidOpenTextDocumentParams"
    (.req "textDocument" Shapes.textDocumentItem .done)) v).map fun j =>
    { uri := urlAt ["textDocument", "uri"] j
      languageId := (textAt? ["textDocument", "languageId"] j).getD ""
      version := (integerAt? ["textDocument", "version"] j).getD 0 }

/-- A document that was closed. -/
structure CloseParams where
  uri : Url
  deriving DecidableEq, Repr

/-- The parameters in a value. -/
def CloseParams.decode (v : Json) : Except DecodeError CloseParams :=
  (Shape.decode (.record "DidCloseTextDocumentParams"
    (.req "textDocument" Shapes.textDocument .done)) v).map fun j =>
    ⟨urlAt ["textDocument", "uri"] j⟩

/-! ## Requests to give up -/

/-- The request that is to be given up: its identifier, as JSON. -/
def canceledId (v : Json) : Except DecodeError Json :=
  (Shape.decode (.record "CancelParams" (.req "id" Shapes.token .done)) v).map fun j =>
    (j.field? "id").getD .null

/-! ## Completion -/

/-- The shape of a completion request. -/
def completionShape : Shape :=
  .joined "CompletionParams"
    (.opt "context" (.record "CompletionContext"
      (.req "triggerKind" .signed32 (.opt "triggerCharacter" .text .done))) .done)
    (Shapes.place Shapes.progressAndPartialResult)

/-- The context of the completion request in a value. -/
def completionContext (v : Json) : Except DecodeError Completion.Context :=
  (completionShape.decode v).map fun j =>
    { uri := urlAt ["textDocument", "uri"] j
      position :=
        { line := ((integerAt? ["position", "line"] j).getD 0).toNat
          character := ((integerAt? ["position", "character"] j).getD 0).toNat }
      triggerKind := integerAt? ["context", "triggerKind"] j
      triggerCharacter := textAt? ["context", "triggerCharacter"] j }

end KatakanaLsp.Protocol
