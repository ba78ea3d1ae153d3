import KatakanaLsp.Decode.Shape

/-!
# Shapes that many messages share

Places in documents, identifiers of documents, and the two tokens that a request may carry.
-/

namespace KatakanaLsp.Protocol.Shapes

open Decode (Shape Fields Parts)

/-- A place in a document. -/
def position : Shape :=
  .record "Position" (.req "line" .unsigned32 (.req "character" .unsigned32 .done))

/-- A stretch of a document. -/
def range : Shape := .record "Range" (.req "start" position (.req "end" position .done))

/-- A document. -/
def textDocument : Shape := .record "TextDocumentIdentifier" (.req "uri" .url .done)

/-- A document with its text, as it is opened. -/
def textDocumentItem : Shape :=
  .record "TextDocumentItem"
    (.req "uri" .url (.req "languageId" .text (.req "version" .signed32 (.req "text" .text .done))))

/-- A command for the editor or the server. -/
def command : Shape :=
  .record "Command"
    (.req "title" .text (.req "command" .text (.opt "arguments" (.list .any) .done)))

/-- A change of text. -/
def textEdit : Shape := .record "TextEdit" (.req "range" range (.req "newText" .text .done))

/-- A stretch of some document. -/
def location : Shape := .record "Location" (.req "uri" .url (.req "range" range .done))

/-- A number or a string by which progress is reported. -/
def token : Shape := .either "NumberOrString" .signed32 .text

/-- The place a request is about. -/
def placeFields : Fields := .req "textDocument" textDocument (.req "position" position .done)

/-- The token for progress reports. -/
def progressFields : Fields := .opt "workDoneToken" token .done

/-- The token for partial results. -/
def partialResultFields : Fields := .opt "partialResultToken" token .done

/-- Parts of a request that reports progress. -/
def progress : Parts := .part progressFields .done

/-- Parts of a request that reports progress and partial results. -/
def progressAndPartialResult : Parts := .part progressFields (.part partialResultFields .done)

/-- Parts of a request about a place. -/
def place (rest : Parts) : Parts := .part placeFields rest

end KatakanaLsp.Protocol.Shapes
