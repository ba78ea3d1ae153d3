import KatakanaLsp.Protocol.Params

/-!
# Methods

A method is one that the server serves, one of the protocol's that it does not serve, or unknown.
Methods that expect an answer and methods that do not are kept apart: each kind is refused where
the other is expected. A request that is not served has its parameters read all the same, for a
fault in them is reported first.
-/

namespace KatakanaLsp.Protocol

open Decode (Shape Fields Parts)

/-- What a method is to the server. -/
inductive Method where
  | initializeServer
  | initialized
  | shutdown
  | exit
  | didOpen
  | didClose
  | completion
  | cancelRequest
  | unservedRequest (params : Shape)
  | unservedNotification
  | unknown (name : String)

namespace Method

/-- A request about a place, with other fields and parts. -/
def atPlace (name : String) (own : Fields) (parts : Parts) : Shape :=
  .joined name own (Shapes.place parts)

/-- A request about a document, with other fields behind it. -/
def onDocument (name : String) (others : Fields) (parts : Parts) : Shape :=
  .joined name (.req "textDocument" Shapes.textDocument others) parts

/-- An item of a hierarchy of calls or types. -/
def hierarchyItem (name : String) (tags : Shape) : Shape :=
  .record name
    (.req "name" .text (.req "kind" .signed32 (.opt "tags" tags (.opt "detail" .text
    (.req "uri" .url (.req "range" Shapes.range (.req "selectionRange" Shapes.range
    (.opt "data" .any .done))))))))

/-- An item of a hierarchy of calls. -/
def callItem : Shape := hierarchyItem "CallHierarchyItem" (.list .signed32)

/-- An item of a hierarchy of types. -/
def typeItem : Shape := hierarchyItem "TypeHierarchyItem" .signed32

/-- A diagnostic message. -/
def diagnostic : Shape :=
  .record "Diagnostic"
    (.req "range" Shapes.range (.opt "severity" .signed32 (.opt "code" Shapes.token
    (.opt "codeDescription" (.record "CodeDescription" (.req "href" .url .done))
    (.opt "source" .text (.req "message" .text
    (.opt "relatedInformation" (.list (.record "DiagnosticRelatedInformation"
      (.req "location" Shapes.location (.req "message" .text .done))))
    (.opt "tags" (.list .signed32) (.opt "data" .any .done)))))))))

/-- Text in a format. -/
def markup : Shape :=
  .record "MarkupContent"
    (.req "kind" (.choice ["plaintext", "markdown"]) (.req "value" .text .done))

/-- Text, or text in a format. -/
def documentation : Shape := .either "Documentation" .text markup

/-- Options of formatting. -/
def formattingOptions : Shape :=
  .record "FormattingOptions"
    (.req "tabSize" .unsigned32 (.req "insertSpaces" .boolean
    (.opts ["trimTrailingWhitespace", "insertFinalNewline", "trimFinalNewlines"] .boolean .done)))

/-- A completion item that is to be resolved. -/
def completionItem : Shape :=
  .record "CompletionItem"
    (.req "label" .text
    (.opt "labelDetails" (.record "CompletionItemLabelDetails"
      (.opts ["detail", "description"] .text .done))
    (.opt "kind" .signed32
    (.opt "detail" .text
    (.opt "documentation" documentation
    (.opts ["deprecated", "preselect"] .boolean
    (.opts ["sortText", "filterText", "insertText"] .text
    (.opts ["insertTextFormat", "insertTextMode"] .signed32
    (.opt "textEdit" (.either "CompletionTextEdit" Shapes.textEdit
      (.record "InsertReplaceEdit" (.req "newText" .text (.req "insert" Shapes.range
        (.req "replace" Shapes.range .done)))))
    (.opt "additionalTextEdits" (.list Shapes.textEdit)
    (.opt "command" Shapes.command
    (.opt "commitCharacters" (.list .text)
    (.opt "data" .any
    (.opt "tags" (.list .signed32) .done))))))))))))))

/-- A code action that is to be resolved. -/
def codeAction : Shape :=
  .record "CodeAction"
    (.req "title" .text (.opt "kind" .text (.opt "diagnostics" (.list diagnostic)
    (.opt "edit" .any (.opt "command" Shapes.command (.opt "isPreferred" .boolean
    (.opt "disabled" (.record "CodeActionDisabled" (.req "reason" .text .done))
    (.opt "data" .any .done))))))))

/-- A hint inside a line that is to be resolved. -/
def inlayHint : Shape :=
  .record "InlayHint"
    (.req "position" Shapes.position
    (.req "label" (.either "InlayHintLabel" .text (.list (.record "InlayHintLabelPart"
      (.req "value" .text (.opt "tooltip" documentation (.opt "location" Shapes.location
        (.opt "command" Shapes.command .done)))))))
    (.opt "kind" .signed32 (.opt "textEdits" (.list Shapes.textEdit) (.opt "tooltip" documentation
    (.opts ["paddingLeft", "paddingRight"] .boolean (.opt "data" .any .done)))))))

/-- A symbol of the workspace that is to be resolved. -/
def workspaceSymbol : Shape :=
  .record "WorkspaceSymbol"
    (.req "name" .text (.req "kind" .signed32 (.opt "tags" (.list .signed32)
    (.opt "containerName" .text
    (.req "location" (.either "OneOf" Shapes.location (.record "WorkspaceLocation"
      (.req "uri" .url .done)))
    (.opt "data" .any .done))))))

/-- A list of files, each with some fields of text. -/
def files (name item : String) (keys : List String) : Shape :=
  .record name (.req "files" (.list (.record item
    (keys.foldr (fun key fs => .req key .text fs) .done))) .done)

/-- The requests of the protocol that the server does not serve, with their parameters. -/
def unservedRequests : List (String × Shape) :=
  let both := Shapes.progressAndPartialResult
  let goto := atPlace "GotoDefinitionParams" .done both
  [("textDocument/declaration", goto),
   ("textDocument/definition", goto),
   ("textDocument/typeDefinition", goto),
   ("textDocument/implementation", goto),
   ("textDocument/references", atPlace "ReferenceParams"
     (.req "context" (.record "ReferenceContext" (.req "includeDeclaration" .boolean .done)) .done)
     both),
   ("textDocument/prepareCallHierarchy",
     atPlace "CallHierarchyPrepareParams" .done Shapes.progress),
   ("callHierarchy/incomingCalls", .joined "CallHierarchyIncomingCallsParams"
     (.req "item" callItem .done) both),
   ("callHierarchy/outgoingCalls", .joined "CallHierarchyOutgoingCallsParams"
     (.req "item" callItem .done) both),
   ("textDocument/prepareTypeHierarchy",
     atPlace "TypeHierarchyPrepareParams" .done Shapes.progress),
   ("typeHierarchy/supertypes", .joined "TypeHierarchySupertypesParams"
     (.req "item" typeItem .done) both),
   ("typeHierarchy/subtypes", .joined "TypeHierarchySubtypesParams"
     (.req "item" typeItem .done) both),
   ("textDocument/documentHighlight", atPlace "DocumentHighlightParams" .done both),
   ("textDocument/documentLink", onDocument "DocumentLinkParams" .done both),
   ("documentLink/resolve", .record "DocumentLink"
     (.req "range" Shapes.range (.opt "target" .url (.opt "tooltip" .text
       (.opt "data" .any .done))))),
   ("textDocument/hover", atPlace "HoverParams" .done Shapes.progress),
   ("textDocument/codeLens", onDocument "CodeLensParams" .done both),
   ("codeLens/resolve", .record "CodeLens"
     (.req "range" Shapes.range (.opt "command" Shapes.command (.opt "data" .any .done)))),
   ("textDocument/foldingRange", onDocument "FoldingRangeParams" .done both),
   ("textDocument/selectionRange", onDocument "SelectionRangeParams"
     (.req "positions" (.list Shapes.position) .done) both),
   ("textDocument/documentSymbol", onDocument "DocumentSymbolParams" .done both),
   ("textDocument/semanticTokens/full", onDocument "SemanticTokensParams" .done both),
   ("textDocument/semanticTokens/full/delta", onDocument "SemanticTokensDeltaParams"
     (.req "previousResultId" .text .done) both),
   ("textDocument/semanticTokens/range", onDocument "SemanticTokensRangeParams"
     (.req "range" Shapes.range .done) both),
   ("textDocument/inlineValue", onDocument "InlineValueParams"
     (.req "range" Shapes.range (.req "context" (.record "InlineValueContext"
       (.req "frameId" .signed32 (.req "stoppedLocation" Shapes.range .done))) .done))
     Shapes.progress),
   ("textDocument/inlayHint", onDocument "InlayHintParams" (.req "range" Shapes.range .done)
     Shapes.progress),
   ("inlayHint/resolve", inlayHint),
   ("textDocument/moniker", atPlace "MonikerParams" .done both),
   ("completionItem/resolve", completionItem),
   ("textDocument/diagnostic", onDocument "DocumentDiagnosticParams"
     (.opts ["identifier", "previousResultId"] .text .done) both),
   ("workspace/diagnostic", .joined "WorkspaceDiagnosticParams"
     (.opt "identifier" .text (.req "previousResultIds" (.list (.record "PreviousResultId"
       (.req "uri" .url (.req "value" .text .done)))) .done)) both),
   ("textDocument/signatureHelp", atPlace "SignatureHelpParams"
     (.opt "context" (.record "SignatureHelpContext"
       (.req "triggerKind" .signed32 (.opt "triggerCharacter" .text (.req "isRetrigger" .boolean
         (.opt "activeSignatureHelp" .any .done))))) .done) Shapes.progress),
   ("textDocument/codeAction", onDocument "CodeActionParams"
     (.req "range" Shapes.range (.req "context" (.record "CodeActionContext"
       (.req "diagnostics" (.list diagnostic) (.opt "only" (.list .text)
         (.opt "triggerKind" .signed32 .done)))) .done)) both),
   ("codeAction/resolve", codeAction),
   ("textDocument/documentColor", onDocument "DocumentColorParams" .done both),
   ("textDocument/colorPresentation", onDocument "ColorPresentationParams"
     (.req "color" (.record "Color" (.req "red" .decimal (.req "green" .decimal
       (.req "blue" .decimal (.req "alpha" .decimal .done)))))
       (.req "range" Shapes.range .done)) both),
   ("textDocument/formatting", onDocument "DocumentFormattingParams"
     (.req "options" formattingOptions .done) Shapes.progress),
   ("textDocument/rangeFormatting", onDocument "DocumentRangeFormattingParams"
     (.req "range" Shapes.range (.req "options" formattingOptions .done)) Shapes.progress),
   ("textDocument/onTypeFormatting", atPlace "DocumentOnTypeFormattingParams"
     (.req "ch" .text (.req "options" formattingOptions .done)) .done),
   ("textDocument/rename", atPlace "RenameParams" (.req "newName" .text .done) Shapes.progress),
   ("textDocument/prepareRename", .record "TextDocumentPositionParams" Shapes.placeFields),
   ("textDocument/linkedEditingRange", atPlace "LinkedEditingRangeParams" .done Shapes.progress),
   ("textDocument/willSaveWaitUntil", .record "WillSaveTextDocumentParams"
     (.req "textDocument" Shapes.textDocument (.req "reason" .signed32 .done))),
   ("workspace/symbol", .joined "WorkspaceSymbolParams" (.req "query" .text .done)
     (.part Shapes.partialResultFields Shapes.progress)),
   ("workspaceSymbol/resolve", workspaceSymbol),
   ("workspace/willCreateFiles", files "CreateFilesParams" "FileCreate" ["uri"]),
   ("workspace/willRenameFiles", files "RenameFilesParams" "FileRename" ["oldUri", "newUri"]),
   ("workspace/willDeleteFiles", files "DeleteFilesParams" "FileDelete" ["uri"]),
   ("workspace/executeCommand", .joined "ExecuteCommandParams"
     (.req "command" .text (.field "arguments" .defaulted (.list .any) .done)) Shapes.progress)]

/-- The notifications of the protocol that do nothing here. -/
def unservedNotifications : List String :=
  ["textDocument/didChange", "textDocument/willSave", "textDocument/didSave",
   "workspace/didChangeConfiguration", "workspace/didChangeWorkspaceFolders",
   "workspace/didCreateFiles", "workspace/didRenameFiles", "workspace/didDeleteFiles",
   "workspace/didChangeWatchedFiles"]

/-- The method of a name. -/
def ofName (name : String) : Method :=
  match name with
  | "initialize" => .initializeServer
  | "initialized" => .initialized
  | "shutdown" => .shutdown
  | "exit" => .exit
  | "textDocument/didOpen" => .didOpen
  | "textDocument/didClose" => .didClose
  | "textDocument/completion" => .completion
  | "$/cancelRequest" => .cancelRequest
  | _ =>
    match unservedRequests.lookup name with
    | some params => .unservedRequest params
    | none => if name ∈ unservedNotifications then .unservedNotification else .unknown name

end Method

end KatakanaLsp.Protocol
