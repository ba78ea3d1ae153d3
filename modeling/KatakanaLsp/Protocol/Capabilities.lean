import KatakanaLsp.Protocol.Shapes

/-!
# Client capabilities

What a client says it can do. The server asks only whether completion may be registered
dynamically, but a client whose capabilities have the wrong shape anywhere is refused.
-/

namespace KatakanaLsp.Protocol.Capabilities

open Decode (Shape Fields)

/-- A record of flags. -/
def flags (name : String) (keys : List String) : Shape := .record name (.opts keys .boolean .done)

/-- The flag for dynamic registration. -/
def dynamicRegistration : String := "dynamicRegistration"

/-- A capability that can be registered dynamically and has nothing else to say. -/
def dynamic : Shape := flags "DynamicRegistrationClientCapabilities" [dynamicRegistration]

/-- A capability to go somewhere. -/
def goto : Shape := flags "GotoCapability" [dynamicRegistration, "linkSupport"]

/-- A capability to refresh. -/
def refresh (name : String) : Shape := flags name ["refreshSupport"]

/-- A list of item kinds or similar numbers. -/
def valueSet (name : String) : Shape := .record name (.opt "valueSet" (.list .signed32) .done)

/-- A list of the properties that can be resolved late. -/
def resolveSupport (name : String) : Shape := .record name (.req "properties" (.list .text) .done)

/-- The formats of documentation. -/
def markupKinds : Shape := .list (.choice ["plaintext", "markdown"])

/-- Capabilities of the workspace. -/
def workspace : Shape :=
  .record "WorkspaceClientCapabilities"
    (.opt "applyEdit" .boolean
    (.opt "workspaceEdit" (.record "WorkspaceEditClientCapabilities"
      (.opt "documentChanges" .boolean
      (.opt "resourceOperations" (.list (.choice ["create", "rename", "delete"]))
      (.opt "failureHandling" (.choice ["abort", "transactional", "textOnlyTransactional", "undo"])
      (.opt "normalizesLineEndings" .boolean
      (.opt "changeAnnotationSupport"
        (flags "ChangeAnnotationWorkspaceEditClientCapabilities" ["groupsOnLabel"]) .done))))))
    (.opt "didChangeConfiguration" dynamic
    (.opt "didChangeWatchedFiles" (flags "DidChangeWatchedFilesClientCapabilities"
      [dynamicRegistration, "relativePatternSupport"])
    (.opt "symbol" (.record "WorkspaceSymbolClientCapabilities"
      (.opt dynamicRegistration .boolean
      (.opt "symbolKind" (valueSet "SymbolKindCapability")
      (.opt "tagSupport" .any
      (.opt "resolveSupport" (resolveSupport "WorkspaceSymbolResolveSupportCapability") .done)))))
    (.opt "executeCommand" dynamic
    (.opts ["workspaceFolders", "configuration"] .boolean
    (.opt "semanticTokens" (refresh "SemanticTokensWorkspaceClientCapabilities")
    (.opt "codeLens" (refresh "CodeLensWorkspaceClientCapabilities")
    (.opt "fileOperations" (flags "WorkspaceFileOperationsClientCapabilities"
      [dynamicRegistration, "didCreate", "willCreate", "didRename", "willRename", "didDelete",
        "willDelete"])
    (.opt "inlineValue" (refresh "InlineValueWorkspaceClientCapabilities")
    (.opt "inlayHint" (refresh "InlayHintWorkspaceClientCapabilities")
    (.opt "diagnostic" (refresh "DiagnosticWorkspaceClientCapabilities")
    .done)))))))))))))

/-- Capabilities of completion. -/
def completion : Shape :=
  .record "CompletionClientCapabilities"
    (.opt dynamicRegistration .boolean
    (.opt "completionItem" (.record "CompletionItemCapability"
      (.opts ["snippetSupport", "commitCharactersSupport"] .boolean
      (.opt "documentationFormat" markupKinds
      (.opts ["deprecatedSupport", "preselectSupport"] .boolean
      (.opt "tagSupport" .any
      (.opt "insertReplaceSupport" .boolean
      (.opt "resolveSupport" (resolveSupport "CompletionItemCapabilityResolveSupport")
      (.opt "insertTextModeSupport" (.record "InsertTextModeSupport"
        (.req "valueSet" (.list .signed32) .done))
      (.opt "labelDetailsSupport" .boolean .done)))))))))
    (.opt "completionItemKind" (valueSet "CompletionItemKindCapability")
    (.opt "contextSupport" .boolean
    (.opt "insertTextMode" .signed32
    (.opt "completionList" (.record "CompletionListCapability"
      (.opt "itemDefaults" (.list .text) .done))
    .done))))))

/-- Capabilities of a list of symbols. -/
def documentSymbol : Shape :=
  .record "DocumentSymbolClientCapabilities"
    (.opt dynamicRegistration .boolean
    (.opt "symbolKind" (valueSet "SymbolKindCapability")
    (.opt "hierarchicalDocumentSymbolSupport" .boolean
    (.opt "tagSupport" .any .done))))

/-- Capabilities of help on signatures. -/
def signatureHelp : Shape :=
  .record "SignatureHelpClientCapabilities"
    (.opt dynamicRegistration .boolean
    (.opt "signatureInformation" (.record "SignatureInformationSettings"
      (.opt "documentationFormat" markupKinds
      (.opt "parameterInformation" (flags "ParameterInformationSettings" ["labelOffsetSupport"])
      (.opt "activeParameterSupport" .boolean .done))))
    (.opt "contextSupport" .boolean .done)))

/-- Capabilities of code actions. -/
def codeAction : Shape :=
  .record "CodeActionClientCapabilities"
    (.opt dynamicRegistration .boolean
    (.opt "codeActionLiteralSupport" (.record "CodeActionLiteralSupport"
      (.req "codeActionKind" (.record "CodeActionKindLiteralSupport"
        (.req "valueSet" (.list .text) .done)) .done))
    (.opts ["isPreferredSupport", "disabledSupport", "dataSupport"] .boolean
    (.opt "resolveSupport" (resolveSupport "CodeActionCapabilityResolveSupport")
    (.opt "honorsChangeAnnotations" .boolean .done)))))

/-- Capabilities of published diagnostics. -/
def publishDiagnostics : Shape :=
  .record "PublishDiagnosticsClientCapabilities"
    (.opt "relatedInformation" .boolean
    (.opt "tagSupport" .any
    (.opts ["versionSupport", "codeDescriptionSupport", "dataSupport"] .boolean .done)))

/-- Capabilities of folding. -/
def foldingRange : Shape :=
  .record "FoldingRangeClientCapabilities"
    (.opt dynamicRegistration .boolean
    (.opt "rangeLimit" .unsigned32
    (.opt "lineFoldingOnly" .boolean
    (.opt "foldingRangeKind" (.record "FoldingRangeKindCapability"
      (.opt "valueSet" (.list (.choice ["comment", "imports", "region"])) .done))
    (.opt "foldingRange" (flags "FoldingRangeCapability" ["collapsedText"]) .done)))))

/-- Capabilities of semantic tokens. -/
def semanticTokens : Shape :=
  .record "SemanticTokensClientCapabilities"
    (.opt dynamicRegistration .boolean
    (.req "requests" (.record "SemanticTokensClientCapabilitiesRequests"
      (.opt "range" .boolean
      (.opt "full" (.either "SemanticTokensFullOptions" .boolean
        (flags "SemanticTokensFullOptions" ["delta"])) .done)))
    (.req "tokenTypes" (.list .text)
    (.req "tokenModifiers" (.list .text)
    (.req "formats" (.list (.choice ["relative"]))
    (.opts ["overlappingTokenSupport", "multilineTokenSupport", "serverCancelSupport",
      "augmentsSyntaxTokens"] .boolean .done))))))

/-- Capabilities of the editor of one document. -/
def textDocument : Shape :=
  .record "TextDocumentClientCapabilities"
    (.opt "synchronization" (flags "TextDocumentSyncClientCapabilities"
      [dynamicRegistration, "willSave", "willSaveWaitUntil", "didSave"])
    (.opt "completion" completion
    (.opt "hover" (.record "HoverClientCapabilities"
      (.opt dynamicRegistration .boolean (.opt "contentFormat" markupKinds .done)))
    (.opt "signatureHelp" signatureHelp
    (.opts ["references", "documentHighlight"] dynamic
    (.opt "documentSymbol" documentSymbol
    (.opts ["formatting", "rangeFormatting", "onTypeFormatting"] dynamic
    (.opts ["declaration", "definition", "typeDefinition", "implementation"] goto
    (.opt "codeAction" codeAction
    (.opt "codeLens" dynamic
    (.opt "documentLink" (flags "DocumentLinkClientCapabilities"
      [dynamicRegistration, "tooltipSupport"])
    (.opt "colorProvider" dynamic
    (.opt "rename" (.record "RenameClientCapabilities"
      (.opts [dynamicRegistration, "prepareSupport"] .boolean
      (.opt "prepareSupportDefaultBehavior" .signed32
      (.opt "honorsChangeAnnotations" .boolean .done))))
    (.opt "publishDiagnostics" publishDiagnostics
    (.opt "foldingRange" foldingRange
    (.opts ["selectionRange", "linkedEditingRange", "callHierarchy"] dynamic
    (.opt "semanticTokens" semanticTokens
    (.opts ["moniker", "typeHierarchy", "inlineValue"] dynamic
    (.opt "inlayHint" (.record "InlayHintClientCapabilities"
      (.opt dynamicRegistration .boolean
      (.opt "resolveSupport" (resolveSupport "InlayHintResolveClientCapabilities") .done)))
    (.opt "diagnostic" (flags "DiagnosticClientCapabilities"
      [dynamicRegistration, "relatedDocumentSupport"])
    .done))))))))))))))))))))

/-- Capabilities of the editor of notebooks. -/
def notebookDocument : Shape :=
  .record "NotebookDocumentClientCapabilities"
    (.req "synchronization" (flags "NotebookDocumentSyncClientCapabilities"
      [dynamicRegistration, "executionSummarySupport"]) .done)

/-- Capabilities of the window. -/
def window : Shape :=
  .record "WindowClientCapabilities"
    (.opt "workDoneProgress" .boolean
    (.opt "showMessage" (.record "ShowMessageRequestClientCapabilities"
      (.opt "messageActionItem" (flags "MessageActionItemCapabilities"
        ["additionalPropertiesSupport"]) .done))
    (.opt "showDocument" (.record "ShowDocumentClientCapabilities"
      (.req "support" .boolean .done)) .done)))

/-- General capabilities. -/
def general : Shape :=
  .record "GeneralClientCapabilities"
    (.opt "regularExpressions" (.record "RegularExpressionsClientCapabilities"
      (.req "engine" .text (.opt "version" .text .done)))
    (.opt "markdown" (.record "MarkdownClientCapabilities"
      (.req "parser" .text (.opt "version" .text (.opt "allowedTags" (.list .text) .done))))
    (.opt "staleRequestSupport" (.record "StaleRequestSupportClientCapabilities"
      (.req "cancel" .boolean (.req "retryOnContentModified" (.list .text) .done)))
    (.opt "positionEncodings" (.list .text) .done))))

/-- All capabilities of a client. -/
def client : Shape :=
  .record "ClientCapabilities"
    (.opt "workspace" workspace
    (.opt "textDocument" textDocument
    (.opt "notebookDocument" notebookDocument
    (.opt "window" window
    (.opt "general" general
    (.opt "experimental" .any .done))))))

end KatakanaLsp.Protocol.Capabilities
