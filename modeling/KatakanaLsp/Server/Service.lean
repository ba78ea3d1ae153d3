import KatakanaLsp.Config
import KatakanaLsp.Protocol.Params

/-!
# The service behind the protocol

What the server does when it is asked: it introduces itself and announces completion, keeps track
of which documents are open, and answers completion requests from its provider. Completion is
announced in one of two ways: in the answer to `initialize`, or, to a client that wants to hear of
it later, by a registration once `initialized` has come.
-/

namespace KatakanaLsp.Server

open Logging (Record)
open Protocol (InitializeParams OpenParams CloseParams)

/-- What the service knows between requests. -/
structure Service where
  config : Config
  provider : Completion.Provider
  openDocuments : List Url
  registersLater : Bool

/-- How completion is offered. -/
structure CompletionOptions where
  triggerCharacters : List String
  resolveProvider : Bool
  deriving DecidableEq, Repr

/-- Options as the fields of an object. -/
def CompletionOptions.fields (o : CompletionOptions) : List (String × Json) :=
  [("resolveProvider", .bool o.resolveProvider),
   ("triggerCharacters", .strings o.triggerCharacters)]

/-- The answer to `initialize`. -/
structure InitializeResult where
  completionProvider : Option CompletionOptions
  deriving DecidableEq, Repr

/-- The name under which the server introduces itself. -/
def serverName : String := "japy-language-server"

/-- The version that the server is. -/
def serverVersion : String := "0.1.1"

/-- The answer to `initialize` as JSON. Of documents, only opening and closing matter. -/
def InitializeResult.json (r : InitializeResult) : Json :=
  .object
    [("capabilities", .object
      ((match r.completionProvider with
        | some o => [("completionProvider", .object o.fields)]
        | none => [])
      ++ [("textDocumentSync", .object [("change", .nat 0), ("openClose", .bool true)])])),
     ("serverInfo", .object [("name", .string serverName), ("version", .string serverVersion)])]

/-- A capability that the server asks the client to register. -/
structure Registration where
  id : String
  method : String
  selector : List Config.DocumentFilter
  options : CompletionOptions
  deriving DecidableEq, Repr

/-- The identifier of the registration of completion. -/
def completionRegistrationId : String := "japy-completion"

/-- The method that a registration of completion is about. -/
def completionMethod : String := "textDocument/completion"

/-- The method that asks the client to register. -/
def registerMethod : String := "client/registerCapability"

/-- A registration as JSON. -/
def Registration.json (r : Registration) : Json :=
  .object
    [("id", .string r.id), ("method", .string r.method),
     ("registerOptions", .object
       (("documentSelector", .array (r.selector.map (·.json))) :: r.options.fields))]

/-- The parameters of a request to register. -/
def registrationParams (rs : List Registration) : Json :=
  .object [("registrations", .array (rs.map (·.json)))]

namespace Service

/-- A service with the dialect's provider, whose trigger characters are configured. -/
def ofConfig (config : Config) : Service :=
  ⟨config, .dialect config.triggerCharacters, [], false⟩

/-- A service with some provider. -/
def withProvider (config : Config) (provider : Completion.Provider) : Service :=
  ⟨config, provider, [], false⟩

/-- The options under which completion is announced. -/
def completionOptions (s : Service) : CompletionOptions := ⟨s.provider.triggerCharacters, false⟩

/-- The service as diagnostics show it. -/
def debugText (s : Service) : String :=
  "JapyBackend \x7b config: " ++ s.config.debugText ++ ", open_documents: \"<HashSet>\" \x7d"

/-- A record of the part that handles requests. -/
def handled (level : Logging.Level) (message : String) : Record := ⟨level, .handlers, message⟩

/-- Takes the client's greeting, and announces completion unless it is to be registered later. The
report leaves the parameters themselves out. -/
def onInitialize (s : Service) (p : InitializeParams) : Service × InitializeResult × List Record :=
  let later := p.dynamicCompletion.getD false
  let greeting :=
    [handled .info ("Received initialize from " ++ p.clientName.getD "<unknown client>"),
     handled .debug "Initialize params: <elided>"]
  if later then
    ({ s with registersLater := true }, ⟨none⟩, greeting ++
      [handled .debug
        "Client supports dynamic completion registration; deferring to initialized"])
  else ({ s with registersLater := false }, ⟨some s.completionOptions⟩, greeting)

/-- The registration of completion for the configured documents. -/
def registration (s : Service) : Registration :=
  ⟨completionRegistrationId, completionMethod, s.config.documentSelector, s.completionOptions⟩

/-- Learns that the client is ready, and says what is to be registered, if anything. -/
def onInitialized (s : Service) : Option Registration × List Record :=
  let ready := handled .info "JaPy language server initialized"
  if s.registersLater then
    (some s.registration, [ready, ⟨.debug, .backend, "Registering completion for language '"
      ++ s.config.languageId ++ "' (" ++ s.config.filePattern ++ ")"⟩])
  else (none, [ready])

/-- What the outcome of a registration is worth reporting. -/
def onRegistered (s : Service) : Except String Unit → Record
  | .ok () =>
    ⟨.info, .backend,
      "Registered completion provider for '" ++ s.config.languageId ++ "' documents"⟩
  | .error cause => ⟨.warn, .backend, "Client rejected completion registration: " ++ cause⟩

/-- Has nothing to release. -/
def onShutdown (_ : Service) : List Record := [handled .info "Received shutdown request"]

/-- Notes that a document is open. -/
def onOpen (s : Service) (p : OpenParams) : Service × List Record :=
  let documents := if p.uri ∈ s.openDocuments then s.openDocuments else s.openDocuments ++ [p.uri]
  let remark :=
    if p.languageId = s.config.languageId then []
    else [handled .debug ("Opened " ++ p.uri.text ++ " with language '" ++ p.languageId
      ++ "', expected '" ++ s.config.languageId ++ "'")]
  ({ s with openDocuments := documents }, remark ++
    [handled .info ("Opened document: URI=" ++ p.uri.text ++ ", version="
      ++ Decimal.intText p.version ++ " (" ++ Decimal.text documents.length ++ " open)")])

/-- Notes that a document is no longer open. -/
def onClose (s : Service) (p : CloseParams) : Service × List Record :=
  if p.uri ∈ s.openDocuments then
    ({ s with openDocuments := s.openDocuments.filter (· ≠ p.uri) },
      [handled .info ("Closed document: " ++ p.uri.text)])
  else (s, [handled .debug ("Closed document was not tracked: " ++ p.uri.text)])

/-- A place in a document as reports show it. -/
def placeText (p : Position) : String :=
  "Position \x7b line: " ++ Decimal.text p.line ++ ", character: " ++ Decimal.text p.character
    ++ " \x7d"

/-- Answers a completion request with all that the provider offers. -/
def onCompletion (s : Service) (c : Completion.Context) : List Completion.Item × List Record :=
  let items := (s.provider.candidatesAt c).map (·.item)
  (items,
    handled .debug ("Completion request at " ++ c.uri.text ++ ":" ++ placeText c.position
      ++ " (trigger: " ++ Text.quotedOption c.triggerCharacter ++ ")")
    :: s.provider.reportAt c
    ++ [handled .debug ("Returning " ++ Decimal.text items.length ++ " completion items")])

end Service

end KatakanaLsp.Server
