import KatakanaLsp.Json.Basic
import KatakanaLsp.Text.Blank
import KatakanaLsp.Text.Quoted
import KatakanaLsp.Text.Utf8

/-!
# Configuration

Which documents completion is registered for, and which characters trigger it. A value comes from
the defaults, then from the environment, where blanks around it do not count and a blank value is
none, then from overrides, which are taken as they are.
-/

namespace KatakanaLsp

/-- The configuration of a server. -/
structure Config where
  languageId : String
  filePattern : String
  triggerCharacters : List String
  deriving DecidableEq, Repr

namespace Config

/-- The default language identifier. -/
def defaultLanguageId : String := "japy"

/-- The default pattern of files. -/
def defaultFilePattern : String := "**/*.japy"

/-- The default trigger characters. -/
def defaultTriggerCharacters : List String := [".", " ", "\n", "\t"]

/-- The configuration that nothing has changed. -/
def default : Config := ⟨defaultLanguageId, defaultFilePattern, defaultTriggerCharacters⟩

/-- The variable that sets the language identifier. -/
def languageIdVariable : String := "JAPY_LANGUAGE_ID"

/-- The variable that sets the pattern of files. -/
def filePatternVariable : String := "JAPY_FILE_PATTERN"

/-- The values of environment variables. -/
abbrev Environment := String → Option Bytes

/-- The setting in a variable: its text without blanks at the ends, if it is text and not blank. -/
def setting? (environment : Environment) (name : String) : Option String :=
  (((environment name).bind Utf8.toString?).map Text.trimmed).filter (· ≠ "")

/-- The configuration from an environment. -/
def ofEnvironment (environment : Environment) : Config :=
  { languageId := (setting? environment languageIdVariable).getD defaultLanguageId
    filePattern := (setting? environment filePatternVariable).getD defaultFilePattern
    triggerCharacters := defaultTriggerCharacters }

/-- Values that replace those of a configuration. -/
structure Override where
  languageId : Option String
  filePattern : Option String
  deriving DecidableEq, Repr

/-- A configuration with the values of an override in place of its own. -/
def withOverride (c : Config) (o : Override) : Config :=
  { c with
    languageId := o.languageId.getD c.languageId
    filePattern := o.filePattern.getD c.filePattern }

/-- A filter of documents by language, URL scheme and pattern; what is absent does not matter. -/
structure DocumentFilter where
  language : Option String
  scheme : Option String
  pattern : Option String
  deriving DecidableEq, Repr

/-- A filter as JSON, without fields for what is absent. -/
def DocumentFilter.json (f : DocumentFilter) : Json :=
  let field (key : String) (value : Option String) : List (String × Json) :=
    match value with
    | some v => [(key, .string v)]
    | none => []
  .object (field "language" f.language ++ field "pattern" f.pattern ++ field "scheme" f.scheme)

/-- The filters of the documents that completion is registered for. -/
def documentSelector (c : Config) : List DocumentFilter :=
  [⟨some c.languageId, none, some c.filePattern⟩]

/-- A configuration as diagnostics show it. -/
def debugText (c : Config) : String :=
  "ServerConfig \x7b language_id: " ++ Text.quoted c.languageId ++ ", file_pattern: "
    ++ Text.quoted c.filePattern ++ ", trigger_characters: " ++ Text.quotedList c.triggerCharacters
    ++ " \x7d"

end Config

end KatakanaLsp
