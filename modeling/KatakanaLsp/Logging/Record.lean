/-!
# Log records

Everything the program reports is a record: how severe it is, which part of the program reports
it, and the message. The origins are the names that log filters select by.
-/

namespace KatakanaLsp.Logging

/-- How severe a record is. -/
inductive Level where
  | error
  | warn
  | info
  | debug
  | trace
  deriving DecidableEq, Repr

namespace Level

/-- The name of a level. -/
def name : Level → String
  | .error => "ERROR"
  | .warn => "WARN"
  | .info => "INFO"
  | .debug => "DEBUG"
  | .trace => "TRACE"

/-- The verbosity at which a level begins to show, from 1 for errors to 5 for traces. -/
def verbosity : Level → Nat
  | .error => 1
  | .warn => 2
  | .info => 3
  | .debug => 4
  | .trace => 5

end Level

/-- The part of the program that reports a record. -/
inductive Origin where
  | program
  | coverage
  | completion
  | backend
  | handlers
  deriving DecidableEq, Repr

/-- The dotted name of an origin; that of a part begins with that of the whole. -/
def Origin.target : Origin → String
  | .program => "japy_language_server"
  | .coverage => "japy_language_server::dialect::coverage"
  | .completion => "japy_language_server::lsp::features::completion"
  | .backend => "japy_language_server::lsp::backend"
  | .handlers => "japy_language_server::lsp::backend::handlers"

/-- A record of the log. -/
structure Record where
  level : Level
  origin : Origin
  message : String
  deriving DecidableEq, Repr

/-- A record in one line: its level and its message. -/
def Record.summary (r : Record) : String := r.level.name ++ " " ++ r.message

end KatakanaLsp.Logging
