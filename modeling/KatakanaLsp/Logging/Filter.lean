import KatakanaLsp.Logging.Record
import KatakanaLsp.Text.Alphanumeric
import KatakanaLsp.Text.Blank
import KatakanaLsp.Text.Decimal
import KatakanaLsp.Text.Utf8

/-!
# Log filters

A filter is a list of directives, each a verbosity with the targets it is for; a record is shown if
the directive with the longest target that fits lets its level through. A directive is written as a
level, a target, or both, as in `japy_language_server=debug`. Directives about spans are understood,
but no record here is made inside a span, so they let nothing through.
-/

namespace KatakanaLsp.Logging

/-- Why a text is no directive. -/
inductive DirectiveError where
  | malformed
  | badLevel
  deriving DecidableEq, Repr

/-- The text of an error. -/
def DirectiveError.message : DirectiveError → String
  | .malformed => "invalid filter directive"
  | .badLevel =>
    "error parsing level filter: expected one of \"off\", \"error\", \"warn\", \"info\", "
      ++ "\"debug\", \"trace\", or a number 0-5"

/-- A directive: up to which verbosity the records of a target are shown. Without a target it is
for all records. -/
structure Directive where
  target : Option String
  inSpan : Bool
  verbosity : Nat
  deriving DecidableEq, Repr

/-- The verbosity that shows everything. -/
def fullVerbosity : Nat := Level.trace.verbosity

/-- The verbosities by name. -/
def verbosityNames : List (String × Nat) :=
  [("", 1), ("off", 0), ("error", 1), ("warn", 2), ("info", 3), ("debug", 4), ("trace", 5)]

/-- The verbosity that a text means: by number, or by a name in any case. -/
def verbosity? (s : List Char) : Option Nat :=
  match (Decimal.unsigned64? s).filter (· ≤ fullVerbosity) with
  | some n => some n
  | none => verbosityNames.lookup (String.ofList (s.map Char.toLower))

/-- A character that a directive may begin with, brackets of spans apart. -/
def beginsDirective (c : Char) : Bool :=
  c == '-' || c == ':' || c == '_' || Text.isAlphanumeric c

/-- The text behind a span, which ends in a bracket outside braces; fields in braces are not
empty. -/
def spanEnd? : List Char → Option (List Char)
  | [] => none
  | ']' :: rest => some rest
  | '\x7b' :: rest =>
    match rest.span (· != '\x7d') with
    | (_ :: _, _ :: ']' :: rest) => some rest
    | _ => none
  | _ :: rest => spanEnd? rest

/-- The verbosity behind an equals sign; an empty one shows everything. -/
def verbosityAfter (s : List Char) : Except DirectiveError Nat :=
  match s with
  | [] => .ok fullVerbosity
  | s =>
    match verbosity? s with
    | some n => .ok n
    | none => .error .badLevel

/-- What follows the bracket of a span. -/
def spanDirective (target : Option String) (s : List Char) : Except DirectiveError Directive :=
  match spanEnd? s with
  | none => .error .malformed
  | some [] => .ok ⟨target, true, fullVerbosity⟩
  | some ('=' :: rest) => (verbosityAfter rest).map fun n => ⟨target, true, n⟩
  | some _ => .error .malformed

/-- A directive that does not begin with a bracket: up to a bracket or an equals sign it is a
target, and a text with neither is a level if it can be one. The place of the sign is counted from
the first character that is not blank, but the parts are cut from the whole text. -/
def targetDirective (s : List Char) : Except DirectiveError Directive :=
  let (name, rest) := (Text.trim s).span fun c => c != '=' && c != '['
  let target := String.ofList (s.take name.length)
  match rest with
  | '=' :: _ => (verbosityAfter (s.drop (name.length + 1))).map fun n => ⟨some target, false, n⟩
  | '[' :: span => spanDirective (some target) span
  | _ =>
    match verbosity? s with
    | some n => .ok ⟨none, false, n⟩
    | none => .ok ⟨some (String.ofList s), false, fullVerbosity⟩

/-- The directive that a text writes. Blanks around it do not keep it from being one, but they
count as part of its target. -/
def Directive.parse (s : List Char) : Except DirectiveError Directive :=
  match Text.trim s with
  | [] => .error .malformed
  | '[' :: span => spanDirective none span
  | c :: _ => if beginsDirective c then targetDirective s else .error .malformed

/-- A filter. -/
structure Filter where
  directives : List Directive
  deriving DecidableEq, Repr

namespace Filter

/-- A filter of directives; without any it shows errors. -/
def ofDirectives (ds : List Directive) : Filter :=
  ⟨if ds.isEmpty then [⟨none, false, Level.error.verbosity⟩] else ds⟩

/-- The filter that shows records up to a level. -/
def upTo (level : Level) : Filter := ⟨[⟨none, false, level.verbosity⟩]⟩

/-- The texts between commas that are not empty. -/
def pieces (s : List Char) : List (List Char) :=
  let rec split : List Char → List (List Char)
    | [] => [[]]
    | c :: rest =>
      match split rest with
      | [] => [[c]]
      | p :: ps => if c = ',' then [] :: p :: ps else (c :: p) :: ps
  (split s).filter (· ≠ [])

/-- The filter that a text writes, if every directive in it is one. -/
def parse? (s : String) : Option Filter :=
  match (pieces s.toList).mapM Directive.parse with
  | .ok ds => some (ofDirectives ds)
  | .error _ => none

/-- A line about a directive that is passed over. -/
def ignoredLine (piece : List Char) (e : DirectiveError) : String :=
  "ignoring `" ++ String.ofList piece ++ "`: " ++ e.message

/-- The filter of the directives in a text, and a line about each piece that is none. -/
def parseLenient (s : String) : Filter × List String :=
  let parsed := (pieces s.toList).map fun p => (p, Directive.parse p)
  (ofDirectives (parsed.filterMap fun p => p.2.toOption),
    parsed.filterMap fun p =>
      match p.2 with
      | .ok _ => none
      | .error e => some (ignoredLine p.1 e))

/-- Whether a directive is for the records of a target. -/
def covers (target : String) (d : Directive) : Bool :=
  !d.inSpan &&
    match d.target with
    | none => true
    | some t => t.toList.isPrefixOf target.toList

/-- How closely a directive fits, by the length of its target. -/
def closeness (d : Directive) : Nat :=
  match d.target with
  | none => 0
  | some t => t.utf8ByteSize + 1

/-- The verbosity for a target: that of the closest directive, the last one if there are several. -/
def verbosityFor (f : Filter) (target : String) : Nat :=
  match (f.directives.filter (covers target)).foldl (fun best d =>
    match best with
    | none => some d
    | some b => if closeness b ≤ closeness d then some d else some b) none with
  | some d => d.verbosity
  | none => 0

/-- Whether a record is shown. -/
def shows (f : Filter) (r : Record) : Bool :=
  decide (r.level.verbosity ≤ f.verbosityFor r.origin.target)

/-- The filter for the terminal: the one that is asked for, else the one in the environment if all
of it can be read, else everything up to `info`. With it come lines about what was passed over. -/
def forTerminal (asked : Option String) (environment : Option Bytes) : Filter × List String :=
  match asked with
  | some s => parseLenient s
  | none => (((environment.bind Utf8.toString?).bind parse?).getD (upTo .info), [])

end Filter

end KatakanaLsp.Logging
