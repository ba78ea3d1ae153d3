import KatakanaLsp.Dialect.Tables
import KatakanaLsp.Dialect.Vocabulary
import KatakanaLsp.Logging.Record
import KatakanaLsp.Text.Decimal

/-!
# Coverage of the vocabulary

The dialect covers its vocabulary when no table repeats a token, every keyword is spelled by the
table of keywords and reads back as itself, and every built-in is spelled by the table of functions
or of types. `checkTables` decides that for any three tables and reports the first thing that is
missing; `validate` turns the answer into an exit code.
-/

namespace KatakanaLsp.Dialect

/-- A kind of built-in, as reports name it. -/
inductive BuiltinKind where
  | functions
  | types
  deriving DecidableEq, Repr

/-- The name of a kind of built-in. -/
def BuiltinKind.name : BuiltinKind → String
  | .functions => "built-in functions"
  | .types => "built-in types"

/-- The names of a kind of built-in. -/
def BuiltinKind.vocabulary : BuiltinKind → List String
  | .functions => Vocabulary.builtinFunctions
  | .types => Vocabulary.builtinTypes

/-- Why tables do not cover the vocabulary. -/
inductive CoverageError where
  | missingKeyword (keyword : String)
  | missingBuiltins (kind : BuiltinKind) (names : List String)
  | duplicateToken (category : Category) (token : String)
  deriving DecidableEq, Repr

/-- The text of a coverage error. -/
def CoverageError.message : CoverageError → String
  | .missingKeyword k => "keyword '" ++ k ++ "' has no JaPy spelling"
  | .missingBuiltins kind names =>
    kind.name ++ " without a JaPy spelling: " ++ String.intercalate ", " names
  | .duplicateToken c t => "duplicate " ++ c.name ++ " token '" ++ t ++ "'"

/-- What the checks report while they run. -/
inductive CoverageEvent where
  | started
  | keywordsCovered (count : Nat)
  | builtinsCovered (kind : BuiltinKind) (count : Nat)
  | summary (functions types mappings : Nat)
  | passed
  | failed (cause : CoverageError)
  deriving DecidableEq, Repr

/-- The log record of a report. -/
def CoverageEvent.record : CoverageEvent → Logging.Record
  | .started => ⟨.info, .coverage, "Validating JaPy keyword and built-in mappings"⟩
  | .keywordsCovered n =>
    ⟨.debug, .coverage, "All " ++ Decimal.text n ++ " keywords have JaPy spellings"⟩
  | .builtinsCovered kind n =>
    ⟨.debug, .coverage, "All " ++ Decimal.text n ++ " " ++ kind.name ++ " have JaPy spellings"⟩
  | .summary f t m =>
    ⟨.info, .coverage,
      "All " ++ Decimal.text (f + t) ++ " built-ins have JaPy spellings (functions: "
      ++ Decimal.text f ++ ", types: " ++ Decimal.text t ++ ", total mappings: "
      ++ Decimal.text m ++ ")"⟩
  | .passed => ⟨.info, .coverage, "All validations passed"⟩
  | .failed e => ⟨.error, .coverage, "Validation failed: " ++ e.message⟩

/-- The result of a check and what it reported. -/
structure Checked where
  result : Except CoverageError Unit
  events : List CoverageEvent

namespace Checked

/-- A check that reports only if it passes. -/
def reporting (result : Except CoverageError Unit) (event : CoverageEvent) : Checked :=
  match result with
  | .ok () => ⟨.ok (), [event]⟩
  | .error e => ⟨.error e, []⟩

/-- A check that reports nothing. -/
def silent (result : Except CoverageError Unit) : Checked := ⟨result, []⟩

/-- One check and then, if it passes, another. -/
def andThen (a b : Checked) : Checked :=
  match a.result with
  | .ok () => ⟨b.result, a.events ++ b.events⟩
  | .error _ => a

end Checked

/-! ## The conditions -/

/-- Whether a keyword has a token that reads back as the keyword. -/
def Table.spells (t : Table) (keyword : String) : Bool :=
  (t.token? keyword).bind t.meaning? == some keyword

/-- Every keyword of the vocabulary is spelled; if not, the first that is missing. -/
def checkKeywordsIn (t : Table) : Except CoverageError Unit :=
  match Vocabulary.keywords.find? fun k => !t.spells k with
  | some k => .error (.missingKeyword k)
  | none => .ok ()

/-- The names that no table has a token for, in order. -/
def missingFrom (tables : List Table) (names : List String) : List String :=
  names.filter fun n => tables.all fun t => (t.token? n).isNone

/-- Every built-in of a kind has a token in one of the tables; if not, all that are missing. -/
def checkBuiltinsIn (tables : List Table) (kind : BuiltinKind) : Except CoverageError Unit :=
  match missingFrom tables kind.vocabulary with
  | [] => .ok ()
  | names => .error (.missingBuiltins kind names)

/-- The first string of a list that stands further in front in it, or among those seen. -/
def firstRepeated? (seen : List String) : List String → Option String
  | [] => none
  | s :: rest => if s ∈ seen then some s else firstRepeated? (s :: seen) rest

/-- No token is repeated in a table; if one is, the first repetition. -/
def checkDistinct (t : Table) : Except CoverageError Unit :=
  match firstRepeated? [] t.tokens with
  | some token => .error (.duplicateToken t.category token)
  | none => .ok ()

/-! ## The checks -/

/-- The built-ins of a kind, with a report. -/
def builtinsCheck (tables : List Table) (kind : BuiltinKind) : Checked :=
  .reporting (checkBuiltinsIn tables kind) (.builtinsCovered kind kind.vocabulary.length)

/-- The keywords of the shipped table. -/
def keywordsCheck : Checked :=
  .reporting (checkKeywordsIn keywords) (.keywordsCovered Vocabulary.keywords.length)

/-- Both kinds of built-ins in the shipped tables. -/
def shippedBuiltinsCheck : Checked :=
  (builtinsCheck [builtinFunctions, builtinTypes] .functions).andThen
    (builtinsCheck [builtinFunctions, builtinTypes] .types)

/-- The summary that three complete tables earn. -/
def summaryOf (functions types : Table) : CoverageEvent :=
  .summary Vocabulary.builtinFunctions.length Vocabulary.builtinTypes.length
    (functions.entries.length + types.entries.length)

/-- All conditions on a table of keywords, of functions and of types: first that none of them
repeats a token, then the keywords, then the built-ins. -/
def checkTables (keywords functions types : Table) : Checked :=
  ([keywords, functions, types].foldr
    (fun t rest => (Checked.silent (checkDistinct t)).andThen rest)
    ((Checked.silent (checkKeywordsIn keywords)).andThen
      ((builtinsCheck [functions, types] .functions).andThen
        ((builtinsCheck [functions, types] .types).andThen
          ⟨.ok (), [summaryOf functions types]⟩))))

/-- `checkTables` as a command: the exit code, zero if the tables pass and one if they do not, and
everything reported. -/
def validate (keywords functions types : Table) : Nat × List CoverageEvent :=
  let checked := checkTables keywords functions types
  match checked.result with
  | .ok () => (0, .started :: checked.events ++ [.passed])
  | .error e => (1, .started :: checked.events ++ [.failed e])

end KatakanaLsp.Dialect
