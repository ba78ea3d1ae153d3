/-!
# The katakana dialect

The dialect writes Python's keywords, built-in functions and built-in types as katakana tokens. A
table is an ordered list of entries of one category; both lookups take the first entry that fits,
so a token that is repeated in a table hides the later entries with it.
-/

namespace KatakanaLsp.Dialect

/-- The part of the vocabulary that a table covers. -/
inductive Category where
  | keyword
  | builtinFunction
  | builtinType
  deriving DecidableEq, Repr

/-- The name of a category in reports. -/
def Category.name : Category → String
  | .keyword => "keyword"
  | .builtinFunction => "built-in function"
  | .builtinType => "built-in type"

/-- A token of the dialect and the identifier it stands for. -/
structure Entry where
  token : String
  meaning : String
  deriving DecidableEq, Repr

/-- Entries of one category, in order. -/
structure Table where
  category : Category
  entries : List Entry
  deriving DecidableEq, Repr

namespace Table

/-- The tokens of a table, in order. -/
def tokens (t : Table) : List String := t.entries.map (·.token)

/-- What a token means: the meaning of the first entry with it. -/
def meaning? (t : Table) (token : String) : Option String :=
  (t.entries.find? (·.token == token)).map (·.meaning)

/-- How an identifier is spelled: the token of the first entry that means it. -/
def token? (t : Table) (meaning : String) : Option String :=
  (t.entries.find? (·.meaning == meaning)).map (·.token)

end Table

end KatakanaLsp.Dialect
