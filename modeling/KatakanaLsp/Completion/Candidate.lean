import KatakanaLsp.Dialect.Tables

/-!
# Completion candidates

A candidate is what the dialect offers for one entry of a table: the token to insert, a detail that
names the meaning, and a note in Markdown with both. Built-in functions are inserted as a call, with
the cursor moved between the parentheses. `candidates` lists those of all tables, in order.
-/

namespace KatakanaLsp.Completion

open Dialect (Category Entry Table)

/-- What the editor does after it has inserted a candidate. -/
inductive FollowUp where
  | cursorLeft
  deriving DecidableEq, Repr

/-- One suggestion. -/
structure Candidate where
  label : String
  category : Category
  insertText : String
  detail : String
  documentation : String
  followUp : Option FollowUp
  deriving DecidableEq, Repr

/-- The parentheses behind a function that is inserted as a call. -/
def callSuffix : String := "()"

/-- What a token of a category is inserted with. -/
def suffixOf : Category → String
  | .builtinFunction => callSuffix
  | .keyword => ""
  | .builtinType => ""

/-- The heading of the note on a token. -/
def headingOf : Category → String
  | .keyword => "JaPy キーワード"
  | .builtinFunction => "JaPy 組み込み関数"
  | .builtinType => "JaPy 組み込み型"

/-- The closing line of the note on a token. -/
def remarkOf : Category → String
  | .keyword => "JaPyでは日本語キーワードを使用してPythonと同じ機能を実現できます"
  | .builtinFunction => "JaPyでは日本語関数名を使用してPythonの組み込み関数を呼び出せます"
  | .builtinType => "JaPyでは日本語型名を使用してPythonのデータ型を扱えます"

/-- The note on a token and its meaning. -/
def noteOf (category : Category) (token meaning : String) : String :=
  "**" ++ headingOf category ++ ":** `" ++ token ++ "`\n\n**対応するPython:** `" ++ meaning
    ++ "`\n\n---\n\n*" ++ remarkOf category ++ "*"

/-- The candidate for an entry of a table of some category. -/
def Candidate.ofEntry (category : Category) (entry : Entry) : Candidate :=
  let token := entry.token ++ suffixOf category
  let meaning := entry.meaning ++ suffixOf category
  { label := entry.token
    category := category
    insertText := token
    detail := "Python: " ++ meaning
    documentation := noteOf category token meaning
    followUp := match category with
      | .builtinFunction => some .cursorLeft
      | .keyword => none
      | .builtinType => none }

/-- The candidates for a table, one for each entry. -/
def candidatesOf (table : Table) : List Candidate :=
  table.entries.map (Candidate.ofEntry table.category)

/-- The candidates for the whole dialect: keywords, functions, types. -/
def candidates : List Candidate := Dialect.tables.flatMap candidatesOf

end KatakanaLsp.Completion
