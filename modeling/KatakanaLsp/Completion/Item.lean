import KatakanaLsp.Completion.Candidate
import KatakanaLsp.Json.Basic

/-!
# Completion items

An item is a candidate in the terms of the editor protocol: the category becomes an item kind, and
a follow-up becomes a command that the editor runs.
-/

namespace KatakanaLsp.Completion

open Dialect (Category)

/-- A command that the editor runs after it has inserted an item. -/
structure Command where
  title : String
  command : String
  deriving DecidableEq, Repr

/-- An item, whose text is inserted as it is and whose documentation is Markdown. -/
structure Item where
  label : String
  kind : Nat
  detail : String
  documentation : String
  insertText : String
  command : Option Command
  deriving DecidableEq, Repr

/-- The number of an item kind: keyword, function or class. -/
def itemKind : Category → Nat
  | .keyword => 14
  | .builtinFunction => 3
  | .builtinType => 7

/-- The editor's name for moving the cursor one place to the left. -/
def cursorLeftCommand : String := "cursorLeft"

/-- The command for a follow-up. -/
def FollowUp.command : FollowUp → Command
  | .cursorLeft => ⟨"Move cursor left", cursorLeftCommand⟩

/-- The item for a candidate. -/
def Candidate.item (c : Candidate) : Item :=
  { label := c.label
    kind := itemKind c.category
    detail := c.detail
    documentation := c.documentation
    insertText := c.insertText
    command := c.followUp.map FollowUp.command }

/-- The number of the format of plain text. -/
def plainTextFormat : Nat := 1

/-- A command as JSON. -/
def Command.json (c : Command) : Json :=
  .object [("command", .string c.command), ("title", .string c.title)]

/-- An item as JSON; without a command it has no field for one. -/
def Item.json (i : Item) : Json :=
  .object
    ((match i.command with
      | some c => [("command", c.json)]
      | none => [])
      ++ [("detail", .string i.detail),
        ("documentation",
          .object [("kind", .string "markdown"), ("value", .string i.documentation)]),
        ("insertText", .string i.insertText),
        ("insertTextFormat", .nat plainTextFormat),
        ("kind", .nat i.kind),
        ("label", .string i.label)])

end KatakanaLsp.Completion
