import KatakanaLsp.Text.Utf8

/-!
# Paths

A `Location` is a place below the root: the names on the way there. A `Path` is what a program
writes instead, with slashes between names. It is a stretch of octets, which need not be text, and
it leads to a place only in a tree: names in it may stand for links, and `.` and `..` for a
directory itself and for the one above it.
-/

namespace KatakanaLsp.Files

/-- The name of an entry: octets, which need not be text. -/
abbrev Name := Bytes

/-- A place below the root: the names on the way down to it. -/
abbrev Location := List Name

/-- A path as a program writes it. -/
structure Path where
  octets : Bytes
  deriving DecidableEq, Repr

namespace Path

/-- The octet between names. -/
def slash : UInt8 := 0x2F

/-- The name that stands for a directory itself. -/
def here : Name := [0x2E]

/-- The name that stands for the directory above. -/
def above : Name := [0x2E, 0x2E]

/-- The path that a text is. -/
def ofString (s : String) : Path := ⟨Utf8.ofString s⟩

/-- The path of something below another path. An absolute path stays itself. -/
def join (p : Path) (below : String) : Path :=
  let rest := Utf8.ofString below
  if rest.head? = some slash ∨ p.octets = [] then ⟨rest⟩
  else if p.octets.getLast? = some slash then ⟨p.octets ++ rest⟩
  else ⟨p.octets ++ slash :: rest⟩

/-- The pieces between slashes. -/
def pieces : Bytes → List Name
  | [] => [[]]
  | b :: rest =>
    match pieces rest with
    | [] => [[]]
    | p :: ps => if b = slash then [] :: p :: ps else (b :: p) :: ps

/-- The steps of a walk along a path: its names, and behind a slash at the end a step to no name,
which only a directory lets pass. -/
def steps (p : Path) : List Name :=
  let ps := pieces p.octets
  ps.filter (· ≠ []) ++ if ps.getLast? = some [] then [[]] else []

/-- The names that a path is written with, apart from those that lead nowhere else. -/
def names (p : Path) : List Name := (pieces p.octets).filter fun s => s ≠ [] ∧ s ≠ here

/-- Where a walk along a path begins: an absolute path begins at the root. -/
def start (p : Path) (directory : Location) : Location :=
  if p.octets.head? = some slash then [] else directory

end Path

end KatakanaLsp.Files
