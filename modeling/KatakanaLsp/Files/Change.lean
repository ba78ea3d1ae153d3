import KatakanaLsp.Files.Tree

/-!
# Changes between trees

A program works on a tree that was surveyed before; `changes` says what has to be done outside for
the same to stand there: directories are made before what is in them, files are made or added to,
and what has been erased is removed. Files only ever grow, so that an addition is what follows the
former content.
-/

namespace KatakanaLsp.Files

/-- A change to what stands at a location. -/
inductive Change where
  | makeDirectory (loc : Location)
  | append (loc : Location) (data : Bytes)
  | remove (loc : Location)
  deriving DecidableEq, Repr

namespace Tree

/-- What has to be done for an entry to stand where `former` stood. -/
def changeAt (loc : Location) (former : Option Entry) : Entry → Option Change
  | .directory => if former = some .directory then none else some (.makeDirectory loc)
  | .link _ => none
  | .file content _ =>
    match former with
    | some (.file before _) =>
      let added := content.drop before.length
      if added.isEmpty then none else some (.append loc added)
    | _ => some (.append loc content)

/-- What leads from one tree to another. -/
def changes (before after : Tree) : List Change :=
  (before.entries.filterMap fun e =>
    if (after.entry? e.1).isNone then some (.remove e.1) else none)
  ++ after.entries.filterMap fun e => changeAt e.1 (before.entry? e.1) e.2

/-- An entry with its content forgotten, if it is a file. -/
def withoutContent : Entry → Entry
  | .file _ modified => .file [] modified
  | .directory => .directory
  | .link target => .link target

/-- The tree with the contents of its files forgotten, so that what is added later stands alone. -/
def forgetContents (t : Tree) : Tree :=
  { t with
    entries := t.entries.map fun e => (e.1, withoutContent e.2)
    distinct := by
      rw [List.map_map]
      exact t.distinct }

end Tree

end KatakanaLsp.Files
