import KatakanaLsp.Files.Walk

/-!
# Retention of logs

The server keeps its session logs and wire logs for a week. `cleanUp` removes the artifacts of a
directory that are older: regular files whose name is text, begins with `session-` or `wire-` and
ends in `.log`. Whatever else stands in the directory is not the server's to remove.
-/

namespace KatakanaLsp.Files

/-- Whether a name is that of a session log or a wire log. -/
def isArtifactName (name : String) : Bool :=
  ("session-".toList.isPrefixOf name.toList || "wire-".toList.isPrefixOf name.toList)
    && ".log".toList.isSuffixOf name.toList

/-- The age after which logs go, in seconds. -/
def retentionSeconds : Int := 7 * 24 * 60 * 60

/-- Whether an entry is an artifact that has been left alone for longer than `retention`. An entry
of the future has no age. -/
def isExpired (now retention : Int) (name : Name) : Entry → Bool
  | .file _ modified =>
    ((Utf8.toString? name).map isArtifactName).getD false && decide (retention < now - modified)
  | .directory => false
  | .link _ => false

/-- The names in a directory that a clean-up removes. -/
def expiredIn (t : Tree) (directory : Location) (now retention : Int) : List Name :=
  ((t.listing directory).filter fun e => isExpired now retention e.1 e.2).map (·.1)

/-- Removes the expired artifacts of the directory at a path, and gives their number. A directory
can be listed whose entries can neither be looked at nor removed; then nothing is. -/
def cleanUp (t : Tree) (p : Path) (now retention : Int) : Except FileError Nat × Tree :=
  match t.locate false p with
  | .error e => (.error e, t)
  | .ok directory =>
    match t.entry? directory with
    | some .directory =>
      if t.bars directory .list then (.error .permissionDenied, t)
      else if t.bars directory .search || t.bars directory .write then (.ok 0, t)
      else
        let expired := expiredIn t directory now retention
        (.ok expired.length, expired.foldl (fun t name => t.erase (directory ++ [name])) t)
    | some (.file _ _) => (.error .notADirectory, t)
    | some (.link _) => (.error .notFound, t)
    | none => (.error .notFound, t)

end KatakanaLsp.Files
