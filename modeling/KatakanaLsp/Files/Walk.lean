import KatakanaLsp.Files.Tree

/-!
# Walks

A path is walked name by name. Every name on the way must stand for a directory that lets pass.
Where it stands for a link, the walk goes on along the path of the link, from the directory that the
link is in, and then along what is left; over too many links it fails. So a path leads to a location
that no link stands at. Something stands there, or its last name is free in a directory.

What is done by path is said here too: to open a file, and to make directories. Each operation gives
what comes of it and, beside that, the tree that it leaves, also where it fails.
-/

namespace KatakanaLsp.Files

namespace Tree

/-- The longest name that an entry may have, in octets. -/
def maxNameLength : Nat := 255

/-- The number of octets that a path must stay below. -/
def pathLimit : Nat := 4096

/-- The greatest number of links that a walk goes over. -/
def maxLinks : Nat := 40

/-- How far a walk comes along names alone: to its end, or to a link, with names left behind it. -/
inductive Stretch where
  | ended (place : Location)
  | link (directory : Location) (target : Path) (rest : List Name)

/-- Walks up to the next link. If the last name is one that may be made, it must not have a slash
behind it. -/
def stretch (t : Tree) (making : Bool) : Location → List Name → Except FileError Stretch
  | loc, [] => .ok (.ended loc)
  | loc, name :: rest =>
    match t.entry? loc with
    | some .directory =>
      if name = [] then stretch t making loc rest
      else if t.bars loc .search then .error .permissionDenied
      else if name = Path.here then stretch t making loc rest
      else if name = Path.above then stretch t making loc.dropLast rest
      else if making ∧ rest = [[]] then .error .isADirectory
      else if maxNameLength < name.length then .error .nameTooLong
      else
        match t.entry? (loc ++ [name]) with
        | some (.link target) => .ok (.link loc target rest)
        | _ => stretch t making (loc ++ [name]) rest
    | some (.file _ _) => .error .notADirectory
    | some (.link _) => .error .notFound
    | none => .error .notFound

/-- Walks to the end, over no more than so many links. -/
def walk (t : Tree) (making : Bool) (links : Nat) (loc : Location) (names : List Name) :
    Except FileError Location :=
  match t.stretch making loc names with
  | .error e => .error e
  | .ok (.ended place) => .ok place
  | .ok (.link directory target rest) =>
    match links with
    | 0 => .error .tooManyLinks
    | links + 1 =>
      if target.octets = [] then .error .notFound
      else t.walk making links (target.start directory) (target.steps ++ rest)

/-- The location that a path leads to. -/
def locate (t : Tree) (making : Bool) (p : Path) : Except FileError Location :=
  if 0 ∈ p.octets then .error .nulInName
  else if p.octets = [] then .error .notFound
  else if pathLimit ≤ p.octets.length then .error .nameTooLong
  else t.walk making maxLinks (p.start t.current) p.steps

/-! ## Files -/

/-- Opens a file for appending: one that is missing is made, and one that exists keeps what it
holds. Gives its location. -/
def openAppend (t : Tree) (p : Path) (now : Int) : Except FileError Location × Tree :=
  match t.locate true p with
  | .error e => (.error e, t)
  | .ok loc =>
    match t.entry? loc with
    | none =>
      if t.bars loc.dropLast .write then (.error .permissionDenied, t)
      else (.ok loc, t.put loc (.file [] now))
    | some (.file _ _) => (if t.bars loc .write then .error .permissionDenied else .ok loc, t)
    | some .directory => (.error .isADirectory, t)
    | some (.link _) => (.error .tooManyLinks, t)

/-! ## Directories -/

/-- Makes a directory where nothing stands, not even a link. -/
def makeDirectory (t : Tree) (start : Location) (way : List Name) (name : Name) :
    Except FileError Unit × Tree :=
  match t.walk false maxLinks start way with
  | .error e => (.error e, t)
  | .ok loc =>
    match t.entry? loc with
    | some .directory =>
      if t.bars loc .search then (.error .permissionDenied, t)
      else if name = Path.above then (.error .alreadyExists, t)
      else if maxNameLength < name.length then (.error .nameTooLong, t)
      else if (t.entry? (loc ++ [name])).isSome then (.error .alreadyExists, t)
      else if t.bars loc .write then (.error .permissionDenied, t)
      else (.ok (), t.put (loc ++ [name]) .directory)
    | some (.file _ _) => (.error .notADirectory, t)
    | some (.link _) => (.error .notFound, t)
    | none => (.error .notFound, t)

/-- Whether a walk leads to a directory. -/
def leadsToDirectory (t : Tree) (start : Location) (way : List Name) : Bool :=
  match t.walk false maxLinks start way with
  | .error _ => false
  | .ok loc => t.entry? loc = some .directory

/-- Makes a directory, unless a directory is there. -/
def ensureDirectory (t : Tree) (start : Location) (way : List Name) (name : Name) :
    Except FileError Unit × Tree :=
  match t.makeDirectory start way name with
  | (.error e, left) =>
    (if left.leadsToDirectory start (way ++ [name]) then .ok () else .error e, left)
  | (.ok (), left) => (.ok (), left)

/-- Makes a directory and, if the way to it is missing, first the one above it. The names come last
to first. -/
def ensureAlong (t : Tree) (start : Location) : List Name → Except FileError Unit × Tree
  | [] => (.ok (), t)
  | name :: way =>
    match t.ensureDirectory start way.reverse name with
    | (.error .notFound, _) =>
      match t.ensureAlong start way with
      | (.ok (), left) => left.ensureDirectory start way.reverse name
      | (.error e, left) => (.error e, left)
    | settled => settled

/-- Makes the directory at a path, with all that is missing on the way to it. -/
def createDirectories (t : Tree) (p : Path) : Except FileError Unit × Tree :=
  if 0 ∈ p.octets then (.error .nulInName, t)
  else if pathLimit ≤ p.octets.length then (.error .nameTooLong, t)
  else t.ensureAlong (p.start t.current) p.names.reverse

end Tree

/-! ## Work in steps -/

/-- Work on files: it may fail, and leaves a tree either way. -/
abbrev Work (α : Type) := ExceptT FileError (StateM Tree) α

/-- An operation as a piece of work. -/
def Work.of {α : Type} (operation : Tree → Except FileError α × Tree) : Work α :=
  ExceptT.mk operation

/-- What comes of a piece of work, and the tree that it leaves. -/
def Work.on {α : Type} (work : Work α) (t : Tree) : Except FileError α × Tree := work.run.run t

end KatakanaLsp.Files
