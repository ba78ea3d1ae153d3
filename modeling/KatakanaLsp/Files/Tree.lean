import KatakanaLsp.Files.Path
import KatakanaLsp.Text.Decimal

/-!
# Files and directories

A tree says what stands at each location below the root, which is a directory always. It is kept as
a flat list from locations to entries, so that a change at one location is visibly no change at any
other; no location is in it twice. Beside the entries it says where the program is that works on
them, and what that program may not do there.
-/

namespace KatakanaLsp.Files

/-- What stands at a location. A link is an entry of its own, with the path that it stands for. -/
inductive Entry where
  | file (content : Bytes) (modified : Int)
  | directory
  | link (target : Path)
  deriving DecidableEq, Repr

/-- What a program may be barred from at a location: to go through a directory, to list it, and to
change what a directory or a file holds. -/
inductive Right where
  | search
  | list
  | write
  deriving DecidableEq, Repr

/-- Why an operation on files fails. -/
inductive FileError where
  | notFound
  | permissionDenied
  | notADirectory
  | isADirectory
  | alreadyExists
  | nameTooLong
  | tooManyLinks
  | nulInName
  | noDirectoryGiven
  | noCacheDirectory
  deriving DecidableEq, Repr

/-- The kinds of failures, which programs go by. -/
inductive FileErrorKind where
  | notFound
  | permissionDenied
  | notADirectory
  | isADirectory
  | alreadyExists
  | invalidFilename
  | filesystemLoop
  | invalidInput
  deriving DecidableEq, Repr

/-- The kind of a failure. -/
def FileError.kind : FileError → FileErrorKind
  | .notFound => .notFound
  | .permissionDenied => .permissionDenied
  | .notADirectory => .notADirectory
  | .isADirectory => .isADirectory
  | .alreadyExists => .alreadyExists
  | .nameTooLong => .invalidFilename
  | .tooManyLinks => .filesystemLoop
  | .nulInName => .invalidInput
  | .noDirectoryGiven => .notFound
  | .noCacheDirectory => .notFound

/-- The text of a failure with the number that the system gives it. -/
def systemText (text : String) (number : Nat) : String :=
  text ++ " (os error " ++ Decimal.text number ++ ")"

/-- The text of a failure. -/
def FileError.message : FileError → String
  | .notFound => systemText "No such file or directory" 2
  | .permissionDenied => systemText "Permission denied" 13
  | .alreadyExists => systemText "File exists" 17
  | .notADirectory => systemText "Not a directory" 20
  | .isADirectory => systemText "Is a directory" 21
  | .nameTooLong => systemText "File name too long" 36
  | .tooManyLinks => systemText "Too many levels of symbolic links" 40
  | .nulInName => "file name contained an unexpected NUL byte"
  | .noDirectoryGiven => "Log directory not provided"
  | .noCacheDirectory => "Unable to determine user cache directory"

/-! ## Trees -/

/-- What stands at the locations below the root, at each no more than once; the location that
relative paths begin at; and what the program may not do, and where. -/
structure Tree where
  entries : List (Location × Entry)
  distinct : (entries.map (·.1)).Nodup
  current : Location
  barred : List (Location × Right)
  deriving DecidableEq, Repr

namespace Tree

/-- A tree without entries. -/
def empty : Tree := ⟨[], List.nodup_nil, [], []⟩

/-- What stands at a location. -/
def entry? (t : Tree) (loc : Location) : Option Entry :=
  if loc = [] then some .directory else t.entries.lookup loc

/-- Whether the program is barred from something at a location. -/
def bars (t : Tree) (loc : Location) (r : Right) : Bool := t.barred.contains (loc, r)

/-- What is left without the entry at a location is distinct still. -/
theorem nodup_without (t : Tree) (loc : Location) :
    ((t.entries.filter (·.1 ≠ loc)).map (·.1)).Nodup :=
  t.distinct.sublist (List.filter_sublist.map _)

/-- The entry at a location takes a place that is free once the former entry is gone. -/
theorem nodup_with (t : Tree) (loc : Location) (e : Entry) :
    ((t.entries.filter (·.1 ≠ loc) ++ [(loc, e)]).map (·.1)).Nodup := by
  rw [List.map_append, List.nodup_append]
  refine ⟨t.nodup_without loc, List.pairwise_singleton _ loc, ?_⟩
  intro place hplace other hother
  obtain ⟨found, hfound, rfl⟩ := List.mem_map.mp hplace
  rw [List.mem_singleton.mp hother]
  exact of_decide_eq_true (List.mem_filter.mp hfound).2

/-- The tree with an entry put at a location, in place of what stood there. -/
def put (t : Tree) (loc : Location) (e : Entry) : Tree :=
  { t with
    entries := t.entries.filter (·.1 ≠ loc) ++ [(loc, e)]
    distinct := t.nodup_with loc e }

/-- The tree with these entries, of which the last at a location counts. -/
def ofEntries (entries : List (Location × Entry)) : Tree :=
  entries.foldl (fun t e => t.put e.1 e.2) empty

/-- The tree with nothing at a location. -/
def erase (t : Tree) (loc : Location) : Tree :=
  { t with
    entries := t.entries.filter (·.1 ≠ loc)
    distinct := t.nodup_without loc }

/-- The name of an entry that stands directly in a directory. -/
def nameIn? (directory loc : Location) : Option Name :=
  match loc.getLast? with
  | some name => if loc.dropLast = directory then some name else none
  | none => none

/-- The names in a directory, with what they name. -/
def listing (t : Tree) (directory : Location) : List (Name × Entry) :=
  t.entries.filterMap fun e => (nameIn? directory e.1).map fun name => (name, e.2)

/-- The content of a file. -/
def content? (t : Tree) (loc : Location) : Option Bytes :=
  match t.entry? loc with
  | some (.file content _) => some content
  | _ => none

/-- Adds octets at the end of a file. -/
def append (t : Tree) (loc : Location) (data : Bytes) : Tree :=
  match t.entry? loc with
  | some (.file content modified) => t.put loc (.file (content ++ data) modified)
  | _ => t

end Tree

end KatakanaLsp.Files
