import KatakanaLsp.Files.Walk
import KatakanaLsp.Text.Quoted
import KatakanaLsp.Wire.Entry

/-!
# The wire log and its file

A logger is off, or appends to a file `wire-<session>.log` that it opened when it was made. Making
one changes nothing in the tree but that this file exists.
-/

namespace KatakanaLsp.Wire

open Files (Tree Path Location FileError)

/-- A wire logger; its copies share the file. -/
inductive Logger where
  | off
  | on (path : Path) (file : Location)
  deriving DecidableEq, Repr

namespace Logger

/-- The name of the wire log of a session. -/
def fileName (session : String) : String := "wire-" ++ session ++ ".log"

/-- Makes a logger that is off, or one on the wire log of a session in a directory. -/
def open? (t : Tree) (enabled : Bool) (directory : Option Path) (session : String) (now : Int) :
    Except FileError Logger × Tree :=
  if !enabled then (.ok .off, t)
  else
    match directory with
    | none => (.error .noDirectoryGiven, t)
    | some d =>
      let path := d.join (fileName session)
      match t.openAppend path now with
      | (.error e, left) => (.error e, left)
      | (.ok file, left) => (.ok (.on path file), left)

/-- Whether messages are recorded. -/
def isOn : Logger → Bool
  | .off => false
  | .on _ _ => true

/-- The path of the file. -/
def path? : Logger → Option Path
  | .off => none
  | .on path _ => some path

/-- Records a message. -/
def record (l : Logger) (t : Tree) (time : Timestamp) (p : Passage) : Tree :=
  match l with
  | .off => t
  | .on _ file => t.append file (p.octets time)

/-- The octets recorded so far. -/
def recorded (l : Logger) (t : Tree) : Bytes :=
  match l with
  | .off => []
  | .on _ file => (t.content? file).getD []

/-- A logger as diagnostics show it. -/
def debugText : Logger → String
  | .off => "WireLogger \x7b enabled: false, path: None \x7d"
  | .on path _ =>
    "WireLogger \x7b enabled: true, path: Some(" ++ Text.quotedPath path.octets ++ ") \x7d"

end Logger

end KatakanaLsp.Wire
