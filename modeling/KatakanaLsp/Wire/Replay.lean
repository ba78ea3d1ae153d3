import KatakanaLsp.Wire.Entry

/-!
# Reading a wire log back

`readLog` takes a log apart again. It never searches for a body: it takes a head line up to its
line feed, the line that gives the length, and then exactly as many octets, so that nothing a
message says can be mistaken for another entry.
-/

namespace KatakanaLsp.Wire

/-- An entry as it is read: the text between the brackets, direction, kind and body. -/
structure LoggedEntry where
  time : Bytes
  direction : Direction
  kind : MessageKind
  body : Bytes
  deriving DecidableEq, Repr

/-- What follows the octets of a text, if they stand in front. -/
def strip? (text : String) (b : Bytes) : Option Bytes :=
  let lead := Utf8.ofString text
  if lead.isPrefixOf b then some (b.drop lead.length) else none

/-- A direction, by its arrow in front. -/
def readDirection? (b : Bytes) : Option (Direction × Bytes) :=
  match strip? Direction.incoming.arrow b with
  | some rest => some (.incoming, rest)
  | none => (strip? Direction.outgoing.arrow b).map fun rest => (.outgoing, rest)

/-- The kind that a name stands for. -/
def kindNamed? (name : Bytes) : Option MessageKind :=
  [MessageKind.request, .notification, .response].find? fun k => Utf8.ofString k.name == name

/-- The octets up to one, and those behind it. -/
def cutAt? (stop : UInt8) (b : Bytes) : Option (Bytes × Bytes) :=
  match b.span (· != stop) with
  | (_, []) => none
  | (front, _ :: rest) => some (front, rest)

/-- A number at the front, in decimal digits. -/
def readLength? (b : Bytes) : Option (Nat × Bytes) :=
  let isDigit (o : UInt8) : Bool := 48 ≤ o && o ≤ 57
  match b.takeWhile isDigit with
  | [] => none
  | ds => some (ds.foldl (fun n o => n * 10 + (o.toNat - 48)) 0, b.dropWhile isDigit)

/-- An entry at the front of a log, and what follows it. -/
def readEntry? (b : Bytes) : Option (LoggedEntry × Bytes) := do
  let b ← strip? "[" b
  let (time, b) ← cutAt? 0x5D b
  let b ← strip? " " b
  let (direction, b) ← readDirection? b
  let b ← strip? " " b
  let (name, b) ← cutAt? 0x0A b
  let kind ← kindNamed? name
  let b ← strip? "Content-Length: " b
  let (n, b) ← readLength? b
  let b ← strip? "\r\n\r\n" b
  if b.length < n then none
  else
    let rest ← strip? "\n\n" (b.drop n)
    return (⟨time, direction, kind, b.take n⟩, rest)

/-- At most `fuel` entries, which must be the whole log. -/
def readEntries? : Nat → Bytes → Option (List LoggedEntry)
  | _, [] => some []
  | 0, _ :: _ => none
  | fuel + 1, b =>
    match readEntry? b with
    | none => none
    | some (e, rest) => (readEntries? fuel rest).map (e :: ·)

/-- The entries of a log. Each takes octets, so there are at most as many as octets. -/
def readLog? (b : Bytes) : Option (List LoggedEntry) := readEntries? b.length b

end KatakanaLsp.Wire
