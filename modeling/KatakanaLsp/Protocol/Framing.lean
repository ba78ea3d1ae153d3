import KatakanaLsp.Text.Blank
import KatakanaLsp.Text.Decimal
import KatakanaLsp.Text.Utf8

/-!
# Frames of the protocol

The server reads frames strictly. A header block is at most two lines `Name: value` and an empty
line; names are tokens and are compared exactly; a `Content-Length` is required, and a
`Content-Type` must name UTF-8. Anything else is a fault, after which nothing more is read.

`next` looks at the front of what has arrived. It takes a header block as soon as the block is
complete and remembers the length, so that the body may arrive later.
-/

namespace KatakanaLsp.Protocol.Framing

/-- Why a frame cannot be read. -/
inductive FrameFault where
  | badHeader
  | tooManyHeaders
  | badLength
  | badContentType
  | noLength
  | notUtf8
  deriving DecidableEq, Repr

/-- A header line. -/
structure HeaderLine where
  name : Bytes
  value : Bytes
  deriving DecidableEq, Repr

/-- An octet of a token, of which header names are made. -/
def isTokenOctet (b : UInt8) : Bool :=
  let c := Char.ofNat b.toNat
  Decimal.isDigit c || ('a' ≤ c && c ≤ 'z') || ('A' ≤ c && c ≤ 'Z')
    || ['!', '#', '$', '%', '&', '\'', '*', '+', '-', '.', '^', '_', '\x60', '|', '~'].contains c

/-- An octet of a header value: no control but the tab. -/
def isValueOctet (b : UInt8) : Bool := b = 9 || (32 ≤ b && b ≤ 126) || 128 ≤ b

/-- A space or a tab. -/
def isPadding (b : UInt8) : Bool := b = 32 || b = 9

/-- What reading a part of a header block can come to. -/
inductive Reading (α : Type) where
  | incomplete
  | fault (cause : FrameFault)
  | done (value : α) (rest : Bytes)

/-- The end of a line: a line feed, or a carriage return with one. -/
def readLineEnd : Bytes → Reading Unit
  | [] => .incomplete
  | b :: rest =>
    if b = 10 then .done () rest
    else if b = 13 then
      match rest with
      | [] => .incomplete
      | c :: rest => if c = 10 then .done () rest else .fault .badHeader
    else .fault .badHeader

/-- A header line, whose value has no padding around it. -/
def readLine (b : Bytes) : Reading HeaderLine :=
  let name := b.takeWhile isTokenOctet
  match b.dropWhile isTokenOctet with
  | [] => .incomplete
  | c :: rest =>
    if c ≠ 58 ∨ name = [] then .fault .badHeader
    else
      let value := rest.takeWhile isValueOctet
      match readLineEnd (rest.dropWhile isValueOctet) with
      | .incomplete => .incomplete
      | .fault cause => .fault cause
      | .done () rest =>
        .done ⟨name, ((value.dropWhile isPadding).reverse.dropWhile isPadding).reverse⟩ rest

/-- The most header lines that a block may have. -/
def maxLines : Nat := 2

/-- Header lines up to an empty one, at most `room` of them. -/
def readLines : Nat → Bytes → Reading (List HeaderLine)
  | room, b =>
    match b with
    | [] => .incomplete
    | c :: _ =>
      if c = 10 ∨ c = 13 then
        match readLineEnd b with
        | .incomplete => .incomplete
        | .fault cause => .fault cause
        | .done () rest => .done [] rest
      else
        match readLine b with
        | .incomplete => .incomplete
        | .fault cause => .fault cause
        | .done line rest =>
          match room with
          | 0 => .fault .tooManyHeaders
          | room + 1 =>
            match readLines room rest with
            | .incomplete => .incomplete
            | .fault cause => .fault cause
            | .done lines rest => .done (line :: lines) rest

/-- The parameters behind the media type of a `Content-Type`. -/
def parameters (value : List Char) : List (List Char) :=
  let rec pieces : List Char → List (List Char)
    | [] => [[]]
    | c :: rest =>
      match pieces rest with
      | [] => [[c]]
      | p :: ps => if c = ';' then [] :: p :: ps else (c :: p) :: ps
  ((pieces value).drop 1).map Text.trim

/-- The character set that a `Content-Type` names: that of the first such parameter. -/
def charset? (value : List Char) : Option (List Char) :=
  let key := "charset=".toList
  (parameters value).findSome? fun p =>
    if key.isPrefixOf p then some (p.drop key.length) else none

/-- Takes a header line into account. -/
def useLine (length : Option Nat) (line : HeaderLine) : Except FrameFault (Option Nat) :=
  if line.name = Utf8.ofString "Content-Length" then
    match (Utf8.decode? line.value).bind Decimal.unsigned64? with
    | some n => .ok (some n)
    | none => .error .badLength
  else if line.name = Utf8.ofString "Content-Type" then
    match Utf8.decode? line.value with
    | none => .error .notUtf8
    | some value =>
      match charset? value with
      | some set =>
        if set = "utf-8".toList ∨ set = "utf8".toList then .ok length else .error .badContentType
      | none => .error .badContentType
  else .ok length

/-- The length that a header block gives, the last one if it gives several. -/
def blockLength (lines : List HeaderLine) : Except FrameFault Nat :=
  match lines.foldlM useLine none with
  | .error cause => .error cause
  | .ok (some n) => .ok n
  | .ok none => .error .noLength

/-! ## Every part that is read leaves less -/

theorem length_of_readLineEnd {b rest : Bytes} (h : readLineEnd b = .done () rest) :
    rest.length < b.length := by
  unfold readLineEnd at h
  split at h
  · cases h
  · split at h
    · cases h; simp
    · split at h
      · split at h
        · cases h
        · split at h
          · cases h; simp only [List.length_cons]; omega
          · cases h
      · cases h

theorem length_dropWhile_le {α : Type} (p : α → Bool) (l : List α) :
    (l.dropWhile p).length ≤ l.length := (List.dropWhile_sublist p).length_le

theorem length_of_readLine {b rest : Bytes} {line : HeaderLine} (h : readLine b = .done line rest) :
    rest.length < b.length := by
  unfold readLine at h
  dsimp only at h
  split at h
  · cases h
  · rename_i c tail hd
    have h₁ := length_dropWhile_le isTokenOctet b
    rw [hd] at h₁
    split at h
    · cases h
    · split at h
      · cases h
      · cases h
      · rename_i r he
        cases h
        have h₂ := length_of_readLineEnd he
        have h₃ := length_dropWhile_le isValueOctet tail
        simp only [List.length_cons] at h₁
        omega

theorem length_of_readLines {room : Nat} {b rest : Bytes} {lines : List HeaderLine}
    (h : readLines room b = .done lines rest) : rest.length < b.length := by
  induction room generalizing b lines with
  | zero =>
    unfold readLines at h
    split at h
    · cases h
    · split at h
      · split at h
        · cases h
        · cases h
        · rename_i he; cases h; exact length_of_readLineEnd he
      · split at h <;> cases h
  | succ room ih =>
    unfold readLines at h
    split at h
    · cases h
    · split at h
      · split at h
        · cases h
        · cases h
        · rename_i he; cases h; exact length_of_readLineEnd he
      · split at h
        · cases h
        · cases h
        · rename_i hl
          have h₁ := length_of_readLine hl
          simp only at h
          split at h
          · cases h
          · cases h
          · rename_i hr; cases h; have h₂ := ih hr; omega

/-! ## Bodies -/

/-- What has arrived and is not read, and the length of the body that comes next, once its header
block is read. -/
structure Input where
  unread : Bytes
  expected : Option Nat
  deriving DecidableEq, Repr

/-- Nothing has arrived. -/
def Input.empty : Input := ⟨[], none⟩

/-- What has arrived, with more behind it. -/
def Input.extend (i : Input) (data : Bytes) : Input := { i with unread := i.unread ++ data }

/-- How many octets have to arrive at least until there is something to read: those that are missing
from the body, once its length is known. -/
def Input.missing (i : Input) : Nat :=
  match i.expected with
  | some n => max 1 (n - i.unread.length)
  | none => 1

/-- What stands at the front of the input. -/
inductive Next where
  | waiting (i : Input)
  | emptyBody (rest : Input)
  | body (text : List Char) (rest : Input)
  | fault (cause : FrameFault)

/-- The body at the front, if all of it has arrived. -/
def nextBody (unread : Bytes) (n : Nat) : Next :=
  if unread.length < n then .waiting ⟨unread, some n⟩
  else if n = 0 then .emptyBody ⟨unread, none⟩
  else
    match Utf8.decode? (unread.take n) with
    | none => .fault .notUtf8
    | some text => .body text ⟨unread.drop n, none⟩

/-- Reads the front of the input. -/
def next (i : Input) : Next :=
  match i.expected with
  | some n => nextBody i.unread n
  | none =>
    match readLines maxLines i.unread with
    | .incomplete => .waiting i
    | .fault cause => .fault cause
    | .done lines rest =>
      match blockLength lines with
      | .error cause => .fault cause
      | .ok n => nextBody rest n

theorem length_of_nextBody {unread : Bytes} {n : Nat} {text : List Char} {rest : Input}
    (h : nextBody unread n = .body text rest) : rest.unread.length < unread.length := by
  unfold nextBody at h
  split at h
  · cases h
  · split at h
    · cases h
    · split at h
      · cases h
      · cases h; simp only [List.length_drop]; omega

theorem length_of_next_body {i rest : Input} {text : List Char} (h : next i = .body text rest) :
    rest.unread.length < i.unread.length := by
  unfold next at h
  split at h
  · exact length_of_nextBody h
  · split at h
    · cases h
    · cases h
    · rename_i hr
      split at h
      · cases h
      · have h₁ := length_of_readLines hr
        have h₂ := length_of_nextBody h
        omega

/-- Why reading comes to rest: more has to arrive; or an empty body was passed over, and what is
behind it has to wait for more to arrive; or there is a fault. -/
inductive Rest where
  | waiting (i : Input)
  | paused (i : Input)
  | fault (cause : FrameFault)

/-- The bodies that have arrived, in order, and why reading comes to rest. -/
def drain (i : Input) : List (List Char) × Rest :=
  match _h : next i with
  | .waiting i => ([], .waiting i)
  | .emptyBody i => ([], .paused i)
  | .fault cause => ([], .fault cause)
  | .body text rest =>
    let p := drain rest
    (text :: p.1, p.2)
termination_by i.unread.length
decreasing_by exact length_of_next_body _h

/-- The octets of a frame around a body. -/
def frame (body : Bytes) : Bytes :=
  Utf8.encode ("Content-Length: ".toList ++ Decimal.digits body.length ++ "\r\n\r\n".toList) ++ body

end KatakanaLsp.Protocol.Framing
