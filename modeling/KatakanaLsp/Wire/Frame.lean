import KatakanaLsp.Text.Blank
import KatakanaLsp.Text.Decimal
import KatakanaLsp.Text.Utf8

/-!
# Frames beside a transport

The wire log watches octets pass and picks complete messages out of them. A frame is a header
block, a blank line and a body whose length a header line gives. A header block without a usable
length is dropped with its blank line, so that the frames behind it still get through; a frame that
has not arrived yet stays where it is. `drain` takes everything complete from a buffer and leaves
the rest.
-/

namespace KatakanaLsp.Wire

/-! ## The length of a body -/

/-- A header text in lines, cut at every carriage return with a line feed. -/
def headerLines : List Char → List (List Char)
  | [] => [[]]
  | '\r' :: '\n' :: rest => [] :: headerLines rest
  | c :: rest =>
    match headerLines rest with
    | [] => [[c]]
    | line :: lines => (c :: line) :: lines

/-- What stands before and after the first colon of a line. -/
def splitField : List Char → Option (List Char × List Char)
  | [] => none
  | ':' :: rest => some ([], rest)
  | c :: rest => (splitField rest).map fun p => (c :: p.1, p.2)

/-- The name of the line that gives the length, in lower case. -/
def lengthName : List Char := "content-length".toList

/-- The length that a header line gives. -/
def lineLength? (line : List Char) : Option Nat :=
  match splitField line with
  | none => none
  | some (name, value) =>
    if (Text.trim name).map Char.toLower = lengthName then Decimal.unsigned64? (Text.trim value)
    else none

/-- The length that a header text gives: that of the first line which gives one. -/
def contentLength? (header : List Char) : Option Nat := (headerLines header).findSome? lineLength?

/-! ## Frames at the front of a buffer -/

/-- The octets before the first blank line, and those behind it. -/
def splitBlock : Bytes → Option (Bytes × Bytes)
  | 13 :: 10 :: 13 :: 10 :: rest => some ([], rest)
  | b :: rest => (splitBlock rest).map fun p => (b :: p.1, p.2)
  | [] => none

theorem length_of_splitBlock {b header rest : Bytes} (h : splitBlock b = some (header, rest)) :
    b.length = header.length + 4 + rest.length := by
  fun_induction splitBlock b generalizing header with
  | case1 rest' => simp at h; obtain ⟨rfl, rfl⟩ := h; simp; omega
  | case2 c tail _ ih =>
    cases hs : splitBlock tail with
    | none => simp [hs] at h
    | some p =>
      simp [hs] at h
      obtain ⟨rfl, rfl⟩ := h
      have := ih hs
      simp only [List.length_cons]
      omega
  | case3 => simp at h

/-- The octets of the blank line that ends a header block. -/
def terminatorLength : Nat := 4

/-- The length of the body behind a header block, if the block is text, gives a length, and the
frame ends at an index of 64 bits. -/
def usableLength? (header : Bytes) : Option Nat :=
  ((Utf8.decode? header).bind contentLength?).filter fun n =>
    header.length + terminatorLength + n ≤ Decimal.max64

/-- What stands at the front of a buffer. -/
inductive Front where
  | unfinished
  | unusable (rest : Bytes)
  | frame (body rest : Bytes)

/-- Reads the front of a buffer. -/
def front (b : Bytes) : Front :=
  match splitBlock b with
  | none => .unfinished
  | some (header, rest) =>
    match usableLength? header with
    | none => .unusable rest
    | some n => if rest.length < n then .unfinished else .frame (rest.take n) (rest.drop n)

theorem length_of_front_unusable {b rest : Bytes} (h : front b = .unusable rest) :
    rest.length + 4 ≤ b.length := by
  unfold front at h
  split at h
  · cases h
  · rename_i header r hs
    have := length_of_splitBlock hs
    split at h
    · injection h with h; subst h; omega
    · split at h <;> cases h

theorem length_of_front_frame {b body rest : Bytes} (h : front b = .frame body rest) :
    body.length + rest.length + 4 ≤ b.length := by
  unfold front at h
  split at h
  · cases h
  · rename_i header r hs
    have := length_of_splitBlock hs
    split at h
    · cases h
    · split at h
      · cases h
      · injection h with h₁ h₂; subst h₁ h₂; simp; omega

/-- Takes the first complete body, and leaves the buffer behind it. Without one, what is left
begins with the first header block that may still become usable. -/
def next? (b : Bytes) : Option String × Bytes :=
  match _h : front b with
  | .unfinished => (none, b)
  | .unusable rest => next? rest
  | .frame body rest => (some (Utf8.toStringLossy body), rest)
termination_by b.length
decreasing_by have := length_of_front_unusable _h; omega

/-- Takes every complete body, in order, and leaves the rest. -/
def drain (b : Bytes) : List String × Bytes :=
  match _h : front b with
  | .unfinished => ([], b)
  | .unusable rest => drain rest
  | .frame body rest =>
    let p := drain rest
    (Utf8.toStringLossy body :: p.1, p.2)
termination_by b.length
decreasing_by
  · have := length_of_front_unusable _h; omega
  · have := length_of_front_frame _h; omega

end KatakanaLsp.Wire
