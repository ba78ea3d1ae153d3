import KatakanaLsp.Proofs.Protocol.HeaderLines
import KatakanaLsp.Proofs.Protocol.Streaming
import KatakanaLsp.Proofs.Wire.Framed
import KatakanaLsp.Proofs.Wire.ReadBack
import KatakanaLsp.Server.Turn

/-!
# Frames as clients write them

A client writes a header of one or two lines: the length, and perhaps, before or behind it, the
media type with one of two spellings of its character set. The body is a message that the server
takes (`Server.State.messageIn?`). Such a frame is a `ClientFrame`; two readers have to know it, and
they look at it in different ways. The wire log searches for the end of the header and for a line
with a length in it; the server reads line by line and is strict about each.

> `ClientFrame.front_octets`: the wire log finds the body, whatever follows.

> `ClientFrame.next_octets`: so does the server.

> `ClientFrame.drain_part`, `ClientFrame.drain_strict_part`: of a frame that has not arrived in full
> both wait for the rest.
-/

namespace KatakanaLsp

/-! ## Messages that the server takes -/

namespace Server.State

open Protocol (Message)

/-- The message in a body, as JSON and as the server understands it. -/
def messageIn? (body : List Char) : Option (Json × Message) :=
  match Json.parseFront? body with
  | none => none
  | some (j, rest) =>
    if Json.skip rest = [] then (Message.ofJson? j).map fun m => (j, m) else none

/-- A message in a body is dispatched. -/
theorem readBody_of_some {s : State} (hs : s.reading = .going) {body : List Char} {j : Json}
    {m : Message} (h : messageIn? body = some (j, m)) :
    s.readBody body = (s.dispatch m, .none) := by
  cases hfront : Json.parseFront? body with
  | none => simp [messageIn?, hfront] at h
  | some p =>
    obtain ⟨value, rest⟩ := p
    by_cases hrest : Json.skip rest = []
    · cases hmessage : Message.ofJson? value with
      | none => simp [messageIn?, hfront, hrest, hmessage] at h
      | some m' =>
        obtain ⟨rfl, rfl⟩ : value = j ∧ m' = m := by
          simpa [messageIn?, hfront, hrest, hmessage] using h
        simp [readBody, hs, hfront, hmessage, hrest]
    · simp [messageIn?, hfront, hrest] at h

/-- The message in a body is what the body writes. -/
theorem parse?_of_messageIn? {body : List Char} {j : Json} {m : Message}
    (h : messageIn? body = some (j, m)) : Json.parse? body = some j := by
  cases hfront : Json.parseFront? body with
  | none => simp [messageIn?, hfront] at h
  | some p =>
    obtain ⟨value, rest⟩ := p
    have hrest : Json.skip rest = [] := by
      refine Classical.not_not.mp fun hrest => ?_
      simp [messageIn?, hfront, hrest] at h
    have hvalue : value = j := by
      cases hmessage : Message.ofJson? value with
      | none => simp [messageIn?, hfront, hrest, hmessage] at h
      | some m' => simpa [messageIn?, hfront, hrest, hmessage] using congrArg (·.map Prod.fst) h
    have hread : Json.readValue? Json.maxDepth (Json.skip body) = some (value, rest) := hfront
    simp only [Json.parse?, Json.parseWithin?, hread, if_pos hrest, hvalue]

end Server.State

namespace Wire

open Protocol.Framing (HeaderLine lineEnd isTokenOctet isValueOctet isPadding)

/-! ## The header of a client -/

/-- How a client spells the character set. -/
inductive Charset where
  | dashed
  | plain
  deriving DecidableEq, Repr

/-- The name of the character set. -/
def Charset.name : Charset → List Char
  | dashed => "utf-8".toList
  | plain => "utf8".toList

/-- A line with a name and a value. -/
def fieldLine (name value : List Char) : List Char := name ++ ':' :: ' ' :: value

/-- The media type with its character set. -/
def Charset.mediaType (c : Charset) : List Char :=
  "application/vscode-jsonrpc; charset=".toList ++ c.name

/-- The line that names the media type. -/
def Charset.line (c : Charset) : List Char := fieldLine "Content-Type".toList c.mediaType

/-- The line that gives a length. -/
def lengthText (n : Nat) : List Char := fieldLine "Content-Length".toList (Decimal.digits n)

/-- Where a client names the media type: nowhere, before the length or behind it. -/
inductive TypeLine where
  | absent
  | before (c : Charset)
  | behind (c : Charset)
  deriving DecidableEq, Repr

/-- The lines of a header for a body of `n` octets. -/
def TypeLine.lines (n : Nat) : TypeLine → List (List Char)
  | absent => [lengthText n]
  | before c => [c.line, lengthText n]
  | behind c => [lengthText n, c.line]

/-- Lines as they are written, each with its line break, and the empty line behind the last. -/
def headerOctets (lines : List (List Char)) : Bytes :=
  lines.flatMap (fun line => Utf8.encode line ++ lineEnd) ++ lineEnd

/-- The octets of a frame with a body. -/
def TypeLine.frame (t : TypeLine) (body : List Char) : Bytes :=
  headerOctets (t.lines (Utf8.encode body).length) ++ Utf8.encode body

/-- A frame as a client writes it, whose body is a message that the server takes and whose length is
one of 64 bits. -/
structure ClientFrame where
  typeLine : TypeLine
  body : List Char
  taken : (Server.State.messageIn? body).isSome = true
  fits : (typeLine.frame body).length ≤ Decimal.max64

/-- The octets of a frame. -/
def ClientFrame.octets (f : ClientFrame) : Bytes := f.typeLine.frame f.body

/-! ## The header before the wire log -/

/-- The line with the media type gives no length. -/
theorem Charset.other (c : Charset) (name value : List Char) (h : c.line = name ++ ':' :: value)
    (hname : ':' ∉ name) : (Text.trim name).map Char.toLower ≠ lengthName := by
  have hsplit : splitField c.line = some (name, value) := splitField_eq_some_iff.mpr ⟨h, hname⟩
  have htype : (splitField c.line).map Prod.fst = some "Content-Type".toList := by
    cases c <;> rfl
  rw [hsplit] at htype
  obtain rfl : name = "Content-Type".toList := Option.some.inj htype
  decide

/-- The line with the media type among the lines of a heading. -/
def Charset.otherLine (c : Charset) : OtherLine where
  text := c.line
  nonempty := by cases c <;> decide
  unbroken := by cases c <;> exact ⟨by decide, by decide⟩
  other := c.other

/-- A client's header as a heading. -/
def TypeLine.heading : TypeLine → Heading
  | absent => plainHeading
  | before c => { plainHeading with before := [c.otherLine] }
  | behind c => { plainHeading with after := [c.otherLine] }

theorem lengthLine_text (n : Nat) : plainHeading.length.text n = lengthText n := by
  simp only [plainHeading, LengthLine.text, lengthText, fieldLine, Padding.none, Padding.space,
    List.nil_append, List.append_nil, List.cons_append]

theorem TypeLine.lines_heading (t : TypeLine) (n : Nat) : t.heading.lines n = t.lines n := by
  cases t with
  | absent =>
    show [plainHeading.length.text n] = [lengthText n]
    rw [lengthLine_text]
  | before c =>
    show [c.line, plainHeading.length.text n] = [c.line, lengthText n]
    rw [lengthLine_text]
  | behind c =>
    show [plainHeading.length.text n, c.line] = [lengthText n, c.line]
    rw [lengthLine_text]

/-- Lines, each with its line break, and an empty line are the joined lines and a blank line. -/
theorem headerOctets_eq_join {lines : List (List Char)} (h : lines ≠ []) :
    headerOctets lines = Utf8.encode (lineBreak.intercalate lines) ++ blankLine := by
  have hbreak : Utf8.encode lineBreak = lineEnd := rfl
  induction lines with
  | nil => exact absurd rfl h
  | cons line others ih =>
    cases others with
    | nil => simp [headerOctets, List.intercalate_singleton, lineEnd, blankLine]
    | cons second others =>
      have hothers := ih (by simp)
      rw [headerOctets] at hothers ⊢
      rw [List.flatMap_cons, List.append_assoc, hothers, List.intercalate_cons_cons,
        Utf8.encode_append, Utf8.encode_append, hbreak]
      simp only [List.append_assoc]

namespace ClientFrame

/-- The octets of the header of a frame. -/
def block (f : ClientFrame) : Bytes :=
  Utf8.encode (f.typeLine.heading.text (Utf8.encode f.body).length)

/-- The segment that a frame is. -/
def segment (f : ClientFrame) : Segment := .frame f.block (Utf8.encode f.body)

theorem octets_segment (f : ClientFrame) : f.segment.octets = f.octets := by
  have hlines : f.typeLine.lines (Utf8.encode f.body).length ≠ [] := by
    cases f.typeLine <;> simp [TypeLine.lines]
  rw [segment, Segment.octets, block, Heading.text, TypeLine.lines_heading, octets, TypeLine.frame,
    headerOctets_eq_join hlines]

theorem valid_segment (f : ClientFrame) : f.segment.Valid := by
  have hfits := f.fits
  have hoctets := f.octets_segment
  rw [segment, Segment.octets] at hoctets
  rw [← octets, ← hoctets, List.length_append, List.length_append] at hfits
  have hmax : (Utf8.encode f.body).length ≤ Decimal.max64 := by omega
  exact ⟨f.typeLine.heading.isBlock_encode _, _, rfl,
    f.typeLine.heading.contentLength?_text hmax, hfits⟩

/-- **The wire log finds the body of a frame**, whatever follows. -/
theorem front_octets (f : ClientFrame) (later : Bytes) :
    front (f.octets ++ later) = .frame (Utf8.encode f.body) later := by
  rw [← octets_segment]
  exact f.valid_segment.front_eq later

/-- A frame has octets. -/
theorem octets_ne_nil (f : ClientFrame) : f.octets ≠ [] := by
  intro hnil
  have hfront := f.front_octets []
  rw [hnil] at hfront
  cases hfront

/-- Of a frame that has not arrived in full the wire log takes nothing. -/
theorem drain_part (f : ClientFrame) {part missing : Bytes} (hpart : part ++ missing = f.octets)
    (hmissing : missing ≠ []) : drain part = ([], part) := by
  rw [← octets_segment] at hpart
  exact f.valid_segment.drain_part hpart hmissing

end ClientFrame

/-! ## The header before the server -/

/-- A line with a name and a value as the server reads it. -/
def headerLine (name value : List Char) : HeaderLine := ⟨Utf8.encode name, Utf8.encode value⟩

/-- The line with the media type as the server reads it. -/
def Charset.headerLine (c : Charset) : HeaderLine :=
  Wire.headerLine "Content-Type".toList c.mediaType

/-- The line with a length as the server reads it. -/
def lengthHeaderLine (n : Nat) : HeaderLine :=
  headerLine "Content-Length".toList (Decimal.digits n)

/-- The lines of a header as the server reads them. -/
def TypeLine.headerLines (n : Nat) : TypeLine → List HeaderLine
  | absent => [lengthHeaderLine n]
  | before c => [c.headerLine, lengthHeaderLine n]
  | behind c => [lengthHeaderLine n, c.headerLine]

theorem octets_headerLine (name value : List Char) :
    (headerLine name value).octets = Utf8.encode (fieldLine name value) ++ lineEnd := by
  have hcolon (s : List Char) : Utf8.encode (':' :: ' ' :: s) = 58 :: 32 :: Utf8.encode s := rfl
  rw [fieldLine, Utf8.encode_append, hcolon, headerLine, HeaderLine.octets, List.append_assoc,
    List.cons_append, List.cons_append]

theorem TypeLine.octets_headerLines (t : TypeLine) (n : Nat) :
    (t.headerLines n).flatMap HeaderLine.octets ++ lineEnd = headerOctets (t.lines n) := by
  cases t <;>
    simp only [headerLines, headerOctets, lines, List.flatMap_cons, List.flatMap_nil,
      Charset.headerLine, Charset.line, lengthHeaderLine, lengthText, octets_headerLine]

theorem Charset.plain_headerLine (c : Charset) : c.headerLine.Plain := by
  cases c <;>
    exact ⟨by decide, by decide +kernel, by decide +kernel, by decide +kernel, by decide +kernel⟩

/-- The octet of a digit is visible and no padding. -/
theorem visible_digit {n : Nat} {o : UInt8} (ho : o ∈ Utf8.encode (Decimal.digits n)) :
    isValueOctet o = true ∧ isPadding o = false := by
  rw [encode_digits] at ho
  obtain ⟨c, hc, rfl⟩ := List.mem_map.mp ho
  obtain ⟨hlow, hhigh, -⟩ := toNat_digitOctet hc
  simp only [isValueOctet, isPadding, Bool.or_eq_true, Bool.and_eq_true, decide_eq_true_eq,
    Bool.or_eq_false_iff, decide_eq_false_iff_not, UInt8.le_iff_toNat_le, ← UInt8.toNat_inj,
    show (9 : UInt8).toNat = 9 from rfl, show (32 : UInt8).toNat = 32 from rfl,
    show (126 : UInt8).toNat = 126 from rfl]
  omega

/-- Nothing is dropped where nothing is padding. -/
theorem dropWhile_isPadding {b : Bytes} (h : ∀ o ∈ b, isPadding o = false) :
    b.dropWhile isPadding = b := by
  cases b with
  | nil => rfl
  | cons o b =>
    apply List.dropWhile_cons_of_neg
    rw [h o (List.mem_cons_self ..)]
    exact Bool.false_ne_true

theorem plain_lengthHeaderLine (n : Nat) : (lengthHeaderLine n).Plain where
  named := (by decide : Utf8.encode "Content-Length".toList ≠ [])
  token := (by decide +kernel : ∀ o ∈ Utf8.encode "Content-Length".toList, isTokenOctet o = true)
  visible _ ho := (visible_digit ho).1
  bareFront := dropWhile_isPadding fun _ ho => (visible_digit ho).2
  bareBack := dropWhile_isPadding fun _ ho => (visible_digit (List.mem_reverse.mp ho)).2

theorem TypeLine.plain_headerLines (t : TypeLine) (n : Nat) :
    ∀ l ∈ t.headerLines n, l.Plain := by
  intro l hl
  cases t with
  | absent =>
    obtain rfl := List.mem_singleton.mp hl
    exact plain_lengthHeaderLine n
  | before c =>
    rcases List.mem_pair.mp hl with rfl | rfl
    · exact c.plain_headerLine
    · exact plain_lengthHeaderLine n
  | behind c =>
    rcases List.mem_pair.mp hl with rfl | rfl
    · exact plain_lengthHeaderLine n
    · exact c.plain_headerLine

theorem useLine_lengthHeaderLine {n : Nat} (hn : n ≤ Decimal.max64) (length : Option Nat) :
    Protocol.Framing.useLine length (lengthHeaderLine n) = .ok (some n) := by
  have hname : (lengthHeaderLine n).name = Utf8.ofString "Content-Length" := rfl
  have hvalue : (lengthHeaderLine n).value = Utf8.encode (Decimal.digits n) := rfl
  rw [Protocol.Framing.useLine, if_pos hname, hvalue, Utf8.decode?_encode, Option.bind_some,
    Decimal.unsigned64?_digits hn]

theorem useLine_typeHeaderLine (c : Charset) (length : Option Nat) :
    Protocol.Framing.useLine length c.headerLine = .ok length := by
  have hname : c.headerLine.name ≠ Utf8.ofString "Content-Length" := by cases c <;> decide
  have htype : c.headerLine.name = Utf8.ofString "Content-Type" := by cases c <;> rfl
  have hvalue : c.headerLine.value = Utf8.encode c.mediaType := rfl
  have hset : Protocol.Framing.charset? c.mediaType = some c.name := by cases c <;> rfl
  have hknown : c.name = "utf-8".toList ∨ c.name = "utf8".toList := by
    cases c with
    | dashed => exact Or.inl rfl
    | plain => exact Or.inr rfl
  rw [Protocol.Framing.useLine, if_neg hname, if_pos htype, hvalue, Utf8.decode?_encode]
  simp only [hset, if_pos hknown]

theorem TypeLine.blockLength_headerLines (t : TypeLine) {n : Nat} (hn : n ≤ Decimal.max64) :
    Protocol.Framing.blockLength (t.headerLines n) = .ok n := by
  cases t <;>
    simp only [Protocol.Framing.blockLength, headerLines, List.foldlM_cons, List.foldlM_nil,
      useLine_lengthHeaderLine hn, useLine_typeHeaderLine, bind, Except.bind, pure, Except.pure]

namespace ClientFrame

/-- A body with a message in it is not empty. -/
theorem body_ne_nil (f : ClientFrame) : f.body ≠ [] := by
  intro hnil
  have htaken := f.taken
  rw [hnil] at htaken
  exact absurd htaken (by decide)

/-- **The server finds the body of a frame**, whatever follows. -/
theorem next_octets (f : ClientFrame) (later : Bytes) :
    Protocol.Framing.next ⟨f.octets ++ later, none⟩ = .body f.body ⟨later, none⟩ := by
  have hfits := f.fits
  rw [TypeLine.frame, List.length_append] at hfits
  have hmax : (Utf8.encode f.body).length ≤ Decimal.max64 := by omega
  have hroom : (f.typeLine.headerLines (Utf8.encode f.body).length).length ≤
      Protocol.Framing.maxLines := by
    cases f.typeLine <;> simp [TypeLine.headerLines, Protocol.Framing.maxLines]
  rw [octets, TypeLine.frame, ← TypeLine.octets_headerLines, List.append_assoc, List.append_assoc]
  exact Protocol.Framing.next_of_lines (f.typeLine.plain_headerLines _) hroom f.body_ne_nil
    (f.typeLine.blockLength_headerLines hmax) later

/-- Of a frame that has not arrived in full the server takes nothing: it waits. -/
theorem drain_strict_part (f : ClientFrame) {part missing : Bytes}
    (hpart : part ++ missing = f.octets) (hmissing : missing ≠ []) :
    ∃ i, Protocol.Framing.drain ⟨part, none⟩ = ([], .waiting i) := by
  -- any other front would stay as it is, but the whole frame is a body with nothing behind it
  have hlater := Protocol.Framing.next_extend ⟨part, none⟩ missing
  have hwhole := f.next_octets []
  rw [List.append_nil, ← hpart] at hwhole
  rw [Protocol.Framing.Input.extend, hwhole] at hlater
  cases hnext : Protocol.Framing.next ⟨part, none⟩ with
  | waiting i => exact ⟨i, Protocol.Framing.drain_of_waiting hnext⟩
  | emptyBody rest =>
    rw [hnext] at hlater
    cases hlater
  | fault cause =>
    rw [hnext] at hlater
    cases hlater
  | body text rest =>
    rw [hnext] at hlater
    injection hlater with _ hrest
    have hunread : [] = rest.unread ++ missing := congrArg Protocol.Framing.Input.unread hrest
    exact absurd (List.append_eq_nil_iff.mp hunread.symm).2 hmissing

end ClientFrame

end Wire

end KatakanaLsp
