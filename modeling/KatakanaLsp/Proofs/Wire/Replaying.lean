import KatakanaLsp.Proofs.Json.Reread
import KatakanaLsp.Proofs.Wire.Grammar
import KatakanaLsp.Proofs.Wire.Header
import KatakanaLsp.Proofs.Wire.ReadBack

/-!
# A log is no stream of frames

An entry of the log holds its message in the framing of the protocol, behind a head line. The head
line ends with a line feed alone, and header lines end with a carriage return and a line feed. So to
a reader of frames the line that gives the length is not a line of its own: it goes on from the head
line, and in front of that from the body of the entry before. The one line that results has its
first colon elsewhere, in the time or in the body, and gives no length.

> `front_logLine`: the header block of an entry is skipped, whatever was recorded before it.

> `recorded_not_replayable`: from a log nothing is taken, and the last body stays in the buffer. The
> bodies that were recorded come back only if there are none.

What matters of a body is the character it begins with, which is none of the name of the length.
-/

namespace KatakanaLsp

/-! ## What compact text begins with -/

/-- A character that is neither white space nor the first letter of the name of the length. -/
def Mute (c : Char) : Prop := Text.isBlank c = false ∧ c.toLower ≠ 'c'

instance (c : Char) : Decidable (Mute c) := inferInstanceAs (Decidable (_ ∧ _))

theorem mute_of_isDigit {c : Char} (hc : Decimal.isDigit c = true) : Mute c := by
  refine ⟨Text.isBlank_of_isDigit hc, ?_⟩
  rw [Text.toLower_of_isDigit hc]
  rintro rfl
  exact absurd hc (by decide)

/-- A text that begins with a mute character. -/
def BeginsMute (s : List Char) : Prop := ∃ c rest, s = c :: rest ∧ Mute c

theorem BeginsMute.cons {c : Char} (hc : Mute c) (rest : List Char) : BeginsMute (c :: rest) :=
  ⟨c, rest, rfl, hc⟩

theorem BeginsMute.append {s : List Char} (h : BeginsMute s) (t : List Char) :
    BeginsMute (s ++ t) := by
  obtain ⟨c, rest, rfl, hc⟩ := h
  exact .cons hc (rest ++ t)

theorem Decimal.beginsMute_digits (n : Nat) : BeginsMute (digits n) := by
  obtain ⟨c, ds, hds, hc, -⟩ := exists_digits_eq_cons n
  exact ⟨c, ds, hds, mute_of_isDigit hc⟩

namespace Binary64

theorem beginsMute_plainText {ds : List Char} (hds : BeginsMute ds) (width : Int) :
    BeginsMute (plainText ds width) := by
  simp only [plainText]
  split
  · exact .cons (by decide) _
  · split
    · rw [List.append_assoc]
      exact hds.append _
    next hpos _ =>
      -- at least one digit stands before the point
      obtain ⟨c, rest, rfl, hc⟩ := hds
      obtain ⟨k, hk⟩ : ∃ k, width.toNat = k + 1 := ⟨width.toNat - 1, by omega⟩
      rw [hk]
      exact .cons hc _

theorem beginsMute_scientificText {ds : List Char} (hds : BeginsMute ds) (exponent : Int) :
    BeginsMute (scientificText ds exponent) := by
  obtain ⟨c, rest, rfl, hc⟩ := hds
  unfold scientificText
  cases rest <;> exact .cons hc _

theorem beginsMute_text (x : Binary64) : BeginsMute x.text := by
  have hsigned {s : List Char} (hs : BeginsMute s) :
      BeginsMute ((if x.negative then ['-'] else []) ++ s) := by
    split
    · exact .cons (by decide) s
    · exact hs
  cases hshort : (if x.mantissa = 0 then none else x.shortest?) with
  | none =>
    simp only [text, hshort]
    exact hsigned (.cons (by decide) _)
  | some d =>
    simp only [text, hshort]
    refine hsigned ?_
    split
    · exact beginsMute_plainText (Decimal.beginsMute_digits _) _
    · exact beginsMute_scientificText (Decimal.beginsMute_digits _) _

end Binary64

/-- **Compact text begins with a mute character.** -/
theorem Json.beginsMute_chars (j : Json) : BeginsMute j.chars := by
  cases j with
  | null => exact .cons (by decide) _
  | bool b => cases b <;> exact .cons (by decide) _
  | number n =>
    cases n with
    | int i =>
      show BeginsMute (numberChars (.int i))
      rw [numberChars]
      split
      · exact .cons (by decide) _
      · exact Decimal.beginsMute_digits _
    | float x => exact x.beginsMute_text
  | string s => exact .cons (by decide) _
  | array items => exact .cons (by decide) _
  | object fields => exact .cons (by decide) _

namespace Wire

open Files (Tree Path Location)

/-! ## One entry -/

/-- A line that gives no length is skipped, if it is a header block of its own. -/
theorem front_line {line : List Char} (hcr : '\r' ∉ line) (hnone : ∀ n, ¬ GivesLength line n)
    (rest : Bytes) : front (Utf8.encode line ++ blankLine ++ rest) = .unusable rest := by
  have hoctets : (13 : UInt8) ∉ Utf8.encode line := fun hin => hcr (cr_mem_encode.mp hin)
  have hblock : IsBlock (Utf8.encode line) := by
    have := IsBlock.append_left hoctets isBlock_nil
    rwa [List.append_nil] at this
  have hlines : headerLines line = [line] := headerLines_single (not_infix_of_not_mem hcr)
  have hlength : contentLength? line = none := by
    rw [contentLength?_eq_none_iff, hlines]
    exact List.forall_mem_singleton.mpr hnone
  have hunusable : ¬ ∃ n, Usable (Utf8.encode line) n := by
    rintro ⟨n, text, htext, hgives, -⟩
    rw [← Utf8.encode_injective htext, hlength] at hgives
    cases hgives
  exact Segment.Valid.front_eq (s := .skipped (Utf8.encode line)) ⟨hblock, hunusable⟩ rest

/-- The line in which an entry gives its length, with the head line in front of it. -/
def Passage.logLine (p : Passage) (time : Timestamp) : List Char :=
  p.head time ++ '\n' :: "Content-Length: ".toList ++ Decimal.digits p.body.length

/-- What an entry puts behind its blank line: the body, and the empty line that ends it. -/
def Passage.trail (p : Passage) : List Char := p.message.canonical.chars ++ ['\n', '\n']

theorem Passage.octets_eq (p : Passage) (time : Timestamp) :
    p.octets time = Utf8.encode (p.logLine time) ++ blankLine ++ Utf8.encode p.trail := by
  simp only [octets, logLine, trail, Utf8.encode_append, List.append_assoc]
  rfl

theorem Passage.cr_not_mem_logLine (p : Passage) (time : Timestamp) :
    '\r' ∉ p.logLine time := by
  have hhead := (p.plain_head time).cr_not_mem
  have hdigits := (Decimal.plain_digits p.body.length).cr_not_mem
  have hlabel : '\r' ∉ '\n' :: "Content-Length: ".toList := by decide
  simp only [logLine, List.mem_append, not_or]
  exact ⟨⟨hhead, hlabel⟩, hdigits⟩

theorem Passage.cr_not_mem_trail (p : Passage) : '\r' ∉ p.trail := by
  have hbody := (Json.plain_chars p.message.canonical).cr_not_mem
  simp [trail, hbody]

/-- What can stand in a log in front of an entry: nothing, or what the entry before has put behind
its blank line. -/
def Carried (carry : List Char) : Prop := '\r' ∉ carry ∧ (carry = [] ∨ BeginsMute carry)

theorem carried_nil : Carried [] := ⟨List.not_mem_nil, Or.inl rfl⟩

theorem Passage.carried_trail (p : Passage) : Carried p.trail :=
  ⟨p.cr_not_mem_trail, Or.inr (p.message.canonical.beginsMute_chars.append _)⟩

/-- A line that begins with a mute character gives no length. -/
theorem not_givesLength_of_beginsMute {line : List Char} (h : BeginsMute line) (n : Nat) :
    ¬ GivesLength line n := by
  obtain ⟨c, rest, rfl, hc⟩ := h
  exact not_givesLength_cons hc.1 hc.2 rest n

/-- **The header block of an entry is skipped, whatever was recorded before it.** -/
theorem front_logLine {carry : List Char} (hcarry : Carried carry) (p : Passage)
    (time : Timestamp) (rest : Bytes) :
    front (Utf8.encode carry ++ (p.octets time ++ rest)) =
      .unusable (Utf8.encode p.trail ++ rest) := by
  have hcr : '\r' ∉ carry ++ p.logLine time := by
    rw [List.mem_append, not_or]
    exact ⟨hcarry.1, p.cr_not_mem_logLine time⟩
  have hbegins : BeginsMute (carry ++ p.logLine time) := by
    rcases hcarry.2 with rfl | hmute
    · -- the head line itself begins with a bracket
      exact .cons (by decide) _
    · exact hmute.append _
  have hnone := not_givesLength_of_beginsMute hbegins
  have hfront := front_line hcr hnone (Utf8.encode p.trail ++ rest)
  rw [← hfront, p.octets_eq]
  simp only [Utf8.encode_append, List.append_assoc]

/-! ## The whole log -/

/-- What a reader of frames keeps of a log, with something carried in front of it: what the last
entry has put behind its blank line. -/
def leftOf (carry : List Char) (entries : Entries) : List Char :=
  match entries.getLast? with
  | none => carry
  | some e => e.2.trail

theorem leftOf_cons (carry : List Char) (e : Timestamp × Passage) (entries : Entries) :
    leftOf carry (e :: entries) = leftOf e.2.trail entries := by
  cases entries with
  | nil => rfl
  | cons f entries => rfl

/-- Octets without a carriage return hold no blank line. -/
theorem drain_of_no_cr {b : Bytes} (h : 13 ∉ b) : drain b = ([], b) := by
  have hnone : ∀ i, ¬ BlankAt b i := fun i hat =>
    h (List.mem_of_mem_drop (hat.subset (List.mem_cons_self ..)))
  apply drain_of_unfinished
  rw [front, splitBlock_eq_none_iff.mpr hnone]

/-- **From a log nothing is taken.** -/
theorem drain_octets {carry : List Char} (hcarry : Carried carry) (entries : Entries) :
    drain (Utf8.encode carry ++ entries.octets) = ([], Utf8.encode (leftOf carry entries)) := by
  induction entries generalizing carry with
  | nil =>
    show drain (Utf8.encode carry ++ []) = _
    rw [List.append_nil, drain_of_no_cr fun hin => hcarry.1 (cr_mem_encode.mp hin)]
    rfl
  | cons e entries ih =>
    have hoctets : Entries.octets (e :: entries) = e.2.octets e.1 ++ Entries.octets entries := rfl
    rw [hoctets, drain_of_unusable (front_logLine hcarry e.2 e.1 _), ih e.2.carried_trail,
      leftOf_cons]

/-- **A log is not replayable.** Whatever is recorded in a fresh file, a reader of frames takes
nothing from it, in whatever pieces it arrives, and keeps what stands behind the last blank line. So
the bodies that were recorded come back exactly if there are none. -/
theorem recorded_not_replayable {path : Path} {file : Location} {t : Tree}
    (hfresh : t.content? file = some []) (entries : Entries) :
    let written := (Logger.on path file).recorded ((Logger.on path file).recordAll t entries)
    (∀ pieces : List Bytes, pieces.flatten = written →
      drainPieces [] pieces = ([], Utf8.encode (leftOf [] entries))) ∧
      ((takeAll written).1 = entries.map (fun e => e.2.message.canonical.text) ↔
        entries = []) := by
  intro written
  have hwritten : written = entries.octets := by
    show (((Logger.on path file).recordAll t entries).content? file).getD [] = entries.octets
    rw [Logger.content?_recordAll, hfresh]
    rfl
  have hdrain : drain written = ([], Utf8.encode (leftOf [] entries)) := by
    rw [hwritten]
    exact drain_octets carried_nil entries
  constructor
  · intro pieces hpieces
    rw [drainPieces_eq (drain_of_unfinished rfl), List.nil_append, hpieces, hdrain]
  · rw [takeAll_eq_drain, hdrain, eq_comm, List.map_eq_nil_iff]

/-- A request, which is not found in the log that records it. -/
def lostRequest : Passage :=
  ⟨.incoming, .object [("id", .int 4), ("method", .string "textDocument/completion")]⟩

theorem recorded_not_replayable_request :
    freshTree.content? [Utf8.ofString "wire.log"] = some [] ∧
      let l := Logger.on (.ofString "wire.log") [Utf8.ofString "wire.log"]
      let written := l.recorded (l.recordAll freshTree
        [(⟨2026, 10, 19, 9, 12, 3, 481⟩, lostRequest)])
      drainPieces [] [written.take 70, written.drop 70] = ([], Utf8.encode lostRequest.trail) ∧
      (takeAll written).1 ≠ [lostRequest.message.canonical.text] := by
  have hfresh : freshTree.content? [Utf8.ofString "wire.log"] = some [] := rfl
  obtain ⟨hpieces, hbodies⟩ := @recorded_not_replayable (.ofString "wire.log") _ _ hfresh
    [(⟨2026, 10, 19, 9, 12, 3, 481⟩, lostRequest)]
  refine ⟨hfresh, hpieces _ ?_, fun hfound => ?_⟩
  · rw [List.flatten_cons, List.flatten_singleton, List.take_append_drop]
  · exact absurd (hbodies.mp hfound) (List.cons_ne_nil _ _)

end Wire

end KatakanaLsp
