import KatakanaLsp.Proofs.Text.Utf8
import KatakanaLsp.Proofs.Wire.Block
import KatakanaLsp.Proofs.Wire.Length

/-!
# Headers that give a length

A writer of frames is free in many ways: it may put other lines before and after the line that gives
the length, write the name of that line in any letter case, and put white space around name and
value. `Heading` is a header with exactly this freedom; its parts carry the proofs that they keep
within it, so that any two headings can be told apart from what is not one. This file shows that the
freedom does not reach the reader:

> `Heading.contentLength?_text`: the length read from the text of a heading is the length that was
> written.

> `Heading.isBlock_encode`: the octets of a heading are a header block.

Both look at the text line by line. The first joins lines and cuts them again (`headerLines_join`);
the second walks over octets, where a line has no carriage return and is never empty, so that no
blank line begins before the end.
-/

namespace KatakanaLsp.Wire

/-! ## Parts of a header -/

/-- A text without line breaks. -/
def Unbroken (s : List Char) : Prop := '\r' ∉ s ∧ '\n' ∉ s

/-- White space within a line. -/
structure Padding where
  text : List Char
  blank : ∀ c ∈ text, Text.isBlank c = true
  unbroken : Unbroken text

theorem blank_nil : ∀ c ∈ [], Text.isBlank c = true := nofun

theorem unbroken_nil : Unbroken [] := ⟨List.not_mem_nil, List.not_mem_nil⟩

theorem blank_space : ∀ c ∈ [' '], Text.isBlank c = true := List.forall_mem_singleton.mpr rfl

theorem unbroken_space : Unbroken [' '] := ⟨by decide, by decide⟩

/-- No white space. -/
def Padding.none : Padding := ⟨[], blank_nil, unbroken_nil⟩

/-- One space. -/
def Padding.space : Padding := ⟨[' '], blank_space, unbroken_space⟩

/-- A line that gives no length: it has no colon, or another name before the first one. -/
structure OtherLine where
  text : List Char
  nonempty : text ≠ []
  unbroken : Unbroken text
  other : ∀ name value, text = name ++ ':' :: value → ':' ∉ name →
    (Text.trim name).map Char.toLower ≠ lengthName

/-- How the line that gives the length is spelled: its name, in any letter case, and the white space
around name and value. -/
structure LengthLine where
  name : List Char
  named : name.map Char.toLower = lengthName
  beforeName : Padding
  afterName : Padding
  beforeValue : Padding
  afterValue : Padding

/-- The line for a length. -/
def LengthLine.text (l : LengthLine) (n : Nat) : List Char :=
  (l.beforeName.text ++ (l.name ++ l.afterName.text)) ++
    ':' :: (l.beforeValue.text ++ (Decimal.digits n ++ l.afterValue.text))

/-- A header: the line that gives the length, among others. -/
structure Heading where
  before : List OtherLine
  length : LengthLine
  after : List OtherLine

/-- The lines of a heading for a length. -/
def Heading.lines (h : Heading) (n : Nat) : List (List Char) :=
  h.before.map OtherLine.text ++ h.length.text n :: h.after.map OtherLine.text

/-- The text of a heading for a length. -/
def Heading.text (h : Heading) (n : Nat) : List Char := lineBreak.intercalate (h.lines n)

/-! ## Fields -/

theorem OtherLine.lineLength?_text (l : OtherLine) : lineLength? l.text = none := by
  cases hsplit : splitField l.text with
  | none => simp only [lineLength?, hsplit]
  | some p =>
    obtain ⟨name, value⟩ := p
    obtain ⟨htext, hname⟩ := splitField_eq_some_iff.mp hsplit
    simp only [lineLength?, hsplit, if_neg (l.other name value htext hname)]

/-- A colon is no white space. -/
theorem Padding.colon_not_mem (p : Padding) : ':' ∉ p.text := by
  intro h
  have := p.blank ':' h
  exact absurd this (by decide)

namespace LengthLine

variable (l : LengthLine)

theorem colon_not_mem_name : ':' ∉ l.name := by
  intro h
  have := IsLengthName.toLower_mem l.named h
  exact absurd this (by decide)

/-- The line for a length gives it, whatever the spelling. -/
theorem givesLength_text {n : Nat} (hn : n ≤ Decimal.max64) : GivesLength (l.text n) n := by
  have hcolon : ':' ∉ l.beforeName.text ++ (l.name ++ l.afterName.text) := by
    intro h
    rcases List.mem_append.mp h with h | h
    · exact l.beforeName.colon_not_mem h
    · rcases List.mem_append.mp h with h | h
      · exact l.colon_not_mem_name h
      · exact l.afterName.colon_not_mem h
  have hnumeral : Decimal.Unsigned64 (Decimal.digits n) n :=
    Decimal.unsigned64?_eq_some_iff.mp (Decimal.unsigned64?_digits hn)
  exact ⟨_, _, l.name, Decimal.digits n, rfl, hcolon,
    ⟨_, _, rfl, l.beforeName.blank, l.afterName.blank⟩, l.named,
    ⟨_, _, rfl, l.beforeValue.blank, l.afterValue.blank⟩, hnumeral⟩

end LengthLine

/-! ## Octets of lines -/

/-- A text has a carriage return exactly if its octets have one. -/
theorem cr_mem_encode {s : List Char} : (13 : UInt8) ∈ Utf8.encode s ↔ '\r' ∈ s :=
  Utf8.mem_encode (a := '\r') (by decide)

/-- The octets of a line that is not empty begin with one that is no carriage return. -/
theorem encode_eq_cons {line : List Char} (hsome : line ≠ []) (h : '\r' ∉ line) :
    ∃ c b, Utf8.encode line = c :: b ∧ c ≠ 13 := by
  cases hline : Utf8.encode line with
  | nil => exact absurd (Utf8.encode_eq_nil.mp hline) hsome
  | cons c b =>
    refine ⟨c, b, rfl, ?_⟩
    rintro rfl
    exact h (cr_mem_encode.mp (hline ▸ List.mem_cons_self ..))

theorem encode_join_eq_cons {line : List Char} (hsome : line ≠ []) (h : '\r' ∉ line)
    (others : List (List Char)) :
    ∃ c b, Utf8.encode (lineBreak.intercalate (line :: others)) = c :: b ∧ c ≠ 13 := by
  obtain ⟨c, b, hline, hc⟩ := encode_eq_cons hsome h
  cases others with
  | nil => exact ⟨c, b, by rw [List.intercalate_singleton, hline], hc⟩
  | cons second others =>
    rw [List.intercalate_cons_cons, Utf8.encode_append, Utf8.encode_append, hline]
    exact ⟨c, _, rfl, hc⟩

/-- The octets of joined lines are a header block if no line is empty. -/
theorem isBlock_encode_join {lines : List (List Char)}
    (h : ∀ line ∈ lines, line ≠ [] ∧ '\r' ∉ line) :
    IsBlock (Utf8.encode (lineBreak.intercalate lines)) := by
  induction lines with
  | nil => exact isBlock_nil
  | cons line others ih =>
    have hothers := ih fun l hl => h l (List.mem_cons_of_mem _ hl)
    have hoctets : (13 : UInt8) ∉ Utf8.encode line := fun hin =>
      (h line (List.mem_cons_self ..)).2 (cr_mem_encode.mp hin)
    cases others with
    | nil =>
      rw [List.intercalate_singleton, ← List.append_nil (Utf8.encode line)]
      exact IsBlock.append_left hoctets isBlock_nil
    | cons second others =>
      obtain ⟨hsome, hsecond⟩ := h second (by simp)
      obtain ⟨c, b, hjoin, hc⟩ := encode_join_eq_cons hsome hsecond others
      -- behind the break stands a line, which has something in front of its own break
      rw [hjoin] at hothers
      rw [List.intercalate_cons_cons, List.append_assoc, Utf8.encode_append, Utf8.encode_append,
        hjoin]
      exact IsBlock.append_left hoctets (hothers.line_break hc)

/-! ## Headings -/

/-- The line for a length is not empty, and no part of it has a carriage return. -/
theorem LengthLine.text_spec (l : LengthLine) (n : Nat) : l.text n ≠ [] ∧ '\r' ∉ l.text n := by
  refine ⟨by simp [text], fun hin => ?_⟩
  simp only [text, List.mem_append, List.mem_cons] at hin
  rcases hin with (h | h | h) | h | h | h | h
  · exact l.beforeName.unbroken.1 h
  · have := IsLengthName.toLower_mem l.named h
    exact absurd this (by decide)
  · exact l.afterName.unbroken.1 h
  · exact absurd h (by decide)
  · exact l.beforeValue.unbroken.1 h
  · have := Decimal.isDigit_of_mem_digits h
    exact absurd this (by decide)
  · exact l.afterValue.unbroken.1 h

namespace Heading

variable (h : Heading)

/-- Every line of a heading has something in it and no carriage return. -/
theorem lines_spec (n : Nat) : ∀ line ∈ h.lines n, line ≠ [] ∧ '\r' ∉ line := by
  intro line hline
  rcases List.mem_append.mp hline with hbefore | hfrom
  · obtain ⟨l, -, rfl⟩ := List.mem_map.mp hbefore
    exact ⟨l.nonempty, l.unbroken.1⟩
  · rcases List.mem_cons.mp hfrom with rfl | hafter
    · exact h.length.text_spec n
    · obtain ⟨l, -, rfl⟩ := List.mem_map.mp hafter
      exact ⟨l.nonempty, l.unbroken.1⟩

/-- **The octets of a heading are a header block.** -/
theorem isBlock_encode (n : Nat) : IsBlock (Utf8.encode (h.text n)) :=
  isBlock_encode_join (h.lines_spec n)

/-- Lines that give no length are passed over. -/
theorem findSome?_others (others : List OtherLine) :
    (others.map OtherLine.text).findSome? lineLength? = none := by
  rw [List.findSome?_eq_none_iff]
  intro line hline
  obtain ⟨l, -, rfl⟩ := List.mem_map.mp hline
  exact l.lineLength?_text

/-- **The length read from the text of a heading is the length that was written.** -/
theorem contentLength?_text {n : Nat} (hn : n ≤ Decimal.max64) :
    contentLength? (h.text n) = some n := by
  have hlines : headerLines (h.text n) = h.lines n :=
    headerLines_join (by simp [lines]) fun line hline =>
      not_infix_of_not_mem (h.lines_spec n line hline).2
  rw [contentLength?, hlines, lines, List.findSome?_append, findSome?_others,
    List.findSome?_cons,
    lineLength?_eq_some_iff.mpr (h.length.givesLength_text hn)]
  rfl

end Heading

end KatakanaLsp.Wire
