import KatakanaLsp.Proofs.Text.Blank
import KatakanaLsp.Wire.Frame

/-!
# Which length a header gives

The reader of a header looks for the first line that gives a length, and a line can fail to give one
in several ways. This file says which texts are the lines of a header, and which of them give which
length, without reading anything:

> `headerLines_eq_iff`: a text is cut into the one list of lines that have no line break inside and
> join to the text.

> `lineLength?_eq_some_iff`: a line gives a length exactly if it is `content-length`, a colon and a
> numeral of 64 bits, the name in any letter case, with any white space around name and numeral.

A line that gives none is of one of three kinds (`givesNone_iff`), and none of them ends the search:

> `contentLength?_eq_first`: the length of a header is that of the first of its lines which gives
> one.
-/

namespace KatakanaLsp.Wire

/-! ## Lines -/

/-- The line break between header lines. -/
def lineBreak : List Char := ['\r', '\n']

/-- A line without a carriage return has no line break in it. -/
theorem not_infix_of_not_mem {line : List Char} (h : '\r' ∉ line) : ¬ lineBreak <:+: line :=
  fun hin => h (hin.subset (List.mem_cons_self ..))

/-- In front of more characters no line break begins if none begins at their front, and none is
inside. -/
theorem not_infix_cons_iff {c : Char} {line : List Char} :
    ¬ lineBreak <:+: c :: line ↔
      ¬ (c = '\r' ∧ line.head? = some '\n') ∧ ¬ lineBreak <:+: line := by
  have hfront : lineBreak <+: c :: line ↔ c = '\r' ∧ line.head? = some '\n' := by
    cases line <;> simp [lineBreak, eq_comm]
  rw [List.infix_cons_iff, hfront, not_or]

/-- Lines are cut off one by one. Only a carriage return with a line feed behind it ends one. -/
theorem headerLines_cons {c : Char} {text line : List Char} {lines : List (List Char)}
    (h : ¬ (c = '\r' ∧ text.head? = some '\n')) (hlines : headerLines text = line :: lines) :
    headerLines (c :: text) = (c :: line) :: lines := by
  rw [headerLines, hlines]
  rintro rest rfl rfl
  exact h ⟨rfl, rfl⟩

/-- The first line ends at the first line break. -/
theorem headerLines_append {line : List Char} (h : ¬ lineBreak <:+: line) (rest : List Char) :
    headerLines (line ++ lineBreak ++ rest) = line :: headerLines rest := by
  induction line with
  | nil => rfl
  | cons c line ih =>
    obtain ⟨hfront, hline⟩ := not_infix_cons_iff.mp h
    refine headerLines_cons ?_ (ih hline)
    -- a break that ends the line begins with a carriage return, so none begins before it
    cases line with
    | nil => exact fun hbreak => absurd hbreak.2 (by simp [lineBreak])
    | cons d line => exact hfront

theorem headerLines_single {line : List Char} (h : ¬ lineBreak <:+: line) :
    headerLines line = [line] := by
  induction line with
  | nil => rfl
  | cons c line ih =>
    obtain ⟨hfront, hline⟩ := not_infix_cons_iff.mp h
    exact headerLines_cons hfront (ih hline)

/-- Lines that are joined are cut into the same lines again. -/
theorem headerLines_join {lines : List (List Char)} (hsome : lines ≠ [])
    (h : ∀ line ∈ lines, ¬ lineBreak <:+: line) :
    headerLines (lineBreak.intercalate lines) = lines := by
  induction lines with
  | nil => exact absurd rfl hsome
  | cons line others ih =>
    have hline := h line (List.mem_cons_self ..)
    cases others with
    | nil => rw [List.intercalate_singleton, headerLines_single hline]
    | cons second others =>
      have hothers := ih (by simp) fun l hl => h l (List.mem_cons_of_mem _ hl)
      rw [List.intercalate_cons_cons, headerLines_append hline, hothers]

/-- A text is cut into lines at every line break. -/
structure IsCut (text : List Char) (lines : List (List Char)) : Prop where
  joined : lineBreak.intercalate lines = text
  nonempty : lines ≠ []
  whole : ∀ line ∈ lines, ¬ lineBreak <:+: line

theorem not_infix_nil : ¬ lineBreak <:+: [] := not_infix_of_not_mem List.not_mem_nil

theorem isCut_nil : IsCut [] [[]] :=
  ⟨rfl, by simp, fun _ hline => (List.mem_singleton.mp hline).symm ▸ not_infix_nil⟩

/-- A line break in front ends an empty line. -/
theorem IsCut.line_break {text : List Char} {lines : List (List Char)} (h : IsCut text lines) :
    IsCut (lineBreak ++ text) ([] :: lines) := by
  obtain ⟨line, others, rfl⟩ := List.exists_cons_of_ne_nil h.nonempty
  refine ⟨?_, by simp, List.forall_mem_cons.mpr ⟨not_infix_nil, h.whole⟩⟩
  rw [List.intercalate_cons_cons, h.joined, List.nil_append]

/-- The first line of a text begins as the text does, unless it is empty. -/
theorem IsCut.head? {text line : List Char} {lines : List (List Char)}
    (h : IsCut text (line :: lines)) (hne : line ≠ []) : line.head? = text.head? := by
  obtain ⟨c, line, rfl⟩ := List.exists_cons_of_ne_nil hne
  rw [← h.joined]
  cases lines <;> rfl

/-- A character in front, with which no line break begins, belongs to the first line. -/
theorem IsCut.cons {c : Char} {text line : List Char} {lines : List (List Char)}
    (hc : ¬ (c = '\r' ∧ text.head? = some '\n')) (h : IsCut text (line :: lines)) :
    IsCut (c :: text) ((c :: line) :: lines) := by
  obtain ⟨hline, hothers⟩ := List.forall_mem_cons.mp h.whole
  have hfront : ¬ (c = '\r' ∧ line.head? = some '\n') := by
    rintro ⟨hcr, hlf⟩
    have hne : line ≠ [] := by
      rintro rfl
      exact absurd hlf (by simp)
    exact hc ⟨hcr, h.head? hne ▸ hlf⟩
  refine ⟨?_, by simp, List.forall_mem_cons.mpr ⟨not_infix_cons_iff.mpr ⟨hfront, hline⟩, hothers⟩⟩
  rw [← h.joined]
  cases lines <;> rfl

theorem isCut_headerLines (text : List Char) : IsCut text (headerLines text) := by
  fun_induction headerLines text with
  | case1 => exact isCut_nil
  | case2 rest ih => exact ih.line_break
  | case3 c rest hc hnone ih => exact absurd hnone ih.nonempty
  | case4 c rest hc line lines hlines ih =>
    rw [hlines] at ih
    refine ih.cons ?_
    rintro ⟨rfl, hlf⟩
    obtain ⟨more, rfl⟩ := List.head?_eq_some_iff.mp hlf
    exact hc more rfl rfl

/-- **A text is cut into the one list of lines without a line break that join to it.** -/
theorem headerLines_eq_iff {text : List Char} {lines : List (List Char)} :
    headerLines text = lines ↔ IsCut text lines := by
  constructor
  · rintro rfl
    exact isCut_headerLines text
  · rintro ⟨rfl, hsome, hwhole⟩
    exact headerLines_join hsome hwhole

/-! ## Fields -/

/-- A line is split at its first colon. -/
theorem splitField_eq_some_iff {s name value : List Char} :
    splitField s = some (name, value) ↔ s = name ++ ':' :: value ∧ ':' ∉ name := by
  induction s generalizing name with
  | nil => simp [splitField]
  | cons c s ih =>
    by_cases hc : c = ':'
    · subst hc
      constructor
      · intro h
        obtain ⟨rfl, rfl⟩ : [] = name ∧ s = value := by simpa [splitField] using h
        exact ⟨rfl, List.not_mem_nil⟩
      · rintro ⟨hs, hname⟩
        cases name with
        | nil => rw [List.nil_append] at hs; rw [splitField, (List.cons.inj hs).2]
        | cons d name =>
          obtain ⟨rfl, -⟩ := List.cons.inj hs
          exact absurd (List.mem_cons_self ..) hname
    · rw [splitField, Option.map_eq_some_iff]
      · constructor
        · rintro ⟨⟨name', v⟩, hsplit, heq⟩
          obtain ⟨rfl, rfl⟩ := Prod.mk.inj heq
          obtain ⟨rfl, hname⟩ := ih.mp hsplit
          refine ⟨rfl, fun hin => ?_⟩
          rcases List.mem_cons.mp hin with h | h
          · exact hc h.symm
          · exact hname h
        · rintro ⟨hs, hname⟩
          cases name with
          | nil => exact absurd (List.cons.inj hs).1 hc
          | cons d name =>
            obtain ⟨rfl, hs'⟩ := List.cons.inj hs
            have hname' : ':' ∉ name := fun hin => hname (List.mem_cons_of_mem _ hin)
            exact ⟨(name, value), ih.mpr ⟨hs', hname'⟩, rfl⟩
      · exact hc

/-- A word is the name of the line that gives the length, in any letter case. -/
def IsLengthName (word : List Char) : Prop := word.map Char.toLower = lengthName

/-- A character of the name is one of the name in lower case, but for its case. -/
theorem IsLengthName.toLower_mem {word : List Char} (h : IsLengthName word) {c : Char}
    (hc : c ∈ word) : c.toLower ∈ lengthName := by
  rw [← h]
  exact List.mem_map_of_mem hc

theorem IsLengthName.not_blank {word : List Char} (h : IsLengthName word) :
    ∀ c ∈ word, Text.isBlank c = false := by
  intro c hc
  rw [Bool.eq_false_iff]
  intro hblank
  have hmem := h.toLower_mem hc
  rw [Text.toLower_of_isBlank hblank] at hmem
  have hnone : lengthName.any Text.isBlank = false := rfl
  exact List.any_eq_false.mp hnone c hmem hblank

/-- A numeral has no white space in it. -/
theorem not_blank_of_unsigned64 {s : List Char} {n : Nat} (h : Decimal.Unsigned64 s n) :
    ∀ c ∈ s, Text.isBlank c = false := by
  obtain ⟨sign, ds, rfl, hsign, -, hdigits, -⟩ := h
  intro c hc
  rcases List.mem_append.mp hc with hc | hc
  · rcases hsign with rfl | rfl
    · exact absurd hc List.not_mem_nil
    · rw [List.mem_singleton.mp hc]
      rfl
  · exact Text.isBlank_of_isDigit (Decimal.isDigit_iff.mpr (hdigits c hc))

/-! ## Lines that give a length -/

/-- A line gives a length: before its first colon stands the name, and after it a numeral, each with
white space around it. -/
def GivesLength (line : List Char) (n : Nat) : Prop :=
  ∃ name value word numeral, line = name ++ ':' :: value ∧ ':' ∉ name ∧
    Text.Padded word name ∧ IsLengthName word ∧ Text.Padded numeral value ∧
    Decimal.Unsigned64 numeral n

/-- **A length is read from exactly the lines that give it.** -/
theorem lineLength?_eq_some_iff {line : List Char} {n : Nat} :
    lineLength? line = some n ↔ GivesLength line n := by
  constructor
  · intro h
    cases hsplit : splitField line with
    | none => simp [lineLength?, hsplit] at h
    | some p =>
      obtain ⟨name, value⟩ := p
      simp only [lineLength?, hsplit, Option.ite_none_right_eq_some] at h
      obtain ⟨hline, hcolon⟩ := splitField_eq_some_iff.mp hsplit
      exact ⟨name, value, Text.trim name, Text.trim value, hline, hcolon, Text.padded_trim name,
        h.1, Text.padded_trim value, Decimal.unsigned64?_eq_some_iff.mp h.2⟩
  · rintro ⟨name, value, word, numeral, hline, hcolon, hname, hword, hvalue, hnumeral⟩
    have hsplit : splitField line = some (name, value) :=
      splitField_eq_some_iff.mpr ⟨hline, hcolon⟩
    have hnamed : (Text.trim name).map Char.toLower = lengthName := by
      rw [Text.trim_eq_of_padded hname hword.not_blank]
      exact hword
    simp only [lineLength?, hsplit, if_pos hnamed,
      Text.trim_eq_of_padded hvalue (not_blank_of_unsigned64 hnumeral)]
    exact Decimal.unsigned64?_eq_some_iff.mpr hnumeral

theorem lineLength?_eq_none_iff {line : List Char} :
    lineLength? line = none ↔ ∀ n, ¬ GivesLength line n := by
  simp only [← lineLength?_eq_some_iff, Option.eq_none_iff_forall_ne_some, ne_eq]

/-- A line gives no length: it has no colon, another name before the first one, or after it no
numeral of 64 bits. -/
inductive GivesNone (line : List Char) : Prop where
  | noColon (h : ':' ∉ line)
  | otherName {name value : List Char} (hline : line = name ++ ':' :: value) (hcolon : ':' ∉ name)
      (h : ∀ word, Text.Padded word name → ¬ IsLengthName word)
  | badValue {name value : List Char} (hline : line = name ++ ':' :: value) (hcolon : ':' ∉ name)
      (h : ∀ numeral n, Text.Padded numeral value → ¬ Decimal.Unsigned64 numeral n)

/-- The part before the first colon is determined by the line, and so is the part after it. -/
theorem field_unique {name value name' value' : List Char} (hcolon : ':' ∉ name)
    (hcolon' : ':' ∉ name') (h : name ++ ':' :: value = name' ++ ':' :: value') :
    name = name' ∧ value = value' := by
  have hsplit : splitField (name ++ ':' :: value) = some (name, value) :=
    splitField_eq_some_iff.mpr ⟨rfl, hcolon⟩
  have hsplit' : splitField (name ++ ':' :: value) = some (name', value') :=
    splitField_eq_some_iff.mpr ⟨h, hcolon'⟩
  exact Prod.mk.inj (Option.some.inj (hsplit.symm.trans hsplit'))

theorem givesNone_iff {line : List Char} : GivesNone line ↔ ∀ n, ¬ GivesLength line n := by
  constructor
  · rintro hnone n ⟨name, value, word, numeral, rfl, hcolon, hname, hword, hvalue, hnumeral⟩
    cases hnone with
    | noColon h => exact h (by simp)
    | otherName hline hother h =>
      obtain ⟨rfl, rfl⟩ := field_unique hcolon hother hline
      exact h word hname hword
    | badValue hline hother h =>
      obtain ⟨rfl, rfl⟩ := field_unique hcolon hother hline
      exact h numeral n hvalue hnumeral
  · intro hnone
    by_cases hcolon : ':' ∈ line
    · obtain ⟨name, value, hline, hname⟩ := List.eq_append_cons_of_mem hcolon
      by_cases hword : ∃ word, Text.Padded word name ∧ IsLengthName word
      · obtain ⟨word, hpadded, hword⟩ := hword
        refine .badValue hline hname fun numeral n hvalue hnumeral => ?_
        exact hnone n ⟨name, value, word, numeral, hline, hname, hpadded, hword, hvalue, hnumeral⟩
      · exact .otherName hline hname fun word hpadded hw => hword ⟨word, hpadded, hw⟩
    · exact .noColon hcolon

/-- A line that begins with neither white space nor the first letter of the name gives no length. -/
theorem not_givesLength_cons {c : Char} (hblank : Text.isBlank c = false) (hc : c.toLower ≠ 'c')
    (line : List Char) (n : Nat) : ¬ GivesLength (c :: line) n := by
  rintro ⟨name, value, word, numeral, hline, -, hpadded, hword, -⟩
  have hne : word ≠ [] := by
    rintro rfl
    have hempty : [] = lengthName := hword
    exact absurd hempty (by decide)
  obtain ⟨d, word, rfl⟩ := List.exists_cons_of_ne_nil hne
  obtain ⟨left, right, rfl, hleft, -⟩ := hpadded
  cases left with
  | nil =>
    -- the word begins the line, so its first letter would be the one of the name
    obtain ⟨rfl, -⟩ := List.cons.inj hline
    exact hc (List.cons.inj hword).1
  | cons b left =>
    obtain ⟨rfl, -⟩ := List.cons.inj hline
    have := hleft c (List.mem_cons_self ..)
    rw [hblank] at this
    exact Bool.false_ne_true this

/-! ## The first line that gives a length -/

/-- The first of some lines which gives a length gives this one. -/
def FirstLength (lines : List (List Char)) (n : Nat) : Prop :=
  ∃ before line after, lines = before ++ line :: after ∧ GivesLength line n ∧
    ∀ earlier ∈ before, ∀ m, ¬ GivesLength earlier m

theorem contentLength?_eq_some_iff {header : List Char} {n : Nat} :
    contentLength? header = some n ↔ FirstLength (headerLines header) n := by
  simp only [contentLength?, List.findSome?_eq_some_iff, lineLength?_eq_some_iff,
    lineLength?_eq_none_iff, FirstLength]

theorem contentLength?_eq_none_iff {header : List Char} :
    contentLength? header = none ↔ ∀ line ∈ headerLines header, ∀ n, ¬ GivesLength line n := by
  simp only [contentLength?, List.findSome?_eq_none_iff, lineLength?_eq_none_iff]

/-- A line that gives no length is passed over. -/
theorem contentLength?_append {line : List Char} (hwhole : ¬ lineBreak <:+: line)
    (hnone : GivesNone line) (rest : List Char) :
    contentLength? (line ++ lineBreak ++ rest) = contentLength? rest := by
  rw [contentLength?, headerLines_append hwhole, List.findSome?_cons,
    lineLength?_eq_none_iff.mpr (givesNone_iff.mp hnone)]
  rfl

/-- **The length of a header is that of the first of its lines which gives one.** The text is cut
into lines at every line break, in one way only. The length is that of the first line which gives
one, and there is none exactly if no line gives one. A line in front that gives none, because it has
no colon, another name or a bad value, is passed over. -/
theorem contentLength?_eq_first (header : List Char) :
    ∃ lines, (∀ others, IsCut header others ↔ others = lines) ∧
      (∀ n, contentLength? header = some n ↔ FirstLength lines n) ∧
      (contentLength? header = none ↔ ∀ line ∈ lines, ∀ n, ¬ GivesLength line n) ∧
      ∀ line rest, header = line ++ lineBreak ++ rest → ¬ lineBreak <:+: line → GivesNone line →
        contentLength? header = contentLength? rest := by
  refine ⟨headerLines header, fun others => ?_, fun n => contentLength?_eq_some_iff,
    contentLength?_eq_none_iff, ?_⟩
  · rw [← headerLines_eq_iff, eq_comm]
  · rintro line rest rfl hwhole hnone
    exact contentLength?_append hwhole hnone rest

/-- A bad value is passed over, and what comes behind the first good one is not read. -/
example : contentLength? "Content-Length:-1\r\nCONTENT-LENGTH :\t+07\r\nContent-Length:8".toList =
    some 7 := by decide +kernel

end KatakanaLsp.Wire
