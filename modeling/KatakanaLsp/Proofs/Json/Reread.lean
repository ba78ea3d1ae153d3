import KatakanaLsp.Json.Printer
import KatakanaLsp.Proofs.Json.Extent
import KatakanaLsp.Proofs.Json.Plain

/-!
# Compact text is read back

`chars` writes a value and `parse?` reads one. This file proves that the two fit, for values whose
numbers are integers of 64 bits:

> `readValue?_chars`: the compact text of a value in front of anything that cannot belong to it is
> read as the value, up to exactly there.

The proof goes along the printer. What follows a value matters only behind a numeral, which a
further digit, a point or an exponent would continue (`Delimited`); within a text a comma or a
bracket follows. Nothing is asked of the fields of an object: they are read in the order in which
they were written, whether sorted or not.

> `parse?_chars`: the compact text of a value that is not nested too deep is read as the value.
-/

namespace KatakanaLsp

/-! ## Numerals -/

namespace Decimal

/-- A numeral begins with a digit, and with a zero only if it is that of zero. -/
theorem exists_digits_eq_cons (n : Nat) :
    ∃ c ds, digits n = c :: ds ∧ isDigit c = true ∧ (c = '0' → n = 0) := by
  have hzero : ∀ d < 10, digitChar d = '0' → d = 0 := by decide
  fun_induction digits n with
  | case1 n hn => exact ⟨_, [], rfl, (digitChar_spec n hn).1, hzero n hn⟩
  | case2 n hn ih =>
    obtain ⟨c, ds, hds, hc, hnonzero⟩ := ih
    refine ⟨c, ds ++ [digitChar (n % 10)], by rw [hds, List.cons_append], hc, fun h => ?_⟩
    have := hnonzero h
    omega

end Decimal

namespace Json

/-- A text that does not continue a numeral in front of it. -/
def Delimited : List Char → Prop
  | [] => True
  | c :: _ => Decimal.isDigit c = false ∧ c ≠ '.' ∧ c ≠ 'e' ∧ c ≠ 'E'

/-- Digits are taken up to the text that does not continue them. -/
theorem takeWhile_digits (n : Nat) {rest : List Char} (hrest : Delimited rest) :
    (Decimal.digits n ++ rest).takeWhile Decimal.isDigit = Decimal.digits n ∧
      (Decimal.digits n ++ rest).dropWhile Decimal.isDigit = rest := by
  have hdigits : ∀ c ∈ Decimal.digits n, Decimal.isDigit c = true := fun c hc =>
    Decimal.isDigit_of_mem_digits hc
  rw [List.takeWhile_append_of_pos hdigits, List.dropWhile_append_of_pos hdigits]
  cases rest with
  | nil => exact ⟨List.append_nil _, rfl⟩
  | cons c rest =>
    have hc : ¬ Decimal.isDigit c = true := by
      rw [hrest.1]
      exact Bool.false_ne_true
    rw [List.takeWhile_cons_of_neg hc, List.dropWhile_cons_of_neg hc, List.append_nil]
    exact ⟨rfl, rfl⟩

theorem whole?_digits (n : Nat) {rest : List Char} (hrest : Delimited rest) :
    whole? (Decimal.digits n ++ rest) = some (Decimal.digits n, rest) := by
  obtain ⟨c, ds, hds, -, hnonzero⟩ := Decimal.exists_digits_eq_cons n
  obtain ⟨htake, hdrop⟩ := takeWhile_digits n hrest
  by_cases hc : c = '0'
  · -- a zero in front stands alone
    have hzero : Decimal.digits 0 = ['0'] := by
      rw [Decimal.digits]
      rfl
    rw [hnonzero hc, hzero]
    rfl
  · rw [whole?]
    · rw [digits?, htake, hdrop, hds]
    · intro r h
      rw [hds, List.cons_append] at h
      exact hc (List.cons.inj h).1

theorem fraction?_delimited {rest : List Char} (hrest : Delimited rest) :
    fraction? rest = some (none, rest) := by
  rw [fraction?]
  rintro r rfl
  exact hrest.2.1 rfl

theorem exponent?_delimited {rest : List Char} (hrest : Delimited rest) :
    exponent? rest = some (none, rest) := by
  rw [exponent?]
  · rintro r rfl
    exact hrest.2.2.1 rfl
  · rintro r rfl
    exact hrest.2.2.2 rfl

theorem le_foldl_digits (ds : List Char) (m : Nat) :
    m ≤ ds.foldl (fun n c => n * 10 + Decimal.digitValue c) m := by
  induction ds generalizing m with
  | nil => exact Nat.le_refl m
  | cons c ds ih =>
    rw [List.foldl_cons]
    have := ih (m * 10 + Decimal.digitValue c)
    omega

/-- Digits are absorbed to the end if their number has 64 bits, since no part of it is greater. -/
theorem absorb_eq (ds : List Char) {m : Nat}
    (h : ds.foldl (fun n c => n * 10 + Decimal.digitValue c) m ≤ Decimal.max64) :
    absorb m ds = (ds.foldl (fun n c => n * 10 + Decimal.digitValue c) m, []) := by
  induction ds generalizing m with
  | nil => rfl
  | cons c ds ih =>
    rw [List.foldl_cons] at h ⊢
    have hle := le_foldl_digits ds (m * 10 + Decimal.digitValue c)
    rw [absorb, if_pos (Nat.le_trans hle h), ih h]

theorem absorb_digits {n : Nat} (h : n ≤ Decimal.max64) :
    absorb 0 (Decimal.digits n) = (n, []) := by
  have hvalue := Decimal.valueOf_digits n
  rw [Decimal.valueOf] at hvalue
  rw [absorb_eq, hvalue]
  rw [hvalue]
  exact h

/-- A numeral without point and exponent is a whole number. -/
theorem unsignedNumber?_digits (negative : Bool) (n : Nat) {rest : List Char}
    (hrest : Delimited rest) :
    unsignedNumber? negative (Decimal.digits n ++ rest) =
      (wholeNumber? negative (Decimal.digits n)).map fun m => (.number m, rest) := by
  simp only [unsignedNumber?, whole?_digits n hrest, fraction?_delimited hrest,
    exponent?_delimited hrest, Option.bind_eq_bind, Option.bind_some]
  cases wholeNumber? negative (Decimal.digits n) <;> rfl

/-- A value that begins with a digit is a number without a sign. -/
theorem readScalar?_of_isDigit {c : Char} (hc : Decimal.isDigit c = true) (s : List Char) :
    readScalar? (c :: s) = unsignedNumber? false (c :: s) := by
  have hne : ∀ d, Decimal.isDigit d = false → c ≠ d := by
    rintro d hd rfl
    rw [hc] at hd
    cases hd
  have hn := hne 'n' rfl
  have ht := hne 't' rfl
  have hf := hne 'f' rfl
  have hq := hne '"' rfl
  have hm := hne '-' rfl
  rw [readScalar?] <;> simp_all

/-- **An integer of 64 bits is read back.** -/
theorem readScalar?_int {i : Int} (hi : IsWord i) {rest : List Char} (hrest : Delimited rest) :
    readScalar? (numberChars (.int i) ++ rest) = some (.number (.int i), rest) := by
  obtain ⟨hlow, hhigh⟩ := hi
  have habs : i.natAbs ≤ Decimal.max64 := by
    simp only [Decimal.maxSigned64, Decimal.max64] at hlow hhigh ⊢
    omega
  by_cases hneg : i < 0
  · have hrange : 0 < i.natAbs ∧ i.natAbs ≤ Decimal.maxSigned64 + 1 := by
      simp only [Decimal.maxSigned64] at hlow ⊢
      omega
    have hvalue : -(i.natAbs : Int) = i := by omega
    rw [numberChars, if_pos hneg, List.cons_append]
    show unsignedNumber? true (Decimal.digits i.natAbs ++ rest) = _
    rw [unsignedNumber?_digits true _ hrest]
    simp only [wholeNumber?, absorb_digits habs, Bool.not_true, Bool.false_eq_true, if_false,
      if_pos hrange, Option.map_some, hvalue]
  · have hvalue : (i.natAbs : Int) = i := by omega
    obtain ⟨c, ds, hds, hc, -⟩ := Decimal.exists_digits_eq_cons i.natAbs
    have hnumber := unsignedNumber?_digits false i.natAbs hrest
    rw [numberChars, if_neg hneg, hds, List.cons_append, readScalar?_of_isDigit hc,
      ← List.cons_append, ← hds, hnumber]
    simp only [wholeNumber?, absorb_digits habs, Bool.not_false, if_true, Option.map_some, hvalue]

/-! ## Strings -/

theorem hexDigit_spec : ∀ d < 16, ∀ e < 16,
    hex4? '0' '0' (Nat.digitChar d) (Nat.digitChar e) = some (d * 16 + e) := by
  decide

/-- What stands for a character is read as the character. -/
theorem stringBody?_escapeChar (c : Char) (rest : List Char) :
    stringBody? (escapeChar c ++ rest) = (stringBody? rest).map fun p => (c :: p.1, p.2) := by
  obtain ⟨letter, hmem, heq⟩ | ⟨hlow, heq⟩ | ⟨hhigh, hquote, hbackslash, heq⟩ := escapeChar_cases c
  · simp only [escapeLetters, List.mem_cons, Prod.mk.injEq, List.not_mem_nil, or_false] at hmem
    rw [heq]
    rcases hmem with ⟨rfl, rfl⟩ | ⟨rfl, rfl⟩ | ⟨rfl, rfl⟩ | ⟨rfl, rfl⟩ | ⟨rfl, rfl⟩ | ⟨rfl, rfl⟩ |
      ⟨rfl, rfl⟩ <;> rfl
  · -- the number of a control is no half of a pair
    have hhex := hexDigit_spec (c.toNat / 16) (by omega) (c.toNat % 16) (by omega)
    have hvalue : c.toNat / 16 * 16 + c.toNat % 16 = c.toNat := by omega
    have hno : isLow c.toNat = false ∧ isHigh c.toNat = false := by
      simp only [isLow, isHigh, Bool.and_eq_false_iff, decide_eq_false_iff_not]
      omega
    rw [hvalue] at hhex
    simp only [heq, List.cons_append, List.nil_append, stringBody?, hhex, hno, Char.ofNat_toNat,
      Bool.false_eq_true, if_false]
  · have hplain : (decide (c.toNat < 0x20) || c == '\\') = false := by
      simp only [Bool.or_eq_false_iff, decide_eq_false_iff_not, beq_eq_false_iff_ne]
      exact ⟨Nat.not_lt.mpr hhigh, hbackslash⟩
    rw [heq, List.cons_append, List.nil_append, stringBody?]
    · simp only [hplain, Bool.false_eq_true, if_false]
    · exact hquote
    · intro _ _ _ _ _ h
      exact absurd h hbackslash
    · intro _ _ h
      exact absurd h hbackslash

theorem stringBody?_flatMap (s rest : List Char) :
    stringBody? (s.flatMap escapeChar ++ '"' :: rest) = some (s, rest) := by
  induction s with
  | nil => rfl
  | cons c s ih =>
    rw [List.flatMap_cons, List.append_assoc, stringBody?_escapeChar, ih]
    rfl

/-- A string literal in front of something. -/
theorem stringChars_append (s : String) (rest : List Char) :
    stringChars s.toList ++ rest = '"' :: (s.toList.flatMap escapeChar ++ '"' :: rest) := by
  simp [stringChars]

/-- A string literal is read back. -/
theorem readScalar?_stringChars (s : String) (rest : List Char) :
    readScalar? (stringChars s.toList ++ rest) = some (.string s, rest) := by
  have hbody := stringBody?_flatMap s.toList rest
  rw [stringChars_append, readScalar?, hbody, Option.map_some, String.ofList_toList]

/-! ## Items and fields -/

/-- No value begins with a blank, a closing bracket or a closing brace. -/
theorem exists_of_readScalar? {s r : List Char} {v : Json} (h : readScalar? s = some (v, r)) :
    ∃ c t, s = c :: t ∧ isSpace c = false ∧ c ≠ ']' ∧ c ≠ '\x7d' := by
  cases s with
  | nil => cases h
  | cons c t =>
    refine ⟨c, t, rfl, ?_, ?_, ?_⟩
    · rw [Bool.eq_false_iff]
      intro hspace
      simp only [isSpace, Bool.or_eq_true, beq_iff_eq] at hspace
      rcases hspace with ((rfl | rfl) | rfl) | rfl <;> cases h
    · rintro rfl
      cases h
    · rintro rfl
      cases h

theorem exists_of_readValue? {d : Nat} {s r : List Char} {v : Json}
    (h : readValue? d s = some (v, r)) :
    ∃ c t, s = c :: t ∧ isSpace c = false ∧ c ≠ ']' ∧ c ≠ '\x7d' := by
  cases d with
  | zero => exact exists_of_readScalar? h
  | succ d =>
    unfold readValue? at h
    split at h
    · exact ⟨_, _, rfl, by decide, by decide, by decide⟩
    · exact ⟨_, _, rfl, by decide, by decide, by decide⟩
    · exact exists_of_readScalar? h

/-- Nothing is skipped in front of a value. -/
theorem skip_of_readValue? {d : Nat} {s r : List Char} {v : Json}
    (h : readValue? d s = some (v, r)) : skip s = s := by
  obtain ⟨c, t, rfl, hspace, -⟩ := exists_of_readValue? h
  rw [skip, List.dropWhile_cons_of_neg]
  rw [hspace]
  exact Bool.false_ne_true

/-- A value is read back at a depth, in front of anything that does not belong to it. -/
def Reread (d : Nat) (v : Json) : Prop :=
  ∀ rest, Delimited rest → readValue? d (chars v ++ rest) = some (v, rest)

theorem delimited_comma (s : List Char) : Delimited (',' :: s) :=
  ⟨rfl, by decide, by decide, by decide⟩

theorem delimited_bracket (s : List Char) : Delimited (']' :: s) :=
  ⟨rfl, by decide, by decide, by decide⟩

theorem delimited_brace (s : List Char) : Delimited ('\x7d' :: s) :=
  ⟨rfl, by decide, by decide, by decide⟩

/-- Items begin with the first of them, and what follows it does not belong to it. -/
theorem exists_itemsChars_eq (v : Json) (items : List Json) (rest : List Char) :
    ∃ tail, Delimited tail ∧ itemsChars (v :: items) ++ ']' :: rest = chars v ++ tail := by
  cases items with
  | nil => exact ⟨_, delimited_bracket rest, rfl⟩
  | cons w others =>
    exact ⟨_, delimited_comma (itemsChars (w :: others) ++ ']' :: rest), by simp [itemsChars]⟩

/-- Nothing is skipped in front of items. -/
theorem skip_itemsChars {d : Nat} {v : Json} (hv : Reread d v) (items : List Json)
    (rest : List Char) : skip (itemsChars (v :: items) ++ ']' :: rest) =
      itemsChars (v :: items) ++ ']' :: rest := by
  obtain ⟨tail, htail, heq⟩ := exists_itemsChars_eq v items rest
  rw [heq]
  exact skip_of_readValue? (hv tail htail)

/-- Items are read back, up to and over the closing bracket. -/
theorem readItems?_itemsChars {d : Nat} {v : Json} {items : List Json}
    (h : ∀ w ∈ v :: items, Reread d w) {fuel : Nat} (hfuel : (v :: items).length ≤ fuel)
    (rest : List Char) :
    readItems? (readValue? d) fuel (itemsChars (v :: items) ++ ']' :: rest) =
      some (v :: items, rest) := by
  induction items generalizing v fuel with
  | nil =>
    cases fuel with
    | zero => exact absurd hfuel (by simp)
    | succ fuel =>
      have hv := h v (List.mem_cons_self ..) _ (delimited_bracket rest)
      rw [itemsChars, readItems?, hv]
      rfl
  | cons w others ih =>
    cases fuel with
    | zero => exact absurd hfuel (by simp)
    | succ fuel =>
      have hothers : ∀ u ∈ w :: others, Reread d u := fun u hu =>
        h u (List.mem_cons_of_mem v hu)
      have hv := h v (List.mem_cons_self ..) _
        (delimited_comma (itemsChars (w :: others) ++ ']' :: rest))
      have hskip := skip_itemsChars (hothers w (List.mem_cons_self ..)) others rest
      have hnext := ih hothers (Nat.le_of_succ_le_succ hfuel)
      rw [itemsChars, List.append_assoc, List.cons_append, readItems?, hv]
      show (readItems? _ fuel (skip (itemsChars (w :: others) ++ ']' :: rest))).map _ = _
      rw [hskip, hnext]
      rfl

/-- A field in front of a comma is read back, and then the fields behind the comma. -/
theorem readFields?_comma {d : Nat} (k : String) {v : Json} (hv : Reread d v) (fuel : Nat)
    (rest : List Char) :
    readFields? (readValue? d) (fuel + 1)
        (stringChars k.toList ++ ':' :: (chars v ++ ',' :: rest)) =
      (readFields? (readValue? d) fuel (skip rest)).map fun p => ((k, v) :: p.1, p.2) := by
  have hkey := stringBody?_flatMap k.toList (':' :: (chars v ++ ',' :: rest))
  have hvalue := hv _ (delimited_comma rest)
  have hcolon : skip (':' :: (chars v ++ ',' :: rest)) = ':' :: (chars v ++ ',' :: rest) := rfl
  have hcomma : skip (',' :: rest) = ',' :: rest := rfl
  rw [stringChars_append, readFields?]
  simp only [hkey, hcolon, skip_of_readValue? hvalue, hvalue, hcomma, String.ofList_toList]

/-- A field in front of a brace is read back, and is the last. -/
theorem readFields?_brace {d : Nat} (k : String) {v : Json} (hv : Reread d v) (fuel : Nat)
    (rest : List Char) :
    readFields? (readValue? d) (fuel + 1)
        (stringChars k.toList ++ ':' :: (chars v ++ '\x7d' :: rest)) = some ([(k, v)], rest) := by
  have hkey := stringBody?_flatMap k.toList (':' :: (chars v ++ '\x7d' :: rest))
  have hvalue := hv _ (delimited_brace rest)
  have hcolon : skip (':' :: (chars v ++ '\x7d' :: rest)) =
      ':' :: (chars v ++ '\x7d' :: rest) := rfl
  have hbrace : skip ('\x7d' :: rest) = '\x7d' :: rest := rfl
  rw [stringChars_append, readFields?]
  simp only [hkey, hcolon, skip_of_readValue? hvalue, hvalue, hbrace, String.ofList_toList]

/-- Fields begin with the quote of the first key. -/
theorem exists_fieldsChars_eq (f : String × Json) (fields : List (String × Json))
    (rest : List Char) : ∃ t, fieldsChars (f :: fields) ++ rest = '"' :: t := by
  cases fields <;> exact ⟨_, rfl⟩

/-- Fields are read back, up to and over the closing brace. -/
theorem readFields?_fieldsChars {d : Nat} {f : String × Json} {fields : List (String × Json)}
    (h : ∀ g ∈ f :: fields, Reread d g.2) {fuel : Nat} (hfuel : (f :: fields).length ≤ fuel)
    (rest : List Char) :
    readFields? (readValue? d) fuel (fieldsChars (f :: fields) ++ '\x7d' :: rest) =
      some (f :: fields, rest) := by
  induction fields generalizing f fuel with
  | nil =>
    cases fuel with
    | zero => exact absurd hfuel (by simp)
    | succ fuel =>
      rw [fieldsChars, List.append_assoc]
      exact readFields?_brace f.1 (h f (List.mem_cons_self ..)) fuel rest
  | cons g others ih =>
    cases fuel with
    | zero => exact absurd hfuel (by simp)
    | succ fuel =>
      have hothers : ∀ e ∈ g :: others, Reread d e.2 := fun e he =>
        h e (List.mem_cons_of_mem f he)
      have hf := readFields?_comma f.1 (h f (List.mem_cons_self ..)) fuel
        (fieldsChars (g :: others) ++ '\x7d' :: rest)
      have hnext := ih hothers (Nat.le_of_succ_le_succ hfuel)
      have hskip : skip (fieldsChars (g :: others) ++ '\x7d' :: rest)
          = fieldsChars (g :: others) ++ '\x7d' :: rest := by
        obtain ⟨t, ht⟩ := exists_fieldsChars_eq g others ('\x7d' :: rest)
        rw [ht]
        rfl
      rw [fieldsChars, List.append_assoc, List.cons_append, List.append_assoc, List.cons_append,
        hf]
      show (readFields? _ fuel (skip (fieldsChars (g :: others) ++ '\x7d' :: rest))).map _ = _
      rw [hskip, hnext]
      rfl

/-! ## Values -/

theorem length_le_itemsChars (v : Json) (items : List Json) :
    items.length ≤ (itemsChars (v :: items)).length := by
  induction items generalizing v with
  | nil => exact Nat.zero_le _
  | cons w others ih =>
    have := ih w
    simp only [itemsChars, List.length_append, List.length_cons]
    omega

theorem length_le_fieldsChars (f : String × Json) (fields : List (String × Json)) :
    fields.length ≤ (fieldsChars (f :: fields)).length := by
  induction fields generalizing f with
  | nil => exact Nat.zero_le _
  | cons g others ih =>
    have := ih g
    simp only [fieldsChars, List.length_append, List.length_cons]
    omega

/-- At no depth is a value read other than a scalar is. -/
theorem readValue?_of_readScalar? {s r : List Char} {v : Json} (h : readScalar? s = some (v, r))
    (d : Nat) : readValue? d s = some (v, r) := by
  cases d with
  | zero => exact h
  | succ d =>
    rw [readValue?]
    · exact h
    · rintro t rfl
      cases h
    · rintro t rfl
      cases h

/-- An array that is not empty is read item by item. -/
theorem readValue?_bracket {d : Nat} {c : Char} {t : List Char} (hskip : skip (c :: t) = c :: t)
    (hc : c ≠ ']') : readValue? (d + 1) ('[' :: c :: t) =
      (readItems? (readValue? d) (c :: t).length (c :: t)).map fun p => (.array p.1, p.2) := by
  rw [readValue?, hskip]
  split
  next heq => exact absurd (List.cons.inj heq).1 hc
  next => rfl

/-- An object that is not empty is read field by field. -/
theorem readValue?_brace {d : Nat} {c : Char} {t : List Char} (hskip : skip (c :: t) = c :: t)
    (hc : c ≠ '\x7d') : readValue? (d + 1) ('\x7b' :: c :: t) =
      (readFields? (readValue? d) (c :: t).length (c :: t)).map fun p => (.object p.1, p.2) := by
  rw [readValue?, hskip]
  split
  next heq => exact absurd (List.cons.inj heq).1 hc
  next => rfl

/-- **The compact text of a value is read back**, if its numbers are integers of 64 bits and it is
not nested deeper than is read. -/
theorem readValue?_chars {j : Json} {d : Nat} (h : Within JsonNumber.Whole d j) : Reread d j := by
  induction j using induct generalizing d with
  | null =>
    intro rest _
    exact readValue?_of_readScalar? rfl d
  | bool b =>
    intro rest _
    cases b <;> exact readValue?_of_readScalar? rfl d
  | number n =>
    intro rest hrest
    cases n with
    | int i => exact readValue?_of_readScalar? (readScalar?_int (within_number.mp h) hrest) d
    | float x => exact absurd (within_number.mp h) (by simp [JsonNumber.Whole])
  | string s =>
    intro rest _
    exact readValue?_of_readScalar? (readScalar?_stringChars s rest) d
  | array items ih =>
    intro rest _
    cases d with
    | zero => exact absurd h not_within_array
    | succ d =>
      cases items with
      | nil => rfl
      | cons v items =>
        have hitems : ∀ w ∈ v :: items, Reread d w := fun w hw => ih w hw (within_array.mp h w hw)
        have hfuel : (v :: items).length ≤ (itemsChars (v :: items) ++ ']' :: rest).length := by
          have := length_le_itemsChars v items
          simp only [List.length_cons, List.length_append]
          omega
        have hread := readItems?_itemsChars hitems hfuel rest
        have hv := hitems v (List.mem_cons_self ..)
        have hskip := skip_itemsChars hv items rest
        -- no value begins with the bracket that would close the array at once
        obtain ⟨tail, htail, heq⟩ := exists_itemsChars_eq v items rest
        obtain ⟨c, t, hct, -, hc, -⟩ := exists_of_readValue? (hv tail htail)
        rw [← heq] at hct
        have hchars : chars (.array (v :: items)) ++ rest
            = '[' :: (itemsChars (v :: items) ++ ']' :: rest) := by
          simp [chars]
        rw [hct] at hread hskip hchars
        rw [hchars, readValue?_bracket hskip hc, hread]
        rfl
  | object fields ih =>
    intro rest _
    cases d with
    | zero => exact absurd h not_within_object
    | succ d =>
      cases fields with
      | nil => rfl
      | cons f fields =>
        have hfields : ∀ g ∈ f :: fields, Reread d g.2 := fun g hg =>
          ih g hg (within_object.mp h g hg)
        have hfuel :
        (f :: fields).length ≤ (fieldsChars (f :: fields) ++ '\x7d' :: rest).length := by
          have := length_le_fieldsChars f fields
          simp only [List.length_cons, List.length_append]
          omega
        have hread := readFields?_fieldsChars hfields hfuel rest
        obtain ⟨t, ht⟩ := exists_fieldsChars_eq f fields ('\x7d' :: rest)
        have hchars : chars (.object (f :: fields)) ++ rest
            = '\x7b' :: (fieldsChars (f :: fields) ++ '\x7d' :: rest) := by
          simp [chars]
        have hskip : skip ('"' :: t) = '"' :: t := rfl
        rw [ht] at hread hchars
        rw [hchars, readValue?_brace hskip (by decide), hread]
        rfl

/-- **The compact text of a value is read as the value.** -/
theorem parse?_chars {j : Json} (h : Within JsonNumber.Whole maxDepth j) :
    parse? (chars j) = some j := by
  have hread := readValue?_chars h [] trivial
  rw [List.append_nil] at hread
  rw [parse?, parseWithin?, skip_of_readValue? hread, hread]
  rfl

/-- Two such values with the same text are the same. -/
theorem eq_of_chars {i j : Json} (hi : Within JsonNumber.Whole maxDepth i)
    (hj : Within JsonNumber.Whole maxDepth j) (h : chars i = chars j) : i = j := by
  have hread := parse?_chars hi
  rw [h, parse?_chars hj] at hread
  exact (Option.some.inj hread).symm

end Json

end KatakanaLsp
