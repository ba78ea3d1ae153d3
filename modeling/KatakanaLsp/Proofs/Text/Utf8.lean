import KatakanaLsp.Text.Utf8

/-!
# What is written in UTF-8 is read back

`encode` writes a text and `scan` reads octets. This file proves that the two fit:

> `scan_encode`: the octets of a text are read as its characters, without a fault.

So both readings of octets, the strict one and the lossy one, give the text back
(`decode?_encode`, `decodeLossy_encode`), and no two texts have the same octets
(`encode_injective`). The ranges of the second octets rule out every other spelling of a character,
and so the strict reading accepts nothing else:

> `decode?_eq_some_iff`: octets are read as a text exactly if they are its encoding.

The last fact is about single octets. Every octet of a character beyond ASCII is at least `0x80`,
so that an octet below stands for the ASCII character of that number and for nothing else:

> `count_encode`: an ASCII character is in the octets of a text as often as in the text.

Framing lives on it: where the text of a header block has no line break, its octets have none.
-/

namespace KatakanaLsp.Utf8

/-! ## Reading one character -/

/-- An octet made from a number below 256 has that number. -/
theorem toNat_octet {n : Nat} (h : n < 256) : (UInt8.ofNat n).toNat = n := by
  rw [UInt8.toNat_ofNat', Nat.mod_eq_of_lt h]

theorem isTail_of_range {b : UInt8} (h : 0x80 ≤ b.toNat ∧ b.toNat ≤ 0xBF) : isTail b = true := by
  simp [isTail, UInt8.le_iff_toNat_le, h]

theorem not_lt_of_range {a : UInt8} (h : 0x80 ≤ a.toNat) : ¬ a < 0x80 := by
  intro ha
  have : a.toNat < 0x80 := UInt8.lt_iff_toNat_lt.mp ha
  omega

theorem scan_one {a : UInt8} (ha : a.toNat < 0x80) (s : Bytes) :
    scan (a :: s) = some (Char.ofNat a.toNat) :: scan s := by
  have h : a < 0x80 := UInt8.lt_iff_toNat_lt.mpr ha
  rw [scan.eq_def]
  simp only [h, if_true]

theorem scan_two {a b : UInt8} (ha : 0xC2 ≤ a.toNat ∧ a.toNat ≤ 0xDF)
    (hb : 0x80 ≤ b.toNat ∧ b.toNat ≤ 0xBF) (s : Bytes) :
    scan (a :: b :: s) = some (char2 a b) :: scan s := by
  have h1 : ¬ a < 0x80 := not_lt_of_range (by omega)
  have h2 : (0xC2 ≤ a && a ≤ 0xDF) = true := by simp [UInt8.le_iff_toNat_le, ha]
  rw [scan.eq_def]
  simp [h1, h2, isTail_of_range hb]

theorem scan_three {a b c : UInt8} (ha : 0xE0 ≤ a.toNat ∧ a.toNat ≤ 0xEF)
    (hb : secondOfThree a b = true) (hc : 0x80 ≤ c.toNat ∧ c.toNat ≤ 0xBF) (s : Bytes) :
    scan (a :: b :: c :: s) = some (char3 a b c) :: scan s := by
  have h1 : ¬ a < 0x80 := not_lt_of_range (by omega)
  have h2 : ¬ (0xC2 ≤ a && a ≤ 0xDF) = true := by simp [UInt8.le_iff_toNat_le]; omega
  have h3 : (0xE0 ≤ a && a ≤ 0xEF) = true := by simp [UInt8.le_iff_toNat_le, ha]
  rw [scan.eq_def]
  simp [h1, h2, h3, hb, isTail_of_range hc]

theorem scan_four {a b c d : UInt8} (ha : 0xF0 ≤ a.toNat ∧ a.toNat ≤ 0xF4)
    (hb : secondOfFour a b = true) (hc : 0x80 ≤ c.toNat ∧ c.toNat ≤ 0xBF)
    (hd : 0x80 ≤ d.toNat ∧ d.toNat ≤ 0xBF) (s : Bytes) :
    scan (a :: b :: c :: d :: s) = some (char4 a b c d) :: scan s := by
  have h1 : ¬ a < 0x80 := not_lt_of_range (by omega)
  have h2 : ¬ (0xC2 ≤ a && a ≤ 0xDF) = true := by simp [UInt8.le_iff_toNat_le]; omega
  have h3 : ¬ (0xE0 ≤ a && a ≤ 0xEF) = true := by simp [UInt8.le_iff_toNat_le]; omega
  have h4 : (0xF0 ≤ a && a ≤ 0xF4) = true := by simp [UInt8.le_iff_toNat_le, ha]
  rw [scan.eq_def]
  simp [h1, h2, h3, h4, hb, isTail_of_range hc, isTail_of_range hd]

/-- The low bits of a number are the low bits of the octet that continues with them. -/
theorem tail_mod (m : Nat) : (m % 64 + 128) % 64 = m % 64 := by
  omega

/-- A character is read back from in front of anything. The cases are the four lengths; the
ranges of the second octet in the longer ones are what keeps surrogates and overlong forms out. -/
theorem scan_utf8EncodeChar_append (c : Char) (rest : Bytes) :
    scan (String.utf8EncodeChar c ++ rest) = some c :: scan rest := by
  have hc : c.val.toNat < 0xD800 ∨ 0xDFFF < c.val.toNat ∧ c.val.toNat < 0x110000 := c.valid
  have hback : Char.ofNat c.val.toNat = c := Char.ofNat_toNat c
  fun_cases String.utf8EncodeChar c with
  | case1 v h =>
    have hn := toNat_octet (show v < 256 by omega)
    rw [List.cons_append, List.nil_append, scan_one (by omega), hn, hback]
  | case2 v h1 h2 =>
    have hn1 := toNat_octet (show v / 64 % 32 + 192 < 256 by omega)
    have hn2 := toNat_octet (show v % 64 + 128 < 256 by omega)
    have hv : (v / 64 % 32 + 192) % 32 * 64 + (v % 64 + 128) % 64 = v := by
      rw [tail_mod]
      omega
    simp only [List.cons_append, List.nil_append]
    rw [scan_two (by omega) (by omega), char2, low6, hn1, hn2, hv, hback]
  | case3 v h1 h2 h3 =>
    have hn1 := toNat_octet (show v / 4096 % 16 + 224 < 256 by omega)
    have hn2 := toNat_octet (show v / 64 % 64 + 128 < 256 by omega)
    have hn3 := toNat_octet (show v % 64 + 128 < 256 by omega)
    -- behind E0 and ED the second octet is narrowed, but no character is overlong or a surrogate
    have hsecond : secondOfThree (UInt8.ofNat (v / 4096 % 16 + 224))
        (UInt8.ofNat (v / 64 % 64 + 128)) = true := by
      unfold secondOfThree isTail
      simp only [← UInt8.toNat_inj, UInt8.le_iff_toNat_le, hn1, hn2, UInt8.reduceToNat]
      split
      · simp only [Bool.and_eq_true, decide_eq_true_eq]; omega
      · split <;> simp only [Bool.and_eq_true, decide_eq_true_eq] <;> omega
    have hv : (v / 4096 % 16 + 224) % 16 * 4096 + (v / 64 % 64 + 128) % 64 * 64
        + (v % 64 + 128) % 64 = v := by
      have hlead : (v / 4096 % 16 + 224) % 16 = v / 4096 := by omega
      rw [tail_mod, tail_mod, hlead]
      omega
    simp only [List.cons_append, List.nil_append]
    rw [scan_three (by omega) hsecond (by omega), char3, low6, low6, hn1, hn2, hn3, hv, hback]
  | case4 v h1 h2 h3 =>
    have hn1 := toNat_octet (show v / 262144 % 8 + 240 < 256 by omega)
    have hn2 := toNat_octet (show v / 4096 % 64 + 128 < 256 by omega)
    have hn3 := toNat_octet (show v / 64 % 64 + 128 < 256 by omega)
    have hn4 := toNat_octet (show v % 64 + 128 < 256 by omega)
    -- behind F0 and F4 likewise, and no character is overlong or past the last one
    have hsecond : secondOfFour (UInt8.ofNat (v / 262144 % 8 + 240))
        (UInt8.ofNat (v / 4096 % 64 + 128)) = true := by
      unfold secondOfFour isTail
      simp only [← UInt8.toNat_inj, UInt8.le_iff_toNat_le, hn1, hn2, UInt8.reduceToNat]
      split
      · simp only [Bool.and_eq_true, decide_eq_true_eq]; omega
      · split <;> simp only [Bool.and_eq_true, decide_eq_true_eq] <;> omega
    have hv : (v / 262144 % 8 + 240) % 8 * 262144 + (v / 4096 % 64 + 128) % 64 * 4096
        + (v / 64 % 64 + 128) % 64 * 64 + (v % 64 + 128) % 64 = v := by
      have hlead : (v / 262144 % 8 + 240) % 8 = v / 262144 := by omega
      rw [tail_mod, tail_mod, tail_mod, hlead]
      omega
    simp only [List.cons_append, List.nil_append]
    rw [scan_four (by omega) hsecond (by omega) (by omega), char4, low6, low6, low6,
      hn1, hn2, hn3, hn4, hv, hback]

/-! ## Reading a text -/

@[simp] theorem encode_nil : encode [] = [] := rfl

@[simp] theorem encode_cons (c : Char) (s : List Char) :
    encode (c :: s) = String.utf8EncodeChar c ++ encode s := by
  simp [encode]

@[simp] theorem encode_append (s t : List Char) : encode (s ++ t) = encode s ++ encode t := by
  simp [encode]

theorem encode_eq_nil {s : List Char} : encode s = [] ↔ s = [] := by
  cases s with
  | nil => simp
  | cons c s => simp [String.utf8EncodeChar_ne_nil]

/-- **A text is read back from its octets, character by character.** -/
theorem scan_encode (s : List Char) : scan (encode s) = s.map some := by
  induction s with
  | nil => rfl
  | cons c s ih => rw [encode_cons, scan_utf8EncodeChar_append, ih, List.map_cons]

/-- The lossy reading of the octets of a text is the text. -/
theorem decodeLossy_encode (s : List Char) : decodeLossy (encode s) = s := by
  rw [decodeLossy, scan_encode, List.map_map]
  exact List.map_id' s

theorem toStringLossy_encode (s : List Char) :
    toStringLossy (encode s) = String.ofList s := by
  rw [toStringLossy, decodeLossy_encode]

/-- Two texts with the same octets are the same. -/
theorem encode_injective {s t : List Char} (h : encode s = encode t) : s = t := by
  have := congrArg decodeLossy h
  rwa [decodeLossy_encode, decodeLossy_encode] at this

/-- The number of octets of a text is the size that its string reports. -/
theorem length_encode (s : List Char) : (encode s).length = (String.ofList s).utf8ByteSize := by
  induction s with
  | nil => rfl
  | cons c s ih => simp [ih]

/-! ## Nothing else is read as a text -/

theorem toNat_range {c low high : UInt8} (h : (low ≤ c && c ≤ high) = true) :
    low.toNat ≤ c.toNat ∧ c.toNat ≤ high.toNat := by
  simpa [UInt8.le_iff_toNat_le] using h

theorem range_of_isTail {b : UInt8} (h : isTail b = true) : 0x80 ≤ b.toNat ∧ b.toNat ≤ 0xBF :=
  toNat_range h

/-- What a second octet may be: any continuing one, but narrower from below behind one first octet
and from above behind another. -/
theorem range_of_second {a b bottom low top high : UInt8} (hne : bottom ≠ top)
    (hlow : 0x80 ≤ low.toNat) (hhigh : high.toNat ≤ 0xBF)
    (h : (if a = bottom then low ≤ b && b ≤ 0xBF
      else if a = top then 0x80 ≤ b && b ≤ high else isTail b) = true) :
    (0x80 ≤ b.toNat ∧ b.toNat ≤ 0xBF) ∧ (a.toNat = bottom.toNat → low.toNat ≤ b.toNat) ∧
      (a.toNat = top.toNat → b.toNat ≤ high.toNat) := by
  rw [UInt8.toNat_inj, UInt8.toNat_inj]
  split at h
  next ha =>
    have hb : low.toNat ≤ b.toNat ∧ b.toNat ≤ 0xBF := toNat_range h
    exact ⟨by omega, fun _ => hb.1, fun ht => absurd (ha.symm.trans ht) hne⟩
  next ha =>
    split at h
    next ht =>
      have hb : 0x80 ≤ b.toNat ∧ b.toNat ≤ high.toNat := toNat_range h
      exact ⟨by omega, fun he => absurd he ha, fun _ => hb.2⟩
    next ht => exact ⟨range_of_isTail h, fun he => absurd he ha, fun he => absurd he ht⟩

theorem range_of_secondOfThree {a b : UInt8} (h : secondOfThree a b = true) :
    (0x80 ≤ b.toNat ∧ b.toNat ≤ 0xBF) ∧ (a.toNat = 0xE0 → 0xA0 ≤ b.toNat) ∧
      (a.toNat = 0xED → b.toNat ≤ 0x9F) :=
  range_of_second (by decide) (by decide) (by decide) h

theorem range_of_secondOfFour {a b : UInt8} (h : secondOfFour a b = true) :
    (0x80 ≤ b.toNat ∧ b.toNat ≤ 0xBF) ∧ (a.toNat = 0xF0 → 0x90 ≤ b.toNat) ∧
      (a.toNat = 0xF4 → b.toNat ≤ 0x8F) :=
  range_of_second (by decide) (by decide) (by decide) h

/-- The character of a number that is no surrogate has that number. -/
theorem val_ofNat {v : Nat} (hv : v < 0xD800 ∨ 0xDFFF < v ∧ v < 0x110000) :
    (Char.ofNat v).val.toNat = v := by
  have h : v.isValidChar := hv
  rw [Char.ofNat, dif_pos h]
  rfl

theorem octet_eq {n : Nat} {b : UInt8} (h : n = b.toNat) : UInt8.ofNat n = b := by
  rw [h, UInt8.ofNat_toNat]

theorem utf8EncodeChar_ascii {c : Char} (hc : c.toNat < 0x80) :
    String.utf8EncodeChar c = [UInt8.ofNat c.toNat] := by
  have hv : c.val.toNat < 0x80 := hc
  fun_cases String.utf8EncodeChar c with
  | case1 v h => rfl
  | case2 v h1 h2 => omega
  | case3 v h1 h2 h3 => omega
  | case4 v h1 h2 h3 => omega

theorem utf8EncodeChar_char2 {a b : UInt8} (ha : 0xC2 ≤ a.toNat ∧ a.toNat ≤ 0xDF)
    (hb : isTail b = true) : String.utf8EncodeChar (char2 a b) = [a, b] := by
  have hb := range_of_isTail hb
  have hv : (char2 a b).val.toNat = a.toNat % 32 * 64 + b.toNat % 64 := by
    rw [char2, low6]
    exact val_ofNat (by omega)
  fun_cases String.utf8EncodeChar (char2 a b) with
  | case1 v h => omega
  | case2 v h1 h2 => rw [octet_eq (b := a) (by omega), octet_eq (b := b) (by omega)]
  | case3 v h1 h2 h3 => omega
  | case4 v h1 h2 h3 => omega

theorem utf8EncodeChar_char3 {a b c : UInt8} (ha : 0xE0 ≤ a.toNat ∧ a.toNat ≤ 0xEF)
    (hb : secondOfThree a b = true) (hc : isTail c = true) :
    String.utf8EncodeChar (char3 a b c) = [a, b, c] := by
  have hb := range_of_secondOfThree hb
  have hc := range_of_isTail hc
  have hv : (char3 a b c).val.toNat
      = a.toNat % 16 * 4096 + b.toNat % 64 * 64 + c.toNat % 64 := by
    rw [char3, low6, low6]
    -- the second octet behind ED keeps the number below the surrogates
    exact val_ofNat (by omega)
  fun_cases String.utf8EncodeChar (char3 a b c) with
  | case1 v h => omega
  | case2 v h1 h2 => omega
  | case3 v h1 h2 h3 =>
    rw [octet_eq (b := a) (by omega), octet_eq (b := b) (by omega), octet_eq (b := c) (by omega)]
  | case4 v h1 h2 h3 => omega

theorem utf8EncodeChar_char4 {a b c d : UInt8} (ha : 0xF0 ≤ a.toNat ∧ a.toNat ≤ 0xF4)
    (hb : secondOfFour a b = true) (hc : isTail c = true) (hd : isTail d = true) :
    String.utf8EncodeChar (char4 a b c d) = [a, b, c, d] := by
  have hb := range_of_secondOfFour hb
  have hc := range_of_isTail hc
  have hd := range_of_isTail hd
  have hv : (char4 a b c d).val.toNat
      = a.toNat % 8 * 262144 + b.toNat % 64 * 4096 + c.toNat % 64 * 64 + d.toNat % 64 := by
    rw [char4, low6, low6, low6]
    -- the second octet behind F4 keeps it below the end of the code space
    exact val_ofNat (by omega)
  fun_cases String.utf8EncodeChar (char4 a b c d) with
  | case1 v h => omega
  | case2 v h1 h2 => omega
  | case3 v h1 h2 h3 => omega
  | case4 v h1 h2 h3 =>
    rw [octet_eq (b := a) (by omega), octet_eq (b := b) (by omega), octet_eq (b := c) (by omega),
      octet_eq (b := d) (by omega)]

/-- One character is read off; `ih` knows the rest. -/
theorem eq_encode_of_cons {c : Char} {l rest : Bytes} {r : List (Option Char)} {s : List Char}
    (hl : String.utf8EncodeChar c = l) (h : some c :: r = s.map some)
    (ih : ∀ {s : List Char}, r = s.map some → rest = encode s) : l ++ rest = encode s := by
  obtain ⟨d, s', rfl, hd, hr⟩ := List.map_eq_cons_iff.mp h.symm
  cases hd
  rw [encode_cons, hl, ih hr.symm]

/-- Octets read without a fault are the encoding of what was read. The induction follows the reader;
the branches that report a fault are excluded by the hypothesis. -/
theorem eq_encode_of_scan {b : Bytes} {s : List Char} (h : scan b = s.map some) : b = encode s := by
  have nofault : ∀ {r : List (Option Char)} {s : List Char}, none :: r ≠ s.map some := by
    intro r s h
    obtain ⟨d, s', -, hd, -⟩ := List.map_eq_cons_iff.mp h.symm
    cases hd
  fun_induction scan b generalizing s with
  | case1 =>
    rw [List.map_eq_nil_iff.mp h.symm]
    rfl
  | case2 a rest ha ih =>
    have ha : a.toNat < 0x80 := UInt8.lt_iff_toNat_lt.mp ha
    refine eq_encode_of_cons (l := [a]) ?_ h ih
    have hv : (Char.ofNat a.toNat).toNat = a.toNat := val_ofNat (by omega)
    rw [utf8EncodeChar_ascii (by omega), hv, UInt8.ofNat_toNat]
  | case4 a _ ha b rest hb ih =>
    exact eq_encode_of_cons (utf8EncodeChar_char2 (toNat_range ha) hb) h ih
  | case8 a _ _ ha b hb c rest hc ih =>
    exact eq_encode_of_cons (utf8EncodeChar_char3 (toNat_range ha) hb hc) h ih
  | case14 a _ _ _ ha b hb c hc d rest hd ih =>
    exact eq_encode_of_cons (utf8EncodeChar_char4 (toNat_range ha) hb hc hd) h ih
  -- in every other branch the first thing read is a fault
  | _ => exact absurd h nofault

theorem mapM_id_eq_some_iff {l : List (Option Char)} {s : List Char} :
    l.mapM id = some s ↔ l = s.map some := by
  induction l generalizing s with
  | nil => cases s <;> simp
  | cons o l ih =>
    rw [List.mapM_cons]
    cases o with
    | none => cases s <;> simp
    | some c =>
      simp only [id, Option.bind_eq_bind, Option.bind_some, Option.pure_def,
        Option.bind_eq_some_iff, ih, Option.some.injEq]
      constructor
      · rintro ⟨t, rfl, rfl⟩
        rfl
      · intro h
        obtain ⟨d, t, rfl, hd, rfl⟩ := List.map_eq_cons_iff.mp h.symm
        exact ⟨t, rfl, by rw [Option.some.inj hd]⟩

/-- **Octets are read as a text exactly if they are its encoding.** -/
theorem decode?_eq_some_iff {b : Bytes} {s : List Char} : decode? b = some s ↔ b = encode s := by
  constructor
  · intro h
    exact eq_encode_of_scan (mapM_id_eq_some_iff.mp h)
  · rintro rfl
    exact mapM_id_eq_some_iff.mpr (scan_encode s)

/-- The strict reading of the octets of a text is the text. -/
theorem decode?_encode (s : List Char) : decode? (encode s) = some s :=
  decode?_eq_some_iff.mpr rfl

/-- Octets are read as a string exactly if they are its octets. -/
theorem toString?_eq_some_iff {b : Bytes} {s : String} :
    toString? b = some s ↔ b = ofString s := by
  unfold toString? ofString
  rw [Option.map_eq_some_iff]
  constructor
  · intro h
    obtain ⟨text, htext, rfl⟩ := h
    rw [String.toList_ofList]
    exact decode?_eq_some_iff.mp htext
  · intro h
    exact ⟨s.toList, decode?_eq_some_iff.mpr h, String.ofList_toList⟩

/-! ## ASCII characters among the octets -/

/-- A character beyond ASCII has no octet below `0x80`. -/
theorem le_of_mem_utf8EncodeChar {c : Char} (hc : 0x80 ≤ c.toNat) {b : UInt8}
    (hb : b ∈ String.utf8EncodeChar c) : 0x80 ≤ b.toNat := by
  have hv : 0x80 ≤ c.val.toNat := hc
  have octet : ∀ n, 0x80 ≤ n → n < 256 → 0x80 ≤ (UInt8.ofNat n).toNat := by
    intro n hlow hn
    rw [toNat_octet hn]
    exact hlow
  revert hb
  fun_cases String.utf8EncodeChar c with
  | case1 v h => omega
  | case2 v h1 h2 =>
    intro hb
    simp only [List.mem_cons, List.not_mem_nil, or_false] at hb
    rcases hb with rfl | rfl <;> exact octet _ (by omega) (by omega)
  | case3 v h1 h2 h3 =>
    intro hb
    simp only [List.mem_cons, List.not_mem_nil, or_false] at hb
    rcases hb with rfl | rfl | rfl <;> exact octet _ (by omega) (by omega)
  | case4 v h1 h2 h3 =>
    intro hb
    simp only [List.mem_cons, List.not_mem_nil, or_false] at hb
    rcases hb with rfl | rfl | rfl | rfl <;> exact octet _ (by omega) (by omega)

theorem count_utf8EncodeChar {a : Char} (ha : a.toNat < 0x80) (c : Char) :
    (String.utf8EncodeChar c).count (UInt8.ofNat a.toNat) = if c = a then 1 else 0 := by
  have hna := toNat_octet (show a.toNat < 256 by omega)
  rcases Nat.lt_or_ge c.toNat 0x80 with hc | hc
  · have hchar : UInt8.ofNat c.toNat = UInt8.ofNat a.toNat ↔ c = a := by
      rw [← UInt8.toNat_inj, toNat_octet (show c.toNat < 256 by omega), hna]
      exact Char.toNat_inj
    rw [utf8EncodeChar_ascii hc, List.count_singleton]
    simp only [beq_iff_eq, hchar]
  · have hne : c ≠ a := by
      rintro rfl
      omega
    rw [if_neg hne, List.count_eq_zero]
    intro hmem
    have := le_of_mem_utf8EncodeChar hc hmem
    omega

/-- **An ASCII character is in the octets of a text as often as in the text.** -/
theorem count_encode {a : Char} (ha : a.toNat < 0x80) (s : List Char) :
    (encode s).count (UInt8.ofNat a.toNat) = s.count a := by
  induction s with
  | nil => rfl
  | cons c s ih =>
    rw [encode_cons, List.count_append, count_utf8EncodeChar ha, ih, List.count_cons]
    simp only [beq_iff_eq]
    omega

/-- An ASCII character is in a text exactly if its octet is among the octets. -/
theorem mem_encode {a : Char} (ha : a.toNat < 0x80) {s : List Char} :
    UInt8.ofNat a.toNat ∈ encode s ↔ a ∈ s := by
  rw [← List.count_pos_iff, count_encode ha, List.count_pos_iff]

/-- In a text of ASCII characters, each is one octet. -/
theorem encode_ascii {s : List Char} (h : ∀ c ∈ s, c.toNat < 0x80) :
    encode s = s.map fun c => UInt8.ofNat c.toNat := by
  induction s with
  | nil => rfl
  | cons c s ih =>
    have hs : ∀ d ∈ s, d.toNat < 0x80 := fun d hd => h d (List.mem_cons_of_mem _ hd)
    rw [encode_cons, utf8EncodeChar_ascii (h c (List.mem_cons_self ..)), ih hs]
    rfl

end KatakanaLsp.Utf8
