import KatakanaLsp.Wire.Frame

/-!
# Where a header block ends

`splitBlock` walks over octets until a blank line stands in front of it. This file says the same
without walking: a stretch of octets is a header block (`IsBlock`) if, with a blank line behind it,
no blank line begins earlier. That is more than having no blank line inside, because a block that
ends in a line break would make a blank line with the break that follows.

> `splitBlock_eq_some_iff`: octets are split into a block and a rest exactly if they are that block,
> a blank line and that rest.

> `splitBlock_eq_none_iff`: octets are not split exactly if no blank line begins anywhere.

Both together make the split a property of the octets read so far (`splitBlock_append`): octets
that arrive later only make the rest longer.
-/

namespace KatakanaLsp.Wire

/-- The blank line that ends a header block: a line break after a line break. -/
def blankLine : Bytes := [13, 10, 13, 10]

/-- A blank line begins at an offset. -/
def BlankAt (b : Bytes) (i : Nat) : Prop := blankLine <+: b.drop i

/-- The first blank line begins at an offset. -/
def FirstBlankAt (b : Bytes) (i : Nat) : Prop := BlankAt b i ∧ ∀ j < i, ¬ BlankAt b j

/-- A stretch of octets that ends where the first blank line begins, once one is put behind it. -/
def IsBlock (h : Bytes) : Prop := FirstBlankAt (h ++ blankLine) h.length

/-! ## Blank lines in front -/

theorem isPrefix_append_iff {α : Type} {l a : List α} (b : List α) (h : l.length ≤ a.length) :
    l <+: a ++ b ↔ l <+: a := by
  constructor
  · intro hl
    exact List.prefix_of_prefix_length_le hl (List.prefix_append a b) h
  · intro hl
    exact hl.trans (List.prefix_append a b)

theorem isBlock_nil : IsBlock [] := ⟨List.prefix_rfl, fun _ hj => absurd hj (Nat.not_lt_zero _)⟩

/-- A block is extended in front by an octet with which no blank line begins. -/
theorem isBlock_cons {c : UInt8} {h : Bytes} :
    IsBlock (c :: h) ↔ ¬ blankLine <+: c :: (h ++ blankLine) ∧ IsBlock h := by
  constructor
  · rintro ⟨hat, hfirst⟩
    refine ⟨hfirst 0 (Nat.succ_pos _), hat, fun j hj => ?_⟩
    exact hfirst (j + 1) (Nat.succ_lt_succ hj)
  · rintro ⟨hfront, hat, hfirst⟩
    refine ⟨hat, fun j hj => ?_⟩
    cases j with
    | zero => exact hfront
    | succ j => exact hfirst j (Nat.lt_of_succ_lt_succ hj)

/-- A block is extended in front by octets without a carriage return. -/
theorem IsBlock.append_left {line h : Bytes} (hline : (13 : UInt8) ∉ line) (hb : IsBlock h) :
    IsBlock (line ++ h) := by
  induction line with
  | nil => exact hb
  | cons c line ih =>
    refine isBlock_cons.mpr ⟨?_, ih fun hin => hline (List.mem_cons_of_mem _ hin)⟩
    intro hfront
    have hc : 13 = c := (List.cons_prefix_cons.mp hfront).1
    exact hline (hc ▸ List.mem_cons_self ..)

/-- A block is extended in front by a line break, unless it begins with a carriage return itself. -/
theorem IsBlock.line_break {c : UInt8} {h : Bytes} (hc : c ≠ 13) (hb : IsBlock (c :: h)) :
    IsBlock (13 :: 10 :: c :: h) := by
  refine isBlock_cons.mpr ⟨?_, isBlock_cons.mpr ⟨?_, hb⟩⟩
  · intro hfront
    -- the third octet of a blank line is a carriage return again
    have h2 := (List.cons_prefix_cons.mp hfront).2
    have h3 := (List.cons_prefix_cons.mp h2).2
    exact hc (List.cons_prefix_cons.mp h3).1.symm
  · intro hfront
    have h1 : (13 : UInt8) = 10 := (List.cons_prefix_cons.mp hfront).1
    exact absurd h1 (by decide)

/-! ## Splitting -/

theorem splitBlock_blankLine (rest : Bytes) : splitBlock (blankLine ++ rest) = some ([], rest) := by
  simp [blankLine, splitBlock]

/-- Without a blank line in front, the split is one octet further back. -/
theorem splitBlock_cons {c : UInt8} {b : Bytes} (h : ¬ blankLine <+: c :: b) :
    splitBlock (c :: b) = (splitBlock b).map fun p => (c :: p.1, p.2) := by
  rw [splitBlock]
  rintro rest rfl rfl
  exact h ⟨rest, rfl⟩

/-- **Octets are split into a block and a rest exactly if they are that block, a blank line and that
rest.** -/
theorem splitBlock_eq_some_iff {b h rest : Bytes} :
    splitBlock b = some (h, rest) ↔ b = h ++ blankLine ++ rest ∧ IsBlock h := by
  induction b generalizing h with
  | nil =>
    constructor
    · intro hs
      simp [splitBlock] at hs
    · rintro ⟨hb, -⟩
      simp [blankLine] at hb
  | cons c b ih =>
    by_cases hfront : blankLine <+: c :: b
    · obtain ⟨r, hr⟩ := hfront
      rw [← hr, splitBlock_blankLine]
      constructor
      · intro hs
        obtain ⟨rfl, rfl⟩ := by simpa using hs
        exact ⟨rfl, isBlock_nil⟩
      · rintro ⟨hb, hblock⟩
        cases h with
        | nil =>
          rw [List.nil_append, List.append_cancel_left_eq] at hb
          rw [hb]
        | cons d h =>
          -- the blank line in front would begin inside the block
          have hin : blankLine <+: d :: (h ++ blankLine) := by
            rw [← isPrefix_append_iff rest (by simp [blankLine])]
            exact ⟨r, hb⟩
          exact absurd hin (isBlock_cons.mp hblock).1
    · rw [splitBlock_cons hfront, Option.map_eq_some_iff]
      constructor
      · rintro ⟨⟨h', r⟩, hs, heq⟩
        obtain ⟨rfl, rfl⟩ := Prod.mk.inj heq
        obtain ⟨rfl, hblock⟩ := ih.mp hs
        refine ⟨rfl, isBlock_cons.mpr ⟨fun hin => hfront ?_, hblock⟩⟩
        exact hin.trans (List.prefix_append (c :: (h' ++ blankLine)) r)
      · rintro ⟨hb, hblock⟩
        cases h with
        | nil => exact absurd ⟨rest, hb.symm⟩ hfront
        | cons d h =>
          obtain ⟨rfl, hb'⟩ := List.cons.inj hb
          exact ⟨(h, rest), ih.mpr ⟨hb', (isBlock_cons.mp hblock).2⟩, rfl⟩

/-- **Octets are not split exactly if no blank line begins anywhere in them.** -/
theorem splitBlock_eq_none_iff {b : Bytes} : splitBlock b = none ↔ ∀ i, ¬ BlankAt b i := by
  induction b with
  | nil =>
    refine ⟨fun _ i hi => ?_, fun _ => rfl⟩
    have := hi.length_le
    simp [blankLine] at this
  | cons c b ih =>
    by_cases hfront : blankLine <+: c :: b
    · obtain ⟨r, hr⟩ := hfront
      rw [← hr, splitBlock_blankLine]
      refine ⟨fun hs => absurd hs (by simp), fun hno => ?_⟩
      exact absurd (List.prefix_append blankLine r) (hno 0)
    · rw [splitBlock_cons hfront, Option.map_eq_none_iff, ih]
      constructor
      · intro hno i
        cases i with
        | zero => exact hfront
        | succ i => exact hno i
      · exact fun hno i => hno (i + 1)

/-- Where two blocks lead the same octets, they are the same. -/
theorem IsBlock.eq_of_append {h h' rest rest' : Bytes} (hb : IsBlock h) (hb' : IsBlock h')
    (heq : h ++ blankLine ++ rest = h' ++ blankLine ++ rest') : h = h' ∧ rest = rest' := by
  have h1 : splitBlock (h ++ blankLine ++ rest) = some (h, rest) :=
    splitBlock_eq_some_iff.mpr ⟨rfl, hb⟩
  have h2 : splitBlock (h ++ blankLine ++ rest) = some (h', rest') :=
    splitBlock_eq_some_iff.mpr ⟨heq, hb'⟩
  exact Prod.mk.inj (Option.some.inj (h1.symm.trans h2))

/-- Octets that arrive later do not move the end of a block. -/
theorem splitBlock_append {b h rest : Bytes} (hs : splitBlock b = some (h, rest)) (later : Bytes) :
    splitBlock (b ++ later) = some (h, rest ++ later) := by
  obtain ⟨rfl, hblock⟩ := splitBlock_eq_some_iff.mp hs
  exact splitBlock_eq_some_iff.mpr ⟨by simp, hblock⟩

end KatakanaLsp.Wire
