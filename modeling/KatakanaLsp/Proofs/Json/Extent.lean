import KatakanaLsp.Json.Parser
import KatakanaLsp.Proofs.Json.Canonical

/-!
# How far a value reaches

Two measures of a value matter to a reader of its text: how deep it is nested, and which numbers are
in it. A text is read only to a depth of `maxDepth`, and an integer beyond 64 bits is read as a
float. So what has been read is within both bounds:

> `within_of_parse?`: a value that was read is nested at most `maxDepth` deep, and its integers are
> of 64 bits.

Neither measure grows when a value is brought into canonical form, since that only leaves fields
out.
-/

namespace KatakanaLsp

/-- An integer of 64 bits, with a sign or without. -/
def IsWord (i : Int) : Prop := -(Decimal.maxSigned64 : Int) - 1 ≤ i ∧ i ≤ Decimal.max64

instance (i : Int) : Decidable (IsWord i) := inferInstanceAs (Decidable (_ ∧ _))

/-- A number that is an integer of 64 bits, and no float. -/
def JsonNumber.Whole : JsonNumber → Prop
  | .int i => IsWord i
  | .float _ => False

instance : DecidablePred JsonNumber.Whole
  | .int i => inferInstanceAs (Decidable (IsWord i))
  | .float _ => inferInstanceAs (Decidable False)

namespace Json

/-! ## Numbers and nesting -/

mutual

/-- The numbers in a value, in the order in which they are written. -/
def numbers : Json → List JsonNumber
  | .number n => [n]
  | .array items => itemsNumbers items
  | .object fields => fieldsNumbers fields
  | .null => []
  | .bool _ => []
  | .string _ => []

/-- The numbers in the items of an array. -/
def itemsNumbers : List Json → List JsonNumber
  | [] => []
  | v :: rest => numbers v ++ itemsNumbers rest

/-- The numbers in the fields of an object. -/
def fieldsNumbers : List (String × Json) → List JsonNumber
  | [] => []
  | (_, v) :: rest => numbers v ++ fieldsNumbers rest

end

mutual

/-- How many arrays and objects stand one in another, where a value has most of them. -/
def nesting : Json → Nat
  | .array items => itemsNesting items + 1
  | .object fields => fieldsNesting fields + 1
  | .null => 0
  | .bool _ => 0
  | .number _ => 0
  | .string _ => 0

/-- The nesting of the deepest item. -/
def itemsNesting : List Json → Nat
  | [] => 0
  | v :: rest => max (nesting v) (itemsNesting rest)

/-- The nesting of the deepest field. -/
def fieldsNesting : List (String × Json) → Nat
  | [] => 0
  | (_, v) :: rest => max (nesting v) (fieldsNesting rest)

end

/-- A value whose numbers are all integers of 64 bits. -/
def Whole (j : Json) : Prop := ∀ n ∈ j.numbers, n.Whole

instance (j : Json) : Decidable j.Whole := inferInstanceAs (Decidable (∀ n ∈ j.numbers, n.Whole))

theorem mem_itemsNumbers {n : JsonNumber} {items : List Json} :
    n ∈ itemsNumbers items ↔ ∃ v ∈ items, n ∈ v.numbers := by
  induction items with
  | nil => simp [itemsNumbers]
  | cons v rest ih => simp [itemsNumbers, ih]

theorem mem_fieldsNumbers {n : JsonNumber} {fields : List (String × Json)} :
    n ∈ fieldsNumbers fields ↔ ∃ f ∈ fields, n ∈ f.2.numbers := by
  induction fields with
  | nil => simp [fieldsNumbers]
  | cons f rest ih => simp [fieldsNumbers, ih]

theorem itemsNesting_le {items : List Json} {d : Nat} :
    itemsNesting items ≤ d ↔ ∀ v ∈ items, v.nesting ≤ d := by
  induction items with
  | nil => simp [itemsNesting]
  | cons v rest ih => rw [itemsNesting, Nat.max_le, ih, List.forall_mem_cons]

theorem fieldsNesting_le {fields : List (String × Json)} {d : Nat} :
    fieldsNesting fields ≤ d ↔ ∀ f ∈ fields, f.2.nesting ≤ d := by
  induction fields with
  | nil => simp [fieldsNesting]
  | cons f rest ih => rw [fieldsNesting, Nat.max_le, ih, List.forall_mem_cons]

/-! ## Bounds on both -/

/-- A value that is nested at most so deep and whose numbers have a property. -/
def Within (p : JsonNumber → Prop) (depth : Nat) (j : Json) : Prop :=
  j.nesting ≤ depth ∧ ∀ n ∈ j.numbers, p n

instance (p : JsonNumber → Prop) [DecidablePred p] (depth : Nat) (j : Json) :
    Decidable (Within p depth j) := inferInstanceAs (Decidable (_ ∧ _))

section Within

variable {p : JsonNumber → Prop} {d : Nat}

theorem within_array {items : List Json} :
    Within p (d + 1) (.array items) ↔ ∀ v ∈ items, Within p d v := by
  unfold Within
  rw [nesting, numbers, Nat.add_le_add_iff_right, itemsNesting_le]
  constructor
  · rintro ⟨hdepth, hnumbers⟩ v hv
    exact ⟨hdepth v hv, fun n hn => hnumbers n (mem_itemsNumbers.mpr ⟨v, hv, hn⟩)⟩
  · intro h
    refine ⟨fun v hv => (h v hv).1, fun n hn => ?_⟩
    obtain ⟨v, hv, hn⟩ := mem_itemsNumbers.mp hn
    exact (h v hv).2 n hn

theorem within_object {fields : List (String × Json)} :
    Within p (d + 1) (.object fields) ↔ ∀ f ∈ fields, Within p d f.2 := by
  unfold Within
  rw [nesting, numbers, Nat.add_le_add_iff_right, fieldsNesting_le]
  constructor
  · rintro ⟨hdepth, hnumbers⟩ f hf
    exact ⟨hdepth f hf, fun n hn => hnumbers n (mem_fieldsNumbers.mpr ⟨f, hf, hn⟩)⟩
  · intro h
    refine ⟨fun f hf => (h f hf).1, fun n hn => ?_⟩
    obtain ⟨f, hf, hn⟩ := mem_fieldsNumbers.mp hn
    exact (h f hf).2 n hn

/-- No array is nested less than once. -/
theorem not_within_array {items : List Json} : ¬ Within p 0 (.array items) := by
  rintro ⟨hdepth, -⟩
  rw [nesting] at hdepth
  omega

/-- No object is nested less than once. -/
theorem not_within_object {fields : List (String × Json)} : ¬ Within p 0 (.object fields) := by
  rintro ⟨hdepth, -⟩
  rw [nesting] at hdepth
  omega

theorem within_null : Within p d .null := ⟨Nat.zero_le d, fun _ h => absurd h List.not_mem_nil⟩

theorem within_bool (b : Bool) : Within p d (.bool b) :=
  ⟨Nat.zero_le d, fun _ h => absurd h List.not_mem_nil⟩

theorem within_string (s : String) : Within p d (.string s) :=
  ⟨Nat.zero_le d, fun _ h => absurd h List.not_mem_nil⟩

theorem within_number {n : JsonNumber} : Within p d (.number n) ↔ p n := by
  simp [Within, nesting, numbers]

theorem Within.mono {j : Json} {e : Nat} (h : Within p d j) (hde : d ≤ e) : Within p e j :=
  ⟨Nat.le_trans h.1 hde, h.2⟩

/-- **The canonical form of a value is within the same bounds.** -/
theorem Within.canonical {j : Json} (h : Within p d j) : Within p d j.canonical := by
  induction j using induct generalizing d with
  | null => exact h
  | bool b => exact h
  | number n => exact h
  | string s => exact h
  | array items ih =>
    cases d with
    | zero => exact absurd h not_within_array
    | succ d =>
      rw [Json.canonical, canonicalItems_eq, within_array]
      intro v hv
      obtain ⟨w, hw, rfl⟩ := List.mem_map.mp hv
      exact ih w hw (within_array.mp h w hw)
  | object fields ih =>
    cases d with
    | zero => exact absurd h not_within_object
    | succ d =>
      rw [Json.canonical, within_object]
      intro f hf
      obtain ⟨g, hg, rfl⟩ := exists_of_mem_canonicalFields hf
      exact ih g hg (within_object.mp h g hg)

end Within

/-! ## What is read -/

/-- A number whose integer is of 64 bits; a float is any. -/
def IsRead (n : JsonNumber) : Prop := ∀ i, n = .int i → IsWord i

theorem absorb_le {n : Nat} (h : n ≤ Decimal.max64) (s : List Char) :
    (absorb n s).1 ≤ Decimal.max64 := by
  induction s generalizing n with
  | nil => exact h
  | cons c s ih =>
    simp only [absorb]
    split
    next hn => exact ih hn
    next => exact h

theorem isRead_float (x : Binary64) : IsRead (.float x) := by
  intro i h
  cases h

theorem isRead_of_wholeNumber? {negative : Bool} {whole : List Char} {n : JsonNumber}
    (h : wholeNumber? negative whole = some n) : IsRead n := by
  have hle := absorb_le (Nat.zero_le _) whole
  unfold wholeNumber? at h
  split at h
  next m habsorb =>
    rw [habsorb] at hle
    split at h
    · intro i hi
      obtain rfl := Option.some.inj h
      obtain rfl := JsonNumber.int.inj hi
      simp only [IsWord, Decimal.maxSigned64, Decimal.max64] at hle ⊢
      omega
    · split at h
      next hrange =>
        intro i hi
        obtain rfl := Option.some.inj h
        obtain rfl := JsonNumber.int.inj hi
        simp only [IsWord, Decimal.maxSigned64, Decimal.max64] at hrange ⊢
        omega
      next =>
        obtain ⟨x, -, rfl⟩ := Option.map_eq_some_iff.mp h
        exact isRead_float x
  next =>
    obtain ⟨x, -, rfl⟩ := Option.map_eq_some_iff.mp h
    exact isRead_float x

theorem isRead_of_fractionalNumber? {negative : Bool} {whole fraction : List Char} {exponent : Int}
    {n : JsonNumber} (h : fractionalNumber? negative whole fraction exponent = some n) :
    IsRead n := by
  obtain ⟨x, -, rfl⟩ := Option.map_eq_some_iff.mp h
  exact isRead_float x

theorem within_of_unsignedNumber? {negative : Bool} {s r : List Char} {v : Json} {d : Nat}
    (h : unsignedNumber? negative s = some (v, r)) : Within IsRead d v := by
  simp only [unsignedNumber?, Option.bind_eq_bind, Option.bind_eq_some_iff] at h
  obtain ⟨whole, -, fraction, -, exponent, -, h⟩ := h
  split at h
  · obtain ⟨n, hn, heq⟩ := Option.bind_eq_some_iff.mp h
    obtain ⟨rfl, -⟩ := Prod.mk.inj (Option.some.inj heq)
    exact within_number.mpr (isRead_of_wholeNumber? hn)
  · obtain ⟨n, hn, heq⟩ := Option.bind_eq_some_iff.mp h
    obtain ⟨rfl, -⟩ := Prod.mk.inj (Option.some.inj heq)
    exact within_number.mpr (isRead_of_fractionalNumber? hn)

theorem within_of_readScalar? {s r : List Char} {v : Json} {d : Nat}
    (h : readScalar? s = some (v, r)) : Within IsRead d v := by
  unfold readScalar? at h
  split at h
  · obtain ⟨rfl, -⟩ := Prod.mk.inj (Option.some.inj h)
    exact within_null
  · obtain ⟨rfl, -⟩ := Prod.mk.inj (Option.some.inj h)
    exact within_bool true
  · obtain ⟨rfl, -⟩ := Prod.mk.inj (Option.some.inj h)
    exact within_bool false
  · obtain ⟨p, -, hp⟩ := Option.map_eq_some_iff.mp h
    obtain ⟨rfl, -⟩ := Prod.mk.inj hp
    exact within_string _
  · exact within_of_unsignedNumber? h
  · exact within_of_unsignedNumber? h

section

variable {value : List Char → Option (Json × List Char)} {motive : Json → Prop}
  (hvalue : ∀ {s v r}, value s = some (v, r) → motive v)

include hvalue

/-- What holds of every value that is read holds of every item that is read. -/
theorem forall_of_readItems? {fuel : Nat} {s r : List Char} {items : List Json}
    (h : readItems? value fuel s = some (items, r)) : ∀ v ∈ items, motive v := by
  induction fuel generalizing s items with
  | zero => cases h
  | succ fuel ih =>
    unfold readItems? at h
    split at h
    · cases h
    next v r' hv =>
      split at h
      · obtain ⟨⟨others, last⟩, hothers, heq⟩ := Option.map_eq_some_iff.mp h
        obtain ⟨rfl, rfl⟩ := Prod.mk.inj heq
        exact List.forall_mem_cons.mpr ⟨hvalue hv, ih hothers⟩
      · obtain ⟨rfl, -⟩ := Prod.mk.inj (Option.some.inj h)
        exact List.forall_mem_singleton.mpr (hvalue hv)
      · cases h

/-- What holds of every value that is read holds of the value of every field that is read. -/
theorem forall_of_readFields? {fuel : Nat} {s r : List Char} {fields : List (String × Json)}
    (h : readFields? value fuel s = some (fields, r)) : ∀ f ∈ fields, motive f.2 := by
  induction fuel generalizing s fields with
  | zero => cases h
  | succ fuel ih =>
    unfold readFields? at h
    split at h
    · split at h
      · cases h
      · split at h
        · split at h
          · cases h
          next v r' hv =>
            split at h
            · obtain ⟨⟨others, last⟩, hothers, heq⟩ := Option.map_eq_some_iff.mp h
              obtain ⟨rfl, rfl⟩ := Prod.mk.inj heq
              exact List.forall_mem_cons.mpr ⟨hvalue hv, ih hothers⟩
            · obtain ⟨rfl, -⟩ := Prod.mk.inj (Option.some.inj h)
              exact List.forall_mem_singleton.mpr (hvalue hv)
            · cases h
        · cases h
    · cases h

end

/-- **A value that was read is nested no deeper than was allowed, and its integers are of 64
bits.** -/
theorem within_of_readValue? {d : Nat} {s r : List Char} {v : Json}
    (h : readValue? d s = some (v, r)) : Within IsRead d v := by
  induction d generalizing s r v with
  | zero => exact within_of_readScalar? h
  | succ d ih =>
    unfold readValue? at h
    split at h
    · split at h
      · obtain ⟨rfl, -⟩ := Prod.mk.inj (Option.some.inj h)
        exact within_array.mpr fun _ hv => absurd hv List.not_mem_nil
      · obtain ⟨p, hp, heq⟩ := Option.map_eq_some_iff.mp h
        obtain ⟨rfl, -⟩ := Prod.mk.inj heq
        exact within_array.mpr (forall_of_readItems? ih hp)
    · split at h
      · obtain ⟨rfl, -⟩ := Prod.mk.inj (Option.some.inj h)
        exact within_object.mpr fun _ hf => absurd hf List.not_mem_nil
      · obtain ⟨p, hp, heq⟩ := Option.map_eq_some_iff.mp h
        obtain ⟨rfl, -⟩ := Prod.mk.inj heq
        exact within_object.mpr (forall_of_readFields? ih hp)
    · exact within_of_readScalar? h

/-- What was read at the front of a text is within the same bounds. -/
theorem within_of_parseFront? {s r : List Char} {v : Json} (h : parseFront? s = some (v, r)) :
    Within IsRead maxDepth v := within_of_readValue? h

/-- What was read from a whole text is within the same bounds. -/
theorem within_of_parse? {s : List Char} {v : Json} (h : parse? s = some v) :
    Within IsRead maxDepth v := by
  unfold parse? parseWithin? at h
  split at h
  next w r hread =>
    split at h
    · obtain rfl := Option.some.inj h
      exact within_of_readValue? hread
    · cases h
  next => cases h

end Json

end KatakanaLsp
