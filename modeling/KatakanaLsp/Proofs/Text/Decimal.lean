import KatakanaLsp.Text.Decimal
import Mathlib.Data.List.Induction
import Mathlib.Data.Nat.Digits.Defs

/-!
# Decimal numerals are read back

`digits` writes the digits of a number from the last one backwards; `valueOf` reads a run of digits
from the first one on. The two meet where a run is extended at its end (`valueOf_append_single`),
and so:

> `unsigned64?_digits`: a number of 64 bits is read back from its digits.

Digits are neither blanks nor signs, so that nothing is taken off them before they are read. Other
texts than these write numbers too, with a sign or with zeros in front. `Unsigned64` says which
texts write which number, by the places of their digits:

> `unsigned64?_eq_some_iff`: a number is read from exactly the texts that write it.
-/

namespace KatakanaLsp.Decimal

theorem digitChar_spec : ∀ d < 10, isDigit (digitChar d) = true ∧ digitValue (digitChar d) = d := by
  decide

theorem digits_ne_nil (n : Nat) : digits n ≠ [] := by
  rw [digits]
  split <;> simp

/-- Every character of a numeral is a digit. -/
theorem isDigit_of_mem_digits {n : Nat} {c : Char} (hc : c ∈ digits n) : isDigit c = true := by
  fun_induction digits n with
  | case1 n hn =>
    rw [List.mem_singleton.mp hc]
    exact (digitChar_spec n hn).1
  | case2 n hn ih =>
    rcases List.mem_append.mp hc with hfront | hlast
    · exact ih hfront
    · rw [List.mem_singleton.mp hlast]
      exact (digitChar_spec (n % 10) (Nat.mod_lt n (by omega))).1

theorem isDigit_of_mem_padded {width n : Nat} {c : Char} (hc : c ∈ padded width n) :
    isDigit c = true := by
  rcases List.mem_append.mp hc with hzero | hdigit
  · rw [(List.mem_replicate.mp hzero).2]
    rfl
  · exact isDigit_of_mem_digits hdigit

theorem toNat_range_of_isDigit {c : Char} (hc : isDigit c = true) :
    48 ≤ c.toNat ∧ c.toNat ≤ 57 := by
  simp only [isDigit, Bool.and_eq_true, decide_eq_true_eq, Char.le_def,
    UInt32.le_iff_toNat_le] at hc
  exact hc

/-- A run of digits extended by one. -/
theorem valueOf_append_single (ds : List Char) (c : Char) :
    valueOf (ds ++ [c]) = valueOf ds * 10 + digitValue c := by
  rw [valueOf, List.foldl_append]
  rfl

/-- The value of the digits of a number is the number. -/
theorem valueOf_digits (n : Nat) : valueOf (digits n) = n := by
  fun_induction digits n with
  | case1 n hn =>
    show 0 * 10 + digitValue (digitChar n) = n
    rw [(digitChar_spec n hn).2]
    omega
  | case2 n hn ih =>
    rw [valueOf_append_single, ih, (digitChar_spec (n % 10) (Nat.mod_lt n (by omega))).2]
    omega

theorem ofDigits?_digits (n : Nat) : ofDigits? (digits n) = some n := by
  have hall : (digits n).all isDigit = true := by
    rw [List.all_eq_true]
    exact fun c hc => isDigit_of_mem_digits hc
  rw [ofDigits?, if_pos ⟨digits_ne_nil n, hall⟩, valueOf_digits]

/-- **A number of 64 bits is read back from its digits.** -/
theorem unsigned64?_digits {n : Nat} (hn : n ≤ max64) : unsigned64? (digits n) = some n := by
  -- a sign would be taken off in front, but no digit is one
  have hsign : ∀ r, digits n ≠ '+' :: r := by
    intro r hr
    have := isDigit_of_mem_digits (n := n) (c := '+') (by rw [hr]; exact List.mem_cons_self ..)
    exact absurd this (by decide)
  rw [unsigned64?, ofDigits?_digits, Option.filter_some, if_pos (decide_eq_true hn)]
  exact hsign

/-! ## Texts that write a number -/

/-- A text writes a number of 64 bits: one or more digits, the last of which counts ones, the one
before it tens and so on, and in front of them a plus sign or nothing. -/
def Unsigned64 (s : List Char) (n : Nat) : Prop :=
  ∃ sign ds, s = sign ++ ds ∧ (sign = [] ∨ sign = ['+']) ∧ ds ≠ [] ∧
    (∀ c ∈ ds, '0' ≤ c ∧ c ≤ '9') ∧ Nat.ofDigits 10 (ds.reverse.map digitValue) = n ∧
    n ≤ 2 ^ 64 - 1

theorem isDigit_iff {c : Char} : isDigit c = true ↔ '0' ≤ c ∧ c ≤ '9' := by
  rw [isDigit, Bool.and_eq_true, decide_eq_true_eq, decide_eq_true_eq]

/-- Read from the first digit on, digits have the value that their places give them. -/
theorem valueOf_eq_ofDigits (ds : List Char) :
    valueOf ds = Nat.ofDigits 10 (ds.reverse.map digitValue) := by
  induction ds using List.reverseRecOn with
  | nil => rfl
  | append_singleton ds c ih =>
    rw [valueOf_append_single, ih, List.reverse_concat, List.map_cons, Nat.ofDigits_cons]
    omega

theorem ofDigits?_eq_some_iff {s : List Char} {n : Nat} :
    ofDigits? s = some n ↔ s ≠ [] ∧ (∀ c ∈ s, '0' ≤ c ∧ c ≤ '9') ∧
      Nat.ofDigits 10 (s.reverse.map digitValue) = n := by
  rw [ofDigits?, valueOf_eq_ofDigits, Option.ite_none_right_eq_some, List.all_eq_true, and_assoc]
  simp only [isDigit_iff, Option.some.injEq]

theorem unsigned64?_plus (ds : List Char) :
    unsigned64? ('+' :: ds) = (ofDigits? ds).filter (· ≤ max64) := rfl

theorem unsigned64?_of_head {s : List Char} (h : s.head? ≠ some '+') :
    unsigned64? s = (ofDigits? s).filter (· ≤ max64) := by
  rw [unsigned64?]
  rintro r rfl
  exact h rfl

/-- Digits that write a number of 64 bits pass the limit. -/
theorem filter_ofDigits?_eq_some_iff {s : List Char} {n : Nat} :
    (ofDigits? s).filter (· ≤ max64) = some n ↔ s ≠ [] ∧ (∀ c ∈ s, '0' ≤ c ∧ c ≤ '9') ∧
      Nat.ofDigits 10 (s.reverse.map digitValue) = n ∧ n ≤ 2 ^ 64 - 1 := by
  rw [Option.filter_eq_some_iff, ofDigits?_eq_some_iff, decide_eq_true_eq, and_assoc, and_assoc]
  rfl

/-- **A number is read from exactly the texts that write it.** -/
theorem unsigned64?_eq_some_iff {s : List Char} {n : Nat} :
    unsigned64? s = some n ↔ Unsigned64 s n := by
  constructor
  · intro h
    by_cases hplus : s.head? = some '+'
    · obtain ⟨ds, rfl⟩ := List.head?_eq_some_iff.mp hplus
      rw [unsigned64?_plus, filter_ofDigits?_eq_some_iff] at h
      exact ⟨['+'], ds, rfl, Or.inr rfl, h⟩
    · rw [unsigned64?_of_head hplus, filter_ofDigits?_eq_some_iff] at h
      exact ⟨[], s, rfl, Or.inl rfl, h⟩
  · rintro ⟨sign, ds, rfl, hsign, hds⟩
    rcases hsign with rfl | rfl
    · have hplus : ds.head? ≠ some '+' := by
        intro hhead
        have := hds.2.1 '+' (List.mem_of_mem_head? hhead)
        exact absurd this (by decide)
      rw [List.nil_append, unsigned64?_of_head hplus, filter_ofDigits?_eq_some_iff]
      exact hds
    · rw [List.singleton_append, unsigned64?_plus, filter_ofDigits?_eq_some_iff]
      exact hds

end KatakanaLsp.Decimal
