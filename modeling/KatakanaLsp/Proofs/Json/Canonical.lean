import KatakanaLsp.Json.Basic

/-!
# The canonical form

`canonical` sorts the fields of every object and keeps, of several with one key, the last. Sorting
is by insertion from the end: the fields behind one are in order already, and it goes in front of
the first that is greater, or nowhere. This file shows that there is then nothing left to do:

> `canonical_canonical`: the canonical form of a canonical form is itself.

What is logged is a canonical form, so that logging it once more does not change it. And no key is
lost on the way (`hasField_canonical`), so that a message is of the kind it was.

Values are nested in lists of items and of fields. `Json.induct` is the induction over them in which
these lists do not show.
-/

namespace KatakanaLsp.Json

/-- Induction over a value: what holds of an array or an object may be shown from what holds of
every value in it. -/
@[elab_as_elim]
theorem induct {motive : Json → Prop} (null : motive .null) (bool : ∀ b, motive (.bool b))
    (number : ∀ n, motive (.number n)) (string : ∀ s, motive (.string s))
    (array : ∀ items, (∀ v ∈ items, motive v) → motive (.array items))
    (object : ∀ fields, (∀ f ∈ fields, motive f.2) → motive (.object fields)) :
    ∀ j, motive j :=
  @Json.rec motive (fun items => ∀ v ∈ items, motive v) (fun fields => ∀ f ∈ fields, motive f.2)
    (fun f => motive f.2) null bool number string array object
    (fun _ h => absurd h List.not_mem_nil)
    (fun _ _ hhead htail => List.forall_mem_cons.mpr ⟨hhead, htail⟩)
    (fun _ h => absurd h List.not_mem_nil)
    (fun _ _ hhead htail => List.forall_mem_cons.mpr ⟨hhead, htail⟩)
    (fun _ _ h => h)

/-- The items of a canonical form are those of the value, each in canonical form. -/
theorem canonicalItems_eq (items : List Json) : canonicalItems items = items.map canonical := by
  induction items with
  | nil => rfl
  | cons v rest ih => rw [canonicalItems, ih, List.map_cons]

/-! ## Inserting a field -/

/-- Fields in order, each key once. -/
def Sorted (fields : List (String × Json)) : Prop := fields.Pairwise (·.1 < ·.1)

theorem mem_of_mem_insertField {k : String} {v : Json} {l : List (String × Json)}
    {f : String × Json} (h : f ∈ insertField k v l) : f = (k, v) ∨ f ∈ l := by
  induction l with
  | nil => exact Or.inl (List.mem_singleton.mp h)
  | cons g rest ih =>
    unfold insertField at h
    split at h
    · exact List.mem_cons.mp h
    · split at h
      · exact Or.inr h
      · rcases List.mem_cons.mp h with rfl | hrest
        · exact Or.inr (List.mem_cons_self ..)
        · exact (ih hrest).imp_right (List.mem_cons_of_mem g)

/-- A field that is less than all others goes in front of them. -/
theorem insertField_of_lt {k : String} {v : Json} {l : List (String × Json)}
    (h : ∀ f ∈ l, k < f.1) : insertField k v l = (k, v) :: l := by
  cases l with
  | nil => rfl
  | cons g rest => rw [insertField, if_pos (h g (List.mem_cons_self ..))]

theorem Sorted.insertField {l : List (String × Json)} (hl : Sorted l) (k : String) (v : Json) :
    Sorted (insertField k v l) := by
  induction l with
  | nil => exact List.pairwise_singleton ..
  | cons g rest ih =>
    obtain ⟨hg, hrest⟩ := List.pairwise_cons.mp hl
    unfold Json.insertField
    by_cases hlt : k < g.1
    · rw [if_pos hlt]
      refine List.pairwise_cons.mpr ⟨fun f hf => ?_, hl⟩
      rcases List.mem_cons.mp hf with rfl | hf
      · exact hlt
      · exact String.lt_trans hlt (hg f hf)
    · rw [if_neg hlt]
      by_cases heq : k = g.1
      · rw [if_pos heq]
        exact hl
      · rw [if_neg heq]
        refine List.pairwise_cons.mpr ⟨fun f hf => ?_, ih hrest⟩
        rcases mem_of_mem_insertField hf with rfl | hf
        · exact Std.lt_of_le_of_ne (String.not_lt.mp hlt) (Ne.symm heq)
        · exact hg f hf

/-- Inserting a field adds its key. -/
theorem any_insertField (k : String) (v : Json) (l : List (String × Json)) (key : String) :
    (insertField k v l).any (·.1 == key) = (k == key || l.any (·.1 == key)) := by
  induction l with
  | nil => simp [insertField]
  | cons g rest ih =>
    unfold insertField
    split
    · rfl
    · split
      next hk =>
        -- the field that is there already has the key
        rw [List.any_cons, hk, ← Bool.or_assoc, Bool.or_self]
      next =>
        rw [List.any_cons, List.any_cons, ih, ← Bool.or_assoc, ← Bool.or_assoc,
          Bool.or_comm (g.1 == key)]

/-! ## The fields of a canonical form -/

theorem sorted_canonicalFields (fields : List (String × Json)) :
    Sorted (canonicalFields fields) := by
  induction fields with
  | nil => exact List.Pairwise.nil
  | cons f rest ih => exact ih.insertField f.1 (canonical f.2)

/-- A field of a canonical form is a field of the value, its own value in canonical form. -/
theorem exists_of_mem_canonicalFields {fields : List (String × Json)} {f : String × Json}
    (h : f ∈ canonicalFields fields) : ∃ g ∈ fields, f = (g.1, canonical g.2) := by
  induction fields with
  | nil => exact absurd h List.not_mem_nil
  | cons g rest ih =>
    rcases mem_of_mem_insertField h with hf | hrest
    · exact ⟨g, List.mem_cons_self .., hf⟩
    · obtain ⟨g', hg', hf⟩ := ih hrest
      exact ⟨g', List.mem_cons_of_mem g hg', hf⟩

/-- Sorted fields whose values are canonical stay as they are. -/
theorem canonicalFields_of_sorted {fields : List (String × Json)} (hsorted : Sorted fields)
    (hvalues : ∀ f ∈ fields, canonical f.2 = f.2) : canonicalFields fields = fields := by
  induction fields with
  | nil => rfl
  | cons f rest ih =>
    obtain ⟨hf, hrest⟩ := List.pairwise_cons.mp hsorted
    have hothers := ih hrest fun g hg => hvalues g (List.mem_cons_of_mem f hg)
    rw [canonicalFields, hothers, hvalues f (List.mem_cons_self ..), insertField_of_lt hf]

/-- **The canonical form of a canonical form is itself.** -/
theorem canonical_canonical (j : Json) : j.canonical.canonical = j.canonical := by
  induction j using induct with
  | null => rfl
  | bool b => rfl
  | number n => rfl
  | string s => rfl
  | array items ih =>
    rw [canonical, canonical, canonicalItems_eq, canonicalItems_eq, List.map_map]
    congr 1
    exact List.map_congr_left ih
  | object fields ih =>
    rw [canonical, canonical]
    congr 1
    apply canonicalFields_of_sorted (sorted_canonicalFields fields)
    intro f hf
    obtain ⟨g, hg, rfl⟩ := exists_of_mem_canonicalFields hf
    exact ih g hg

theorem any_canonicalFields (fields : List (String × Json)) (key : String) :
    (canonicalFields fields).any (·.1 == key) = fields.any (·.1 == key) := by
  induction fields with
  | nil => rfl
  | cons f rest ih => rw [canonicalFields, any_insertField, ih, List.any_cons]

/-- **The canonical form of a value has the same keys.** -/
theorem hasField_canonical (j : Json) (key : String) :
    j.canonical.hasField key = j.hasField key := by
  cases j with
  | object fields => exact any_canonicalFields fields key
  | _ => rfl

end KatakanaLsp.Json
