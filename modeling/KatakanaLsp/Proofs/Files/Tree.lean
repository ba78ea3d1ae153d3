import KatakanaLsp.Files.Tree

/-!
# What operations do to a tree

Each operation on a tree is said here by what stands at a location afterwards: at the location it
is about (`_self`), and at any other (`_of_ne`), where it changes nothing. Nothing else needs to
look into the list of entries, of which it is enough that no location is in it twice:

> `mem_entries_iff`: the list holds an entry at a location exactly if that stands there.

> `Grown`: what it is for a tree that one file has grown and nothing else has changed; it goes on to
> hold when more is appended (`Grown.append`).

> `mem_listing_iff`: a directory lists what stands directly in it, each name once
> (`nodup_names_listing`).
-/

namespace KatakanaLsp.Files.Tree

variable {t t' : Tree} {loc place file directory : Location} {e : Entry}

/-! ## Entries -/

/-- Nothing is left at a location without its entry. -/
theorem lookup_without_self (t : Tree) (loc : Location) :
    (t.entries.filter (·.1 ≠ loc)).lookup loc = none := by
  rw [List.lookup_eq_none_iff]
  intro found hfound
  have hne : found.1 ≠ loc := of_decide_eq_true (List.mem_filter.mp hfound).2
  exact bne_iff_ne.mpr hne.symm

/-- What stands at a location stays without the entry at another. -/
theorem lookup_without_of_ne (t : Tree) (h : loc ≠ place) :
    (t.entries.filter (·.1 ≠ place)).lookup loc = t.entries.lookup loc := by
  induction t.entries with
  | nil => rfl
  | cons found es ih =>
    obtain ⟨there, e⟩ := found
    by_cases hthere : there = place
    · have hne : (loc == there) = false := by
        rw [hthere]
        exact beq_false_of_ne h
      rw [List.filter_cons_of_neg (by simpa using hthere), ih, List.lookup_cons, hne]
    · rw [List.filter_cons_of_pos (by simpa using hthere), List.lookup_cons, List.lookup_cons, ih]

/-- In a list without repeated keys, what is looked up is what is there. -/
theorem lookup_eq_some_iff_mem {es : List (Location × Entry)} (h : (es.map (·.1)).Nodup) :
    es.lookup loc = some e ↔ (loc, e) ∈ es := by
  induction es with
  | nil => simp
  | cons found es ih =>
    obtain ⟨there, f⟩ := found
    obtain ⟨hfresh, hothers⟩ := List.nodup_cons.mp h
    rw [List.lookup_cons, List.mem_cons]
    by_cases hthere : loc = there
    · subst hthere
      have hnot : (loc, e) ∉ es := fun hin => hfresh (List.mem_map.mpr ⟨_, hin, rfl⟩)
      simp [hnot, eq_comm]
    · rw [beq_false_of_ne hthere]
      simp [ih hothers, hthere]

/-- **The entries of a tree are what stands at its locations**, the root apart. -/
theorem mem_entries_iff (h : loc ≠ []) : (loc, e) ∈ t.entries ↔ t.entry? loc = some e := by
  unfold entry?
  rw [if_neg h]
  exact (lookup_eq_some_iff_mem t.distinct).symm

/-- The order of the entries makes no difference to what stands where. -/
theorem entry?_of_perm (h : t'.entries.Perm t.entries) (loc : Location) :
    t'.entry? loc = t.entry? loc := by
  by_cases hroot : loc = []
  · rw [hroot]
    rfl
  · apply Option.ext
    intro e
    rw [← mem_entries_iff hroot, ← mem_entries_iff hroot]
    exact h.mem_iff

/-! ## Putting and erasing -/

/-- What is put at a location below the root stands there. -/
theorem entry?_put_self (t : Tree) (h : loc ≠ []) (e : Entry) :
    Tree.entry? (t.put loc e) loc = some e := by
  unfold Tree.entry?
  rw [if_neg h, put, List.lookup_append, lookup_without_self, Option.none_or, List.lookup_cons,
    beq_self_eq_true]

/-- What is put at a location changes nothing elsewhere. -/
theorem entry?_put_of_ne (t : Tree) (h : loc ≠ place) (e : Entry) :
    Tree.entry? (t.put place e) loc = Tree.entry? t loc := by
  have hplace : List.lookup loc [(place, e)] = none := by
    rw [List.lookup_cons, beq_false_of_ne h]
    rfl
  unfold Tree.entry?
  split
  · rfl
  · rw [put, List.lookup_append, t.lookup_without_of_ne h, hplace, Option.or_none]

theorem entry?_erase_self (t : Tree) (h : loc ≠ []) : Tree.entry? (t.erase loc) loc = none := by
  unfold Tree.entry?
  rw [if_neg h, erase, lookup_without_self]

/-- What is erased at a location changes nothing elsewhere. -/
theorem entry?_erase_of_ne (t : Tree) (h : loc ≠ place) :
    Tree.entry? (t.erase place) loc = Tree.entry? t loc := by
  unfold Tree.entry?
  split
  · rfl
  · rw [erase, t.lookup_without_of_ne h]

/-! ## Appending -/

/-- A file does not stand at the root. -/
theorem ne_nil_of_file {content : Bytes} {modified : Int}
    (h : t.entry? loc = some (.file content modified)) : loc ≠ [] := by
  rintro rfl
  cases h

/-- What holds something is a file. -/
theorem exists_file (h : (t.content? loc).isSome) :
    ∃ content modified, t.entry? loc = some (.file content modified) := by
  unfold content? at h
  split at h
  next content modified hfile => exact ⟨content, modified, hfile⟩
  · cases h

/-- What is no file holds nothing. -/
theorem content?_eq_none (h : t.entry? loc = some e)
    (he : ∀ content modified, e ≠ .file content modified) : t.content? loc = none := by
  unfold content?
  split
  next content modified hfile => exact absurd (Option.some.inj (h.symm.trans hfile)) (he _ _)
  · rfl

/-- Appending to a file adds at its end; where there is no file, none comes to be. -/
theorem content?_append (t : Tree) (loc : Location) (data : Bytes) :
    (t.append loc data).content? loc = (t.content? loc).map (· ++ data) := by
  cases he : t.entry? loc with
  | none => simp only [append, content?, he, Option.map_none]
  | some e =>
    cases e with
    | file content modified =>
      simp only [append, content?, he, entry?_put_self t (ne_nil_of_file he), Option.map_some]
    | directory => simp only [append, content?, he, Option.map_none]
    | link target => simp only [append, content?, he, Option.map_none]

/-- Appending to a file changes nothing elsewhere. -/
theorem entry?_append_of_ne (t : Tree) (h : loc ≠ place) (data : Bytes) :
    Tree.entry? (t.append place data) loc = Tree.entry? t loc := by
  unfold append
  split
  · exact t.entry?_put_of_ne h _
  · rfl

theorem current_append (t : Tree) (loc : Location) (data : Bytes) :
    (t.append loc data).current = t.current := by
  unfold append
  split <;> rfl

theorem barred_append (t : Tree) (loc : Location) (data : Bytes) :
    (t.append loc data).barred = t.barred := by
  unfold append
  split <;> rfl

/-- What appending makes of a file depends only on what stands there. -/
theorem entry?_append_congr (h : Tree.entry? t loc = Tree.entry? t' loc) (data : Bytes) :
    Tree.entry? (t.append loc data) loc = Tree.entry? (t'.append loc data) loc := by
  unfold append
  rw [← h]
  split
  next hfile =>
    have hloc := ne_nil_of_file hfile
    rw [entry?_put_self t hloc, entry?_put_self t' hloc]
  · exact h

/-! ## All but one file -/

/-- Two trees that hold the same everywhere but at one location. -/
def AgreeExcept (file : Location) (t t' : Tree) : Prop :=
  ∀ loc, loc ≠ file → Tree.entry? t loc = Tree.entry? t' loc

theorem AgreeExcept.append (h : AgreeExcept file t t') (place : Location) (data : Bytes) :
    AgreeExcept file (t.append place data) (t'.append place data) := by
  intro loc hloc
  by_cases hplace : loc = place
  · subst hplace
    exact entry?_append_congr (h loc hloc) data
  · rw [entry?_append_of_ne t hplace, entry?_append_of_ne t' hplace, h loc hloc]

/-- Of the two, either can be written to at that location. -/
theorem AgreeExcept.append_left (h : AgreeExcept file t t') (data : Bytes) :
    AgreeExcept file (t.append file data) t' := by
  intro loc hloc
  rw [entry?_append_of_ne t hloc, h loc hloc]

/-! ## Files that grow -/

/-- One tree is another with some octets added at the end of a file, which was made if there was
nothing; everything else is as it was, and so is what the program may do. -/
structure Grown (t : Tree) (file : Location) (data : Bytes) (t' : Tree) : Prop where
  free : t.entry? file = none ∨ (t.content? file).isSome
  content : t'.content? file = some ((t.content? file).getD [] ++ data)
  others : t.AgreeExcept file t'
  current : t'.current = t.current
  barred : t'.barred = t.barred

/-- A file that has grown grows further. -/
theorem Grown.append {data : Bytes} (h : t.Grown file data t') (more : Bytes) :
    t.Grown file (data ++ more) (t'.append file more) where
  free := h.free
  content := by
    rw [content?_append, h.content, Option.map_some, List.append_assoc]
  others := by
    intro loc hloc
    rw [h.others loc hloc, entry?_append_of_ne t' hloc]
  current := by
    rw [current_append, h.current]
  barred := by
    rw [barred_append, h.barred]

/-! ## Directories -/

/-- A name stands in a directory at the location that leads there from the directory. -/
theorem nameIn?_eq_some_iff {name : Name} :
    nameIn? directory loc = some name ↔ loc = directory ++ [name] := by
  unfold nameIn?
  rcases List.eq_nil_or_concat loc with rfl | ⟨front, last, rfl⟩
  · simp
  · rw [List.concat_eq_append, List.getLast?_concat, List.dropLast_concat]
    by_cases hfront : front = directory
    · simp [hfront]
    · simp [hfront]

/-- **A directory lists what stands directly in it.** -/
theorem mem_listing_iff {name : Name} :
    (name, e) ∈ t.listing directory ↔ t.entry? (directory ++ [name]) = some e := by
  rw [← mem_entries_iff (List.append_ne_nil_of_right_ne_nil _ (List.cons_ne_nil _ _)), listing,
    List.mem_filterMap]
  constructor
  · rintro ⟨⟨loc, f⟩, hin, hnamed⟩
    obtain ⟨other, hother, heq⟩ := Option.map_eq_some_iff.mp hnamed
    obtain ⟨rfl, rfl⟩ := Prod.mk.inj heq
    rw [← nameIn?_eq_some_iff.mp hother]
    exact hin
  · intro hin
    refine ⟨(directory ++ [name], e), hin, ?_⟩
    rw [nameIn?_eq_some_iff.mpr rfl]
    rfl

/-- A directory lists each name once. -/
theorem nodup_names_listing (t : Tree) (directory : Location) :
    ((t.listing directory).map (·.1)).Nodup := by
  have hnames : (t.listing directory).map (·.1) =
      (t.entries.map (·.1)).filterMap (nameIn? directory) := by
    rw [listing, List.map_filterMap, List.filterMap_map]
    congr 1
    funext found
    cases h : nameIn? directory found.1 <;> simp [h]
  rw [hnames]
  refine List.Pairwise.filterMap _ ?_ t.distinct
  intro loc place hne name hloc other hplace hsame
  subst hsame
  exact hne ((nameIn?_eq_some_iff.mp hloc).trans (nameIn?_eq_some_iff.mp hplace).symm)

end KatakanaLsp.Files.Tree
