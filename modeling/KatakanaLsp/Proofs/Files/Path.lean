import KatakanaLsp.Files.Path
import KatakanaLsp.Proofs.Text.Utf8

/-!
# Paths of entries

A name without a slash that is joined to the path of a directory is the last step of the path that
results, whether the path of the directory is empty, ends in a slash or does not:

> `steps_join`: the path goes through the names of the directory, and then to that one.

It begins where the path of the directory does (`start_join`).
-/

namespace KatakanaLsp.Files.Path

/-! ## Pieces -/

theorem pieces_ne_nil (b : Bytes) : pieces b ≠ [] := by
  cases b with
  | nil => exact List.cons_ne_nil _ _
  | cons o rest =>
    rw [pieces]
    split
    · exact List.cons_ne_nil _ _
    · split <;> exact List.cons_ne_nil _ _

/-- A slash parts the pieces before it from those behind it. -/
theorem pieces_slash (front rest : Bytes) :
    pieces (front ++ slash :: rest) = pieces front ++ pieces rest := by
  induction front with
  | nil =>
    show pieces (slash :: rest) = [[]] ++ pieces rest
    rw [pieces]
    split
    next hnone => exact absurd hnone (pieces_ne_nil rest)
    next p ps hpieces =>
      rw [if_pos rfl, hpieces]
      rfl
  | cons o front ih =>
    rw [List.cons_append, pieces, pieces, ih]
    cases hfront : pieces front with
    | nil => exact absurd hfront (pieces_ne_nil front)
    | cons p ps =>
      dsimp only [List.cons_append]
      split <;> rfl

/-- Without a slash there is one piece. -/
theorem pieces_of_no_slash {b : Bytes} (h : slash ∉ b) : pieces b = [b] := by
  induction b with
  | nil => rfl
  | cons o rest ih =>
    obtain ⟨ho, hrest⟩ := List.ne_and_not_mem_of_not_mem_cons h
    rw [pieces, ih hrest]
    dsimp only
    rw [if_neg ho.symm]

/-! ## Steps -/

/-- The names among the pieces of a path. -/
def way (p : Path) : List Name := (pieces p.octets).filter (· ≠ [])

/-- The steps of a path are its names, and perhaps a step to no name behind them. -/
theorem steps_eq (p : Path) : p.steps = p.way ∨ p.steps = p.way ++ [[]] := by
  unfold steps way
  dsimp only
  split
  · exact .inr rfl
  · exact .inl (List.append_nil _)

/-- Where the last piece is a name, the steps end in it. -/
theorem steps_of_pieces {p : Path} {ps : List Name} {name : Name} (hname : name ≠ [])
    (h : pieces p.octets = ps ++ [name]) : p.steps = ps.filter (· ≠ []) ++ [name] := by
  have hlast : (ps ++ [name]).getLast? ≠ some [] := by
    rw [List.getLast?_concat]
    exact fun hsame => hname (Option.some.inj hsame)
  unfold steps
  dsimp only
  rw [h, if_neg hlast, List.append_nil, List.filter_append,
    List.filter_cons_of_pos (by simpa using hname), List.filter_nil]

/-- A name that stands for an entry of the directory that it is looked up in. -/
structure IsEntryName (name : Name) : Prop where
  noSlash : slash ∉ name
  notEmpty : name ≠ []
  notHere : name ≠ here
  notAbove : name ≠ above

namespace IsEntryName

variable {file : String}

/-- What a name is joined to the path of a directory with: nothing, the slash that the path ends in,
or a slash of its own. -/
theorem octets_join (h : IsEntryName (Utf8.ofString file)) (d : Path) :
    (d.octets = [] ∧ (d.join file).octets = Utf8.ofString file) ∨
      (∃ front, d.octets = front ++ [slash] ∧
        (d.join file).octets = front ++ slash :: Utf8.ofString file) ∨
      d.octets ≠ [] ∧ (d.join file).octets = d.octets ++ slash :: Utf8.ofString file := by
  have hrelative : (Utf8.ofString file).head? ≠ some slash :=
    fun hhead => h.noSlash (List.mem_of_mem_head? hhead)
  unfold join
  dsimp only
  by_cases hempty : d.octets = []
  · rw [if_pos (.inr hempty)]
    exact .inl ⟨hempty, rfl⟩
  · rw [if_neg (not_or_intro hrelative hempty)]
    by_cases hslash : d.octets.getLast? = some slash
    · obtain ⟨front, hfront⟩ := List.getLast?_eq_some_iff.mp hslash
      rw [if_pos hslash, hfront, List.append_assoc]
      exact .inr (.inl ⟨front, rfl, rfl⟩)
    · rw [if_neg hslash]
      exact .inr (.inr ⟨hempty, rfl⟩)

/-- **The path goes through the names of the directory, and then to that one.** -/
theorem steps_join (h : IsEntryName (Utf8.ofString file)) (d : Path) :
    (d.join file).steps = d.way ++ [Utf8.ofString file] := by
  have hpieces := pieces_of_no_slash h.noSlash
  rcases h.octets_join d with ⟨hempty, hjoined⟩ | ⟨front, hfront, hjoined⟩ | ⟨-, hjoined⟩
  · have hone : pieces (d.join file).octets = [] ++ [Utf8.ofString file] := by
      rw [hjoined, hpieces]
      rfl
    rw [way, hempty, steps_of_pieces h.notEmpty hone]
    rfl
  · -- the piece behind the last slash of the directory is empty, and an empty piece is no name
    have hway : d.way = (pieces front).filter (· ≠ []) := by
      rw [way, hfront, pieces_slash, List.filter_append]
      exact List.append_nil _
    rw [hway, steps_of_pieces h.notEmpty]
    rw [hjoined, pieces_slash, hpieces]
  · rw [way, steps_of_pieces h.notEmpty]
    rw [hjoined, pieces_slash, hpieces]

/-- The joined path begins with the path of the directory. -/
theorem octets_prefix_join (h : IsEntryName (Utf8.ofString file)) (d : Path) :
    d.octets <+: (d.join file).octets := by
  rcases h.octets_join d with ⟨hempty, -⟩ | ⟨front, hfront, hjoined⟩ | ⟨-, hjoined⟩
  · rw [hempty]
    exact List.nil_prefix
  · rw [hfront, hjoined]
    exact ⟨Utf8.ofString file, List.append_assoc _ _ _⟩
  · rw [hjoined]
    exact List.prefix_append _ _

/-- The walk begins where that to the directory does. -/
theorem start_join (h : IsEntryName (Utf8.ofString file)) (d : Path) (current : Location) :
    (d.join file).start current = d.start current := by
  have hhead : (d.join file).octets.head? = some slash ↔ d.octets.head? = some slash := by
    obtain ⟨rest, hrest⟩ := h.octets_prefix_join d
    cases hd : d.octets with
    | nil =>
      have hjoined : (d.join file).octets = Utf8.ofString file := by
        rcases h.octets_join d with ⟨-, hjoined⟩ | ⟨front, hfront, -⟩ | ⟨hne, -⟩
        · exact hjoined
        · simp [hd] at hfront
        · exact absurd hd hne
      rw [hjoined]
      exact ⟨fun hslash => absurd (List.mem_of_mem_head? hslash) h.noSlash, nofun⟩
    | cons o tail =>
      rw [← hrest, hd]
      rfl
  unfold start
  simp only [hhead]

end IsEntryName

end KatakanaLsp.Files.Path
