/-!
# Walks over a text

Readers walk over a text as long as what they see fits, and go on behind it. Where a walk ends is
decided by the first character or octet that does not fit: it ends in front of that one
(`walk_stops`), and then what comes later does not matter (`walk_append`).
-/

namespace KatakanaLsp

variable {α : Type} {p : α → Bool}

/-- A walk stops in front of what does not fit. -/
theorem walk_stops {lead : List α} (hlead : ∀ a ∈ lead, p a = true) {stop : α}
    (hstop : p stop = false) (rest : List α) :
    (lead ++ stop :: rest).takeWhile p = lead ∧
      (lead ++ stop :: rest).dropWhile p = stop :: rest := by
  have hno : ¬ p stop = true := by
    rw [hstop]
    exact Bool.false_ne_true
  rw [List.takeWhile_append_of_pos hlead, List.dropWhile_append_of_pos hlead,
    List.takeWhile_cons_of_neg hno, List.dropWhile_cons_of_neg hno, List.append_nil]
  exact ⟨rfl, rfl⟩

/-- A walk that has stopped goes no further when more comes behind. -/
theorem walk_append {l rest : List α} {stop : α} (h : l.dropWhile p = stop :: rest)
    (later : List α) :
    (l ++ later).takeWhile p = l.takeWhile p ∧
      (l ++ later).dropWhile p = stop :: (rest ++ later) := by
  have hstops : (l.takeWhile p).length ≠ l.length := by
    intro hall
    have hwhole := congrArg List.length (List.takeWhile_append_dropWhile (p := p) (l := l))
    rw [List.length_append, h, List.length_cons] at hwhole
    omega
  constructor
  · rw [List.takeWhile_append, if_neg hstops]
  · rw [List.dropWhile_append, h]
    rfl

end KatakanaLsp
