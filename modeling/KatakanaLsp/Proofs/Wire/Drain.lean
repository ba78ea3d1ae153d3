import KatakanaLsp.Proofs.Wire.Block

/-!
# Draining a buffer that grows

A buffer is drained whenever octets have arrived. What it gives must not depend on when they do,
so each decision about its front has to be final: once a block is skipped or a frame is taken,
octets that arrive later change nothing about it (`front_append`). From this, by induction on what
is drained,

> `drain_append`: draining a buffer, and then what it leaves together with later octets, takes what
> draining all at once takes.

So a buffer that is filled piece by piece gives the bodies of the whole (`drainPieces_eq`).
`takeAll` is the loop around `next?`, which takes one body at a time; it is `drain` in one round
(`takeAll_eq_drain`).
-/

namespace KatakanaLsp.Wire

/-! ## One round -/

theorem drain_of_unfinished {b : Bytes} (h : front b = .unfinished) : drain b = ([], b) := by
  rw [drain]
  split <;> simp_all

theorem drain_of_unusable {b rest : Bytes} (h : front b = .unusable rest) :
    drain b = drain rest := by
  rw [drain]
  split <;> simp_all

theorem drain_of_frame {b body rest : Bytes} (h : front b = .frame body rest) :
    drain b = (Utf8.toStringLossy body :: (drain rest).1, (drain rest).2) := by
  rw [drain]
  split <;> simp_all

theorem next?_of_unfinished {b : Bytes} (h : front b = .unfinished) : next? b = (none, b) := by
  rw [next?]
  split <;> simp_all

theorem next?_of_unusable {b rest : Bytes} (h : front b = .unusable rest) :
    next? b = next? rest := by
  rw [next?]
  split <;> simp_all

theorem next?_of_frame {b body rest : Bytes} (h : front b = .frame body rest) :
    next? b = (some (Utf8.toStringLossy body), rest) := by
  rw [next?]
  split <;> simp_all

/-! ## One body at a time -/

/-- Where a body is taken, the buffer gets shorter. -/
theorem length_of_next? {b rest : Bytes} {body : String} (h : next? b = (some body, rest)) :
    rest.length + 4 ≤ b.length := by
  fun_induction next? b with
  | case1 b hfront => cases h
  | case2 b r hfront ih =>
    have := length_of_front_unusable hfront
    have := ih h
    omega
  | case3 b octets r hfront =>
    cases h
    have := length_of_front_frame hfront
    omega

/-- The loop around `next?`: takes bodies until there is none. -/
def takeAll (b : Bytes) : List String × Bytes :=
  match _h : next? b with
  | (none, rest) => ([], rest)
  | (some body, rest) =>
    let p := takeAll rest
    (body :: p.1, p.2)
termination_by b.length
decreasing_by
  have := length_of_next? _h
  omega

theorem takeAll_of_none {b rest : Bytes} (h : next? b = (none, rest)) :
    takeAll b = ([], rest) := by
  rw [takeAll]
  split <;> simp_all

theorem takeAll_of_some {b rest : Bytes} {body : String} (h : next? b = (some body, rest)) :
    takeAll b = (body :: (takeAll rest).1, (takeAll rest).2) := by
  rw [takeAll]
  split <;> simp_all

/-- **Taking one body at a time until there is none is draining.** -/
theorem takeAll_eq_drain (b : Bytes) : takeAll b = drain b := by
  fun_induction drain b with
  | case1 b hfront => exact takeAll_of_none (next?_of_unfinished hfront)
  | case2 b rest hfront ih =>
    have hnext := next?_of_unusable hfront
    rw [← ih]
    cases htaken : next? rest with
    | mk taken r =>
      cases taken with
      | none => rw [takeAll_of_none htaken, takeAll_of_none (hnext.trans htaken)]
      | some body => rw [takeAll_of_some htaken, takeAll_of_some (hnext.trans htaken)]
  | case3 b body rest hfront p ih =>
    rw [takeAll_of_some (next?_of_frame hfront), ih]

/-! ## Octets that arrive later -/

/-- What follows the front, with later octets behind it. -/
def Front.append (later : Bytes) : Front → Front
  | .unfinished => .unfinished
  | .unusable rest => .unusable (rest ++ later)
  | .frame body rest => .frame body (rest ++ later)

/-- A front that is decided stays as it is. -/
theorem front_append {b : Bytes} (h : front b ≠ .unfinished) (later : Bytes) :
    front (b ++ later) = (front b).append later := by
  cases hsplit : splitBlock b with
  | none => exact absurd (by rw [front, hsplit]) h
  | some p =>
    obtain ⟨block, rest⟩ := p
    have hsplit' := splitBlock_append hsplit later
    cases hlength : usableLength? block with
    | none => simp only [front, hsplit, hsplit', hlength, Front.append]
    | some n =>
      -- the body was complete before, so it is the same octets of a longer rest
      have hlong : ¬ rest.length < n := by
        intro hshort
        exact h (by simp only [front, hsplit, hlength, if_pos hshort])
      have hlong' : ¬ (rest ++ later).length < n := by
        rw [List.length_append]
        omega
      have hle : n ≤ rest.length := Nat.not_lt.mp hlong
      simp only [front, hsplit, hsplit', hlength, if_neg hlong, if_neg hlong', Front.append,
        List.take_append_of_le_length hle, List.drop_append_of_le_length hle]

/-- **Draining early takes nothing away and adds nothing.** -/
theorem drain_append (b later : Bytes) :
    drain (b ++ later) =
      ((drain b).1 ++ (drain ((drain b).2 ++ later)).1, (drain ((drain b).2 ++ later)).2) := by
  fun_induction drain b with
  | case1 b hfront => rfl
  | case2 b rest hfront ih =>
    have hlater := front_append (by rw [hfront]; simp) later
    rw [hfront] at hlater
    rw [drain_of_unusable hlater, ih]
  | case3 b body rest hfront p ih =>
    have hlater := front_append (by rw [hfront]; simp) later
    rw [hfront] at hlater
    rw [drain_of_frame hlater, ih]
    rfl

/-- What draining leaves holds nothing that could be taken. -/
theorem drain_rest (b : Bytes) : drain (drain b).2 = ([], (drain b).2) := by
  fun_induction drain b with
  | case1 b hfront => exact drain_of_unfinished hfront
  | case2 b rest hfront ih => exact ih
  | case3 b body rest hfront p ih => exact ih

/-- A buffer that is drained whenever a piece of the stream has arrived. -/
def drainPieces (buffer : Bytes) : List Bytes → List String × Bytes
  | [] => ([], buffer)
  | piece :: pieces =>
    let p := drain (buffer ++ piece)
    let q := drainPieces p.2 pieces
    (p.1 ++ q.1, q.2)

/-- **However a stream is cut into pieces, it is drained as a whole.** -/
theorem drainPieces_eq {buffer : Bytes} (h : drain buffer = ([], buffer)) (pieces : List Bytes) :
    drainPieces buffer pieces = drain (buffer ++ pieces.flatten) := by
  induction pieces generalizing buffer with
  | nil => rw [List.flatten_nil, List.append_nil, h, drainPieces]
  | cons piece pieces ih =>
    rw [drainPieces, ih (drain_rest _), List.flatten_cons, ← List.append_assoc,
      drain_append (buffer ++ piece)]

end KatakanaLsp.Wire
