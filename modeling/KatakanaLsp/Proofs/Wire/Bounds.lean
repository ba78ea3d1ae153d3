import KatakanaLsp.Proofs.Wire.Grammar
import KatakanaLsp.Proofs.Wire.Streaming

/-!
# A buffer is read within its bounds

`front` speaks of what stands before a blank line and what stands behind it, and `next?` goes on for
as long as it has to. A machine has indices of 64 bits instead, ranges that may reach beyond the
buffer, and loops that may not end. This file reads a buffer in that way: every range is checked,
every sum of indices has to be an index, and a loop gets only so many rounds. Whatever goes wrong is
a `Fault`. Nothing does, whatever the octets say:

> `frontAt_eq`: a round by indices finds what stands at the front.

> `nextWithin_eq`, `messagesWithin_eq`: the loops come to their answers in any number of rounds that
> is greater than a quarter of the number of octets.

The number of rounds comes from what a round leaves: octets are only taken off the front, and a
round that goes on or returns a body takes at least the four of a blank line (`Shortens`).
-/

namespace KatakanaLsp.Wire

/-! ## Indices -/

/-- What can go wrong while a buffer is read by indices. -/
inductive Fault where
  | outOfRange
  | overflow
  | endless
  deriving DecidableEq, Repr

/-- The octets from one index up to another, which must both lie within the buffer. -/
def slice (b : Bytes) (start stop : Nat) : Except Fault Bytes :=
  if start ≤ stop ∧ stop ≤ b.length then .ok ((b.take stop).drop start) else .error .outOfRange

/-- What is left of a buffer without the octets up to an index, which must lie within it. -/
def discard (b : Bytes) (stop : Nat) : Except Fault Bytes := slice b stop b.length

/-- The sum of two indices, if it is an index of 64 bits. -/
def indexSum? (i j : Nat) : Option Nat := if i + j ≤ Decimal.max64 then some (i + j) else none

/-- The sum of two indices, which must be an index. -/
def indexSum (i j : Nat) : Except Fault Nat :=
  match indexSum? i j with
  | none => .error .overflow
  | some k => .ok k

/-- The first index at which four octets are a blank line. -/
def blankIndex? (b : Bytes) : Option Nat :=
  (List.range (b.length + 1 - terminatorLength)).find? fun i =>
    (b.drop i).take terminatorLength == blankLine

/-- One round: searches for a blank line, reads the header block in front of it, and takes off the
block or the frame. A length that makes no index is as good as none. -/
def frontAt (b : Bytes) : Except Fault Front :=
  match blankIndex? b with
  | none => .ok .unfinished
  | some headerLength => do
    let bodyStart ← indexSum headerLength terminatorLength
    let header ← slice b 0 headerLength
    match ((Utf8.decode? header).bind contentLength?).bind (indexSum? bodyStart) with
    | none => return .unusable (← discard b bodyStart)
    | some bodyEnd =>
      if b.length < bodyEnd then return .unfinished
      else
        let body ← slice b bodyStart bodyEnd
        return .frame body (← discard b bodyEnd)

/-- The first complete body, found in at most so many rounds. -/
def nextWithin : Nat → Bytes → Except Fault (Option String × Bytes)
  | 0, _ => .error .endless
  | rounds + 1, b =>
    match frontAt b with
    | .error fault => .error fault
    | .ok .unfinished => .ok (none, b)
    | .ok (.unusable rest) => nextWithin rounds rest
    | .ok (.frame body rest) => .ok (some (Utf8.toStringLossy body), rest)

/-- The complete messages of a buffer, taken with at most so many calls of at most so many rounds
each. -/
def messagesWithin (rounds : Nat) : Nat → Bytes → Except Fault (List Json × Bytes)
  | 0, _ => .error .endless
  | calls + 1, b =>
    match nextWithin rounds b with
    | .error fault => .error fault
    | .ok (none, rest) => .ok ([], rest)
    | .ok (some body, rest) =>
      match messagesWithin rounds calls rest with
      | .error fault => .error fault
      | .ok (messages, left) => .ok ((messageOf? body).toList ++ messages, left)

/-! ## Ranges -/

/-- A stretch of a buffer is cut out by the indices at which it begins and ends. -/
theorem slice_eq {b : Bytes} (lead part rest : Bytes) {start stop : Nat}
    (hb : b = lead ++ (part ++ rest)) (hstart : lead.length = start)
    (hstop : start + part.length = stop) : slice b start stop = .ok part := by
  subst hb hstart hstop
  have hrange : lead.length ≤ lead.length + part.length ∧
      lead.length + part.length ≤ (lead ++ (part ++ rest)).length := by
    simp only [List.length_append]
    omega
  rw [slice, if_pos hrange, List.take_length_add_append, List.take_left, List.drop_left]

/-- Without the octets in front, the others are left. -/
theorem discard_eq {b lead rest : Bytes} {stop : Nat} (hb : b = lead ++ rest)
    (hstop : lead.length = stop) : discard b stop = .ok rest := by
  refine slice_eq lead rest [] (by rw [List.append_nil]; exact hb) hstop ?_
  rw [hb, List.length_append, hstop]

/-- Behind the octets in front, so many are cut out and the others are left. -/
theorem slice_take {b lead rest : Bytes} {start n : Nat} (hb : b = lead ++ rest)
    (hstart : lead.length = start) (hn : n ≤ rest.length) :
    slice b start (start + n) = .ok (rest.take n) ∧
      discard b (start + n) = .ok (rest.drop n) := by
  have htake : (rest.take n).length = n := List.length_take_of_le hn
  have hwhole : b = lead ++ (rest.take n ++ rest.drop n) := by
    rw [hb, List.take_append_drop]
  refine ⟨slice_eq lead _ _ hwhole hstart (by rw [htake]), ?_⟩
  refine discard_eq (hwhole.trans (List.append_assoc ..).symm) ?_
  rw [List.length_append, hstart, htake]

/-! ## The search for a blank line -/

theorem blankAt_iff {b : Bytes} {i : Nat} :
    BlankAt b i ↔ ((b.drop i).take terminatorLength == blankLine) = true := by
  rw [BlankAt, List.prefix_iff_eq_take, beq_iff_eq, eq_comm]
  rfl

/-- A blank line has room behind the index at which it begins. -/
theorem BlankAt.room {b : Bytes} {i : Nat} (h : BlankAt b i) : i + terminatorLength ≤ b.length := by
  have := h.length_le
  rw [List.length_drop] at this
  have : blankLine.length = terminatorLength := rfl
  have : 0 < terminatorLength := by decide
  omega

/-- **The search finds the first blank line.** -/
theorem blankIndex?_eq_some_iff {b : Bytes} {i : Nat} :
    blankIndex? b = some i ↔ FirstBlankAt b i := by
  rw [blankIndex?, List.find?_range_eq_some]
  simp only [← blankAt_iff, Bool.not_eq_true', ← Bool.not_eq_true, List.mem_range]
  constructor
  · rintro ⟨hat, -, hfirst⟩
    exact ⟨hat, hfirst⟩
  · rintro ⟨hat, hfirst⟩
    have := hat.room
    exact ⟨hat, by omega, hfirst⟩

/-- Behind a blank line, octets make no difference to where it begins. -/
theorem firstBlankAt_of_isBlock {h : Bytes} (hblock : IsBlock h) (rest : Bytes) :
    FirstBlankAt (h ++ blankLine ++ rest) h.length := by
  have hsame : ∀ j ≤ h.length, BlankAt (h ++ blankLine ++ rest) j ↔ BlankAt (h ++ blankLine) j := by
    intro j hj
    have hroom : blankLine.length ≤ ((h ++ blankLine).drop j).length := by
      rw [List.length_drop, List.length_append]
      omega
    rw [BlankAt, List.drop_append_of_le_length (by rw [List.length_append]; omega),
      isPrefix_append_iff rest hroom, BlankAt]
  refine ⟨(hsame _ (Nat.le_refl _)).mpr hblock.1, fun j hj hat => ?_⟩
  exact hblock.2 j hj ((hsame j (Nat.le_of_lt hj)).mp hat)

theorem blankIndex?_of_splitBlock {b h rest : Bytes} (hs : splitBlock b = some (h, rest)) :
    blankIndex? b = some h.length := by
  obtain ⟨rfl, hblock⟩ := splitBlock_eq_some_iff.mp hs
  exact blankIndex?_eq_some_iff.mpr (firstBlankAt_of_isBlock hblock rest)

theorem blankIndex?_of_splitBlock_none {b : Bytes} (hs : splitBlock b = none) :
    blankIndex? b = none := by
  rw [Option.eq_none_iff_forall_ne_some]
  intro i hi
  exact splitBlock_eq_none_iff.mp hs i (blankIndex?_eq_some_iff.mp hi).1

/-! ## One round -/

/-- A body ends at an index exactly if the length is usable. -/
theorem bodyEnd?_eq (h : Bytes) :
    ((Utf8.decode? h).bind contentLength?).bind (indexSum? (h.length + terminatorLength)) =
      (usableLength? h).map (h.length + terminatorLength + ·) := by
  rw [usableLength?]
  cases (Utf8.decode? h).bind contentLength? with
  | none => rfl
  | some n =>
    simp only [Option.bind_some, indexSum?, Option.filter_some, decide_eq_true_eq]
    split <;> rfl

/-- **A round by indices finds what stands at the front.** -/
theorem frontAt_eq {b : Bytes} (hb : b.length ≤ Decimal.max64) : frontAt b = .ok (front b) := by
  cases hsplit : splitBlock b with
  | none => rw [frontAt, blankIndex?_of_splitBlock_none hsplit, front, hsplit]
  | some p =>
    obtain ⟨h, rest⟩ := p
    obtain ⟨hwhole, -⟩ := splitBlock_eq_some_iff.mp hsplit
    have hlength := length_of_splitBlock hsplit
    have hstart : indexSum h.length terminatorLength = .ok (h.length + terminatorLength) := by
      have hfits : h.length + terminatorLength ≤ Decimal.max64 := by
        rw [terminatorLength]
        omega
      rw [indexSum, indexSum?, if_pos hfits]
    have hheader : slice b 0 h.length = .ok h :=
      slice_eq [] h (blankLine ++ rest) (by rw [hwhole]; simp) rfl (Nat.zero_add _)
    have hlead : (h ++ blankLine).length = h.length + terminatorLength := List.length_append
    rw [frontAt, blankIndex?_of_splitBlock hsplit, front, hsplit]
    simp only [hstart, hheader, bodyEnd?_eq, bind, Except.bind]
    cases husable : usableLength? h with
    | none =>
      have hrest : discard b (h.length + terminatorLength) = .ok rest := discard_eq hwhole hlead
      simp only [Option.map_none, hrest]
      rfl
    | some n =>
      simp only [Option.map_some]
      by_cases hshort : rest.length < n
      · have hshort' : b.length < h.length + terminatorLength + n := by
          rw [terminatorLength]
          omega
        rw [if_pos hshort, if_pos hshort']
        rfl
      · have hlong : ¬ b.length < h.length + terminatorLength + n := by
          rw [terminatorLength]
          omega
        obtain ⟨hbody, hrest⟩ := slice_take hwhole hlead (Nat.not_lt.mp hshort)
        rw [if_neg hshort, if_neg hlong]
        simp only [hbody, hrest]
        rfl

/-! ## What a round takes off -/

/-- What is left of a buffer is its end, and at least the four octets of a blank line have gone from
its front. -/
def Shortens (b rest : Bytes) : Prop := ∃ gone, b = gone ++ rest ∧ 4 ≤ gone.length

theorem Shortens.suffix {b rest : Bytes} (h : Shortens b rest) : rest <:+ b := by
  obtain ⟨gone, rfl, -⟩ := h
  exact List.suffix_append gone rest

theorem Shortens.length {b rest : Bytes} (h : Shortens b rest) : rest.length + 4 ≤ b.length := by
  obtain ⟨gone, rfl, hfour⟩ := h
  rw [List.length_append]
  omega

/-- What a decided front leaves. -/
def Front.rest? : Front → Option Bytes
  | .unfinished => none
  | .unusable rest => some rest
  | .frame _ rest => some rest

/-- A round that goes on or returns a body takes a whole segment off the front. -/
theorem shortens_of_front {b rest : Bytes} (h : (front b).rest? = some rest) :
    Shortens b rest := by
  rcases unfinished_or_segment b with hopen | ⟨s, hs, later, hb⟩
  · rw [hopen.front_eq] at h
    cases h
  · rw [hb, hs.front_eq] at h
    have hlater : later = rest := by
      cases s <;> exact Option.some.inj h
    exact ⟨s.octets, hlater ▸ hb, s.four_le_length⟩

theorem shortens_of_unusable {b rest : Bytes} (h : front b = .unusable rest) :
    Shortens b rest := shortens_of_front (by rw [h]; rfl)

theorem shortens_of_frame {b body rest : Bytes} (h : front b = .frame body rest) :
    Shortens b rest := shortens_of_front (by rw [h]; rfl)

theorem Shortens.append_left {b c rest : Bytes} (h : c <:+ b) (hc : Shortens c rest) :
    Shortens b rest := by
  obtain ⟨lead, rfl⟩ := h
  obtain ⟨gone, rfl, hfour⟩ := hc
  refine ⟨lead ++ gone, (List.append_assoc ..).symm, ?_⟩
  rw [List.length_append]
  omega

/-- A body that is returned has gone from the front, and its blank line with it. -/
theorem shortens_of_next? {b rest : Bytes} {body : String} (h : next? b = (some body, rest)) :
    Shortens b rest := by
  fun_induction next? b with
  | case1 b hfront => cases h
  | case2 b r hfront ih => exact (ih h).append_left (shortens_of_unusable hfront).suffix
  | case3 b octets r hfront =>
    cases h
    exact shortens_of_frame hfront

theorem next?_suffix (b : Bytes) : (next? b).2 <:+ b := by
  fun_induction next? b with
  | case1 b hfront => exact List.suffix_rfl
  | case2 b rest hfront ih => exact ih.trans (shortens_of_unusable hfront).suffix
  | case3 b body rest hfront => exact (shortens_of_frame hfront).suffix

theorem drain_suffix (b : Bytes) : (drain b).2 <:+ b := by
  fun_induction drain b with
  | case1 b hfront => exact List.suffix_rfl
  | case2 b rest hfront ih => exact ih.trans (shortens_of_unusable hfront).suffix
  | case3 b body rest hfront p ih => exact ih.trans (shortens_of_frame hfront).suffix

/-- Every body that is taken costs four octets. -/
theorem length_drain (b : Bytes) : 4 * (drain b).1.length + (drain b).2.length ≤ b.length := by
  fun_induction drain b with
  | case1 b hfront => simp
  | case2 b rest hfront ih =>
    have := (shortens_of_unusable hfront).length
    omega
  | case3 b body rest hfront p ih =>
    have := (shortens_of_frame hfront).length
    have htaken : 4 * (drain rest).1.length + (drain rest).2.length ≤ rest.length := ih
    show 4 * ((drain rest).1.length + 1) + (drain rest).2.length ≤ b.length
    omega

/-- Where no body is found, the search stands in front of what it cannot decide yet. -/
theorem next?_of_none {b rest : Bytes} (h : next? b = (none, rest)) :
    next? rest = (none, rest) := by
  fun_induction next? b with
  | case1 b hfront =>
    cases h
    exact next?_of_unfinished hfront
  | case2 b r hfront ih => exact ih h
  | case3 b body r hfront => cases h

/-! ## The loops -/

/-- **The first body is found if there are more rounds than a quarter of the octets.** -/
theorem nextWithin_eq {b : Bytes} (hb : b.length ≤ Decimal.max64) {rounds : Nat}
    (hrounds : b.length / 4 < rounds) : nextWithin rounds b = .ok (next? b) := by
  induction rounds generalizing b with
  | zero => exact absurd hrounds (Nat.not_lt_zero _)
  | succ rounds ih =>
    rw [nextWithin, frontAt_eq hb]
    cases hfront : front b with
    | unfinished => rw [next?_of_unfinished hfront]
    | unusable rest =>
      have := (shortens_of_unusable hfront).length
      rw [next?_of_unusable hfront]
      exact ih (by omega) (by omega)
    | frame body rest => rw [next?_of_frame hfront]

/-- The messages of a buffer, one body at a time. -/
theorem takeMessages_of_next? (b : Bytes) :
    takeMessages b =
      match next? b with
      | (none, rest) => ([], rest)
      | (some body, rest) =>
        ((messageOf? body).toList ++ (takeMessages rest).1, (takeMessages rest).2) := by
  simp only [takeMessages_eq, ← takeAll_eq_drain]
  cases hnext : next? b with
  | mk found rest =>
    cases found with
    | none =>
      rw [takeAll_of_none hnext]
      rfl
    | some body =>
      show _ = ((messageOf? body).toList ++ (takeAll rest).1.filterMap messageOf?, (takeAll rest).2)
      rw [takeAll_of_some hnext, List.filterMap_cons]
      cases messageOf? body with
      | none => simp only [Option.toList_none, List.nil_append]
      | some message => simp only [Option.toList_some, List.singleton_append]

/-- **All messages are taken if there are as many calls, each of as many rounds.** -/
theorem messagesWithin_eq {b : Bytes} (hb : b.length ≤ Decimal.max64) {rounds calls : Nat}
    (hrounds : b.length / 4 < rounds) (hcalls : b.length / 4 < calls) :
    messagesWithin rounds calls b = .ok (takeMessages b) := by
  induction calls generalizing b with
  | zero => exact absurd hcalls (Nat.not_lt_zero _)
  | succ calls ih =>
    rw [messagesWithin, nextWithin_eq hb hrounds, takeMessages_of_next?]
    cases hnext : next? b with
    | mk found rest =>
      cases found with
      | none => rfl
      | some body =>
        have := (shortens_of_next? hnext).length
        have hothers : messagesWithin rounds calls rest = .ok (takeMessages rest) :=
          ih (by omega) (by omega) (by omega)
        simp only [hothers]

/-- What can be relied on while a buffer is read. -/
structure Reliable (b : Bytes) : Prop where
  /-- No range is outside, no sum is too great and no loop goes on: with indices, the answers are
  the same. An index of 64 bits has to reach the end of the buffer, as it does in memory. -/
  next : b.length ≤ Decimal.max64 → ∀ rounds, b.length / 4 < rounds →
    nextWithin rounds b = .ok (next? b)
  messages : b.length ≤ Decimal.max64 → ∀ rounds calls, b.length / 4 < rounds →
    b.length / 4 < calls → messagesWithin rounds calls b = .ok (takeMessages b)
  skips : ∀ rest, front b = .unusable rest → Shortens b rest
  returns : ∀ body rest, next? b = (some body, rest) → Shortens b rest
  frames : (drain b).1.length ≤ b.length / 4
  left : (next? b).2 <:+ b ∧ (takeMessages b).2 <:+ b
  rests : ∀ rest, next? b = (none, rest) → next? rest = (none, rest)

/-- **A buffer can be read whatever it holds.** -/
theorem buffer_reliable (b : Bytes) : Reliable b where
  next hb _ hrounds := nextWithin_eq hb hrounds
  messages hb _ _ hrounds hcalls := messagesWithin_eq hb hrounds hcalls
  skips _ h := shortens_of_unusable h
  returns _ _ h := shortens_of_next? h
  frames := by
    have := length_drain b
    omega
  left := ⟨next?_suffix b, drain_suffix b⟩
  rests _ h := next?_of_none h

/-- A header block whose length is an index, but not one at which a frame can end. -/
def hugeBlock : Bytes := Utf8.ofString "Content-Length: 18446744073709551615"

/-- Two frames, the first with a body that is no JSON, and one that stays incomplete however much
arrives. -/
def laterFrames : Bytes :=
  Utf8.ofString "Content-Length: 1\r\n\r\n]Content-Length: 2\r\n\r\n\x7b\x7d" ++
    Utf8.ofString "Content-Length: 18446744073709551571\r\n\r\n"

theorem buffer_reliable_huge :
    let b := hugeBlock ++ blankLine ++ laterFrames
    b.length ≤ Decimal.max64 ∧ b.length / 4 < 40 ∧
      nextWithin 40 b = .ok (next? b) ∧ messagesWithin 40 40 b = .ok (takeMessages b) ∧
      front b = .unusable laterFrames ∧ Shortens b laterFrames := by
  intro b
  have hfits : b.length ≤ Decimal.max64 := by decide +kernel
  have hrounds : b.length / 4 < 40 := by decide +kernel
  have hsplit : splitBlock b = some (hugeBlock, laterFrames) := by decide +kernel
  have hunusable : usableLength? hugeBlock = none := by decide +kernel
  have hskip : front b = .unusable laterFrames := by
    simp only [front, hsplit, hunusable]
  exact ⟨hfits, hrounds, (buffer_reliable b).next hfits 40 hrounds,
    (buffer_reliable b).messages hfits 40 40 hrounds hrounds, hskip,
    (buffer_reliable b).skips laterFrames hskip⟩

end KatakanaLsp.Wire
