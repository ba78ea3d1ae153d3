import KatakanaLsp.Proofs.Text.Utf8
import KatakanaLsp.Proofs.Wire.Drain

/-!
# The grammar of a watched stream

`next?` and `drain` read a buffer in a loop: search, skip, wait or take. This file gives the same
stream a grammar. A stream is a list of segments, each a header block with its blank line and, if
the block is usable, the body whose length it gives; behind them stands a rest in which no segment
is complete (`IsSplit`).

> `exists_isSplit`: every stream has a split.

> `IsSplit.unique`: it has only one.

> `IsSplit.drain_eq`: what the decoder takes from a buffer are the bodies of its split, and it
> leaves the rest.

The three come from one case distinction, `unfinished_or_segment`: the front of a buffer is read as
what the grammar says stands there. Whether a block is usable is asked of the block alone, so that
the front segment of a split is determined by the octets (`Segment.Valid.front_eq`), and the whole
split with it.
-/

namespace KatakanaLsp.Wire

/-! ## The grammar -/

/-- A header block is usable with a length: it is the encoding of a text, the text gives the length,
and the frame ends at an index of 64 bits. -/
def Usable (h : Bytes) (n : Nat) : Prop :=
  ∃ text, h = Utf8.encode text ∧ contentLength? text = some n ∧ h.length + 4 + n ≤ Decimal.max64

/-- A complete piece of a stream. -/
inductive Segment where
  | skipped (block : Bytes)
  | frame (block body : Bytes)
  deriving DecidableEq, Repr

namespace Segment

/-- The octets of a segment. -/
def octets : Segment → Bytes
  | skipped block => block ++ blankLine
  | frame block body => block ++ blankLine ++ body

/-- The body of a segment, as text. -/
def body? : Segment → Option String
  | skipped _ => none
  | frame _ body => some (Utf8.toStringLossy body)

/-- A block is skipped only if it is not usable; behind a usable block stands a body of exactly the
length it gives. -/
def Valid : Segment → Prop
  | skipped block => IsBlock block ∧ ¬ ∃ n, Usable block n
  | frame block body => IsBlock block ∧ Usable block body.length

end Segment

/-- Octets in which no segment is complete: no blank line has come, or a usable block waits for the
rest of its body. -/
def Unfinished (b : Bytes) : Prop :=
  (∀ i, ¬ BlankAt b i) ∨
  ∃ block n part, b = block ++ blankLine ++ part ∧ IsBlock block ∧ Usable block n ∧ part.length < n

/-- A stream is the octets of valid segments and an unfinished rest. -/
structure IsSplit (stream : Bytes) (segments : List Segment) (rest : Bytes) : Prop where
  whole : stream = segments.flatMap Segment.octets ++ rest
  valid : ∀ s ∈ segments, s.Valid
  unfinished : Unfinished rest

/-! ## The front of a buffer -/

theorem usableLength?_eq_some_iff {h : Bytes} {n : Nat} :
    usableLength? h = some n ↔ Usable h n := by
  rw [usableLength?, Option.filter_eq_some_iff, Option.bind_eq_some_iff]
  constructor
  · rintro ⟨⟨text, htext, hlength⟩, hfits⟩
    exact ⟨text, Utf8.decode?_eq_some_iff.mp htext, hlength, of_decide_eq_true hfits⟩
  · rintro ⟨text, htext, hlength, hfits⟩
    exact ⟨⟨text, Utf8.decode?_eq_some_iff.mpr htext, hlength⟩, decide_eq_true hfits⟩

theorem usableLength?_eq_none_iff {h : Bytes} :
    usableLength? h = none ↔ ¬ ∃ n, Usable h n := by
  simp only [← usableLength?_eq_some_iff, Option.eq_none_iff_forall_ne_some, not_exists, ne_eq]

/-- What the decoder finds at the front of a segment: the body if it has one, and what follows. -/
def Segment.front (later : Bytes) : Segment → Front
  | skipped _ => .unusable later
  | frame _ body => .frame body later

/-- **A valid segment in front is read as what it is.** -/
theorem Segment.Valid.front_eq {s : Segment} (hs : s.Valid) (later : Bytes) :
    Wire.front (s.octets ++ later) = s.front later := by
  cases s with
  | skipped block =>
    have hsplit : splitBlock ((skipped block).octets ++ later) = some (block, later) :=
      splitBlock_eq_some_iff.mpr ⟨rfl, hs.1⟩
    simp only [Wire.front, hsplit, usableLength?_eq_none_iff.mpr hs.2, Segment.front]
  | frame block body =>
    have hsplit : splitBlock ((frame block body).octets ++ later) = some (block, body ++ later) :=
      splitBlock_eq_some_iff.mpr ⟨List.append_assoc .., hs.1⟩
    have hlong : ¬ (body ++ later).length < body.length := by
      rw [List.length_append]
      omega
    simp only [Wire.front, hsplit, usableLength?_eq_some_iff.mpr hs.2, if_neg hlong,
      List.take_left, List.drop_left, Segment.front]

/-- Of a segment that has not arrived in full nothing is taken. -/
theorem Segment.Valid.drain_part {s : Segment} (hs : s.Valid) {part missing : Bytes}
    (hpart : part ++ missing = s.octets) (hmissing : missing ≠ []) : drain part = ([], part) := by
  apply drain_of_unfinished
  refine Classical.not_not.mp fun hdecided => ?_
  -- a front that is decided would stay so, but the whole segment leaves nothing behind it
  have hwhole := front_append hdecided missing
  have hsegment := hs.front_eq []
  rw [List.append_nil, ← hpart, hwhole] at hsegment
  cases hfront : Wire.front part with
  | unfinished => exact hdecided hfront
  | unusable rest =>
    rw [hfront] at hsegment
    cases s with
    | skipped block =>
      injection hsegment with hrest
      exact hmissing (List.append_eq_nil_iff.mp hrest).2
    | frame block body => cases hsegment
  | frame body rest =>
    rw [hfront] at hsegment
    cases s with
    | skipped block => cases hsegment
    | frame block body =>
      injection hsegment with _ hrest
      exact hmissing (List.append_eq_nil_iff.mp hrest).2

theorem Unfinished.front_eq {b : Bytes} (hb : Unfinished b) : front b = .unfinished := by
  rcases hb with hnone | ⟨block, n, part, rfl, hblock, husable, hshort⟩
  · rw [front, splitBlock_eq_none_iff.mpr hnone]
  · have hsplit : splitBlock (block ++ blankLine ++ part) = some (block, part) :=
      splitBlock_eq_some_iff.mpr ⟨rfl, hblock⟩
    simp only [front, hsplit, usableLength?_eq_some_iff.mpr husable, if_pos hshort]

/-- The front of a buffer is unfinished or a valid segment. -/
theorem unfinished_or_segment (b : Bytes) :
    Unfinished b ∨ ∃ s : Segment, s.Valid ∧ ∃ later, b = s.octets ++ later := by
  cases hsplit : splitBlock b with
  | none => exact Or.inl (Or.inl (splitBlock_eq_none_iff.mp hsplit))
  | some p =>
    obtain ⟨block, part⟩ := p
    obtain ⟨rfl, hblock⟩ := splitBlock_eq_some_iff.mp hsplit
    cases hlength : usableLength? block with
    | none =>
      have hunusable := usableLength?_eq_none_iff.mp hlength
      exact Or.inr ⟨.skipped block, ⟨hblock, hunusable⟩, part, rfl⟩
    | some n =>
      have husable := usableLength?_eq_some_iff.mp hlength
      rcases Nat.lt_or_ge part.length n with hshort | hlong
      · exact Or.inl (Or.inr ⟨block, n, part, rfl, hblock, husable, hshort⟩)
      · refine Or.inr ⟨.frame block (part.take n), ⟨hblock, ?_⟩, part.drop n, ?_⟩
        · rwa [List.length_take, Nat.min_eq_left hlong]
        · simp only [Segment.octets, List.append_assoc, List.take_append_drop]

/-- Every segment has the four octets of a blank line in it. -/
theorem Segment.four_le_length (s : Segment) : 4 ≤ s.octets.length := by
  cases s <;> simp only [octets, blankLine, List.length_append, List.length_cons] <;> omega

/-! ## Every stream has one split -/

/-- Every stream has a split: segments are taken off its front until it is unfinished. -/
theorem exists_isSplit (stream : Bytes) : ∃ segments rest, IsSplit stream segments rest := by
  rcases unfinished_or_segment stream with hopen | ⟨s, hs, later, hstream⟩
  · exact ⟨[], stream, rfl, by simp, hopen⟩
  · have hless : later.length < stream.length := by
      have := s.four_le_length
      rw [hstream, List.length_append]
      omega
    obtain ⟨segments, rest, hsplit⟩ := exists_isSplit later
    refine ⟨s :: segments, rest, ?_, ?_, hsplit.unfinished⟩
    · rw [hstream, List.flatMap_cons, List.append_assoc, ← hsplit.whole]
    · intro t ht
      rcases List.mem_cons.mp ht with rfl | ht'
      · exact hs
      · exact hsplit.valid t ht'
termination_by stream.length

/-- A split begins with a valid segment, and what follows is split by the others. -/
theorem IsSplit.tail {stream rest : Bytes} {s : Segment} {segments : List Segment}
    (h : IsSplit stream (s :: segments) rest) :
    s.Valid ∧ ∃ later, stream = s.octets ++ later ∧ IsSplit later segments rest := by
  refine ⟨h.valid s (List.mem_cons_self ..), segments.flatMap Segment.octets ++ rest, ?_, rfl,
    fun t ht => h.valid t (List.mem_cons_of_mem _ ht), h.unfinished⟩
  rw [h.whole, List.flatMap_cons, List.append_assoc]

/-- Valid segments in front of the same octets are the same. Their blocks end where the first blank
line begins; usability and length are those of the block. -/
theorem Segment.Valid.eq_of_append {s t : Segment} (hs : s.Valid) (ht : t.Valid)
    {later later' : Bytes} (h : s.octets ++ later = t.octets ++ later') :
    s = t ∧ later = later' := by
  have hfront : s.front later = t.front later' := by
    rw [← hs.front_eq, ← ht.front_eq, h]
  cases s with
  | skipped block =>
    cases t with
    | skipped block' =>
      exact ⟨by rw [(hs.1.eq_of_append ht.1 h).1], (hs.1.eq_of_append ht.1 h).2⟩
    | frame block' body' => cases hfront
  | frame block body =>
    cases t with
    | skipped block' => cases hfront
    | frame block' body' =>
      cases hfront
      have h' : block ++ blankLine ++ (body ++ later) = block' ++ blankLine ++ (body ++ later) := by
        simpa only [Segment.octets, List.append_assoc] using h
      rw [(hs.1.eq_of_append ht.1 h').1]
      exact ⟨rfl, rfl⟩

/-- **A stream has only one split.** -/
theorem IsSplit.unique {stream : Bytes} {segments others : List Segment} {rest last : Bytes}
    (h : IsSplit stream segments rest) (h' : IsSplit stream others last) :
    others = segments ∧ last = rest := by
  induction segments generalizing stream others with
  | nil =>
    have hstream : stream = rest := h.whole
    cases others with
    | nil => exact ⟨rfl, h'.whole.symm.trans hstream⟩
    | cons t others =>
      obtain ⟨ht, later, hlater, -⟩ := h'.tail
      -- a segment in front would make the stream finished there
      have hfront := h.unfinished.front_eq
      rw [← hstream, hlater, ht.front_eq] at hfront
      cases t <;> cases hfront
  | cons s segments ih =>
    obtain ⟨hs, later, hlater, htail⟩ := h.tail
    cases others with
    | nil =>
      have hfront := h'.unfinished.front_eq
      rw [show last = stream from h'.whole.symm, hlater, hs.front_eq] at hfront
      cases s <;> cases hfront
    | cons t others =>
      obtain ⟨ht, later', hlater', htail'⟩ := h'.tail
      obtain ⟨rfl, rfl⟩ := hs.eq_of_append ht (hlater.symm.trans hlater')
      obtain ⟨rfl, rfl⟩ := ih htail htail'
      exact ⟨rfl, rfl⟩

/-! ## The decoder follows the split -/

/-- **The bodies of a split are what the decoder takes, and its rest is what it leaves.** -/
theorem IsSplit.drain_eq {stream rest : Bytes} {segments : List Segment}
    (h : IsSplit stream segments rest) :
    drain stream = (segments.filterMap Segment.body?, rest) := by
  induction segments generalizing stream with
  | nil =>
    have hstream : stream = rest := h.whole
    rw [hstream, drain_of_unfinished h.unfinished.front_eq]
    rfl
  | cons s segments ih =>
    obtain ⟨hs, later, rfl, htail⟩ := h.tail
    have hfront := hs.front_eq later
    cases s with
    | skipped block =>
      rw [drain_of_unusable hfront, ih htail]
      rfl
    | frame block body =>
      rw [drain_of_frame hfront, ih htail]
      rfl

/-- **The decoder accepts exactly its grammar.** Every stream has one and only one split, and
taking bodies until there is none yields the bodies of that split and leaves its rest. -/
theorem takeAll_eq_of_unique_split (stream : Bytes) :
    ∃ segments rest, IsSplit stream segments rest ∧
      (∀ others last, IsSplit stream others last → others = segments ∧ last = rest) ∧
      takeAll stream = (segments.filterMap Segment.body?, rest) := by
  obtain ⟨segments, rest, h⟩ := exists_isSplit stream
  refine ⟨segments, rest, h, fun others last h' => h.unique h', ?_⟩
  rw [takeAll_eq_drain, h.drain_eq]

/-! ## Streams that have not arrived in full -/

/-- What has arrived of a stream of parts are some parts in full and one that is not, or nothing
more behind the last. -/
theorem exists_take_of_prefix {α : Type} (octets : α → Bytes) {parts : List α} {arrived : Bytes}
    (h : arrived <+: parts.flatMap octets) :
    ∃ k part, k ≤ parts.length ∧ arrived = (parts.take k).flatMap octets ++ part ∧
      (∀ p, parts[k]? = some p → ∃ missing, missing ≠ [] ∧ part ++ missing = octets p) ∧
      (k = parts.length → part = []) := by
  induction parts generalizing arrived with
  | nil =>
    obtain rfl := List.prefix_nil.mp h
    exact ⟨0, [], Nat.le_refl _, rfl, nofun, fun _ => rfl⟩
  | cons p parts ih =>
    rw [List.flatMap_cons] at h
    rcases Nat.lt_or_ge arrived.length (octets p).length with hshort | hlong
    · obtain ⟨missing, hpart⟩ :=
        List.prefix_of_prefix_length_le h (List.prefix_append _ _) (Nat.le_of_lt hshort)
      have hmissing : missing ≠ [] := by
        rintro rfl
        rw [← hpart, List.append_nil] at hshort
        exact Nat.lt_irrefl _ hshort
      refine ⟨0, arrived, Nat.zero_le _, rfl, ?_, nofun⟩
      rintro q hq
      obtain rfl := Option.some.inj hq
      exact ⟨missing, hmissing, hpart⟩
    · obtain ⟨more, rfl⟩ :=
        List.prefix_of_prefix_length_le (List.prefix_append _ _) h hlong
      obtain ⟨k, part, hk, rfl, hopen, hlast⟩ := ih ((List.prefix_append_right_inj _).mp h)
      refine ⟨k + 1, part, Nat.succ_le_succ hk, ?_, hopen, fun hall => hlast (Nat.succ.inj hall)⟩
      rw [List.take_succ_cons, List.flatMap_cons, List.append_assoc]

end KatakanaLsp.Wire
