import KatakanaLsp.Proofs.Text.Walk
import KatakanaLsp.Protocol.Framing

/-!
# Frames that arrive in pieces

The server reads whatever has arrived, and what it reads must not depend on where the octets were
cut. A part of a header block that can be read, or cannot be read at all, is so for good
(`readLines_append`), and a front that has to wait loses nothing by having waited: a header block
that was taken off early is the one that would have been read later (`next_extend`). From
both, by induction on what is drained,

> `drain_extend`: reading early, and then the rest together with later octets, reads what reading
> all at once does.

`readPieces` is the reader over a stream that arrives piece by piece; it says what is read from
each piece, and after a fault nothing is.
-/

namespace KatakanaLsp.Protocol.Framing

/-! ## Octets behind a header block -/

/-- What is read, with later octets behind it. -/
def Reading.append {α : Type} (later : Bytes) : Reading α → Reading α
  | .incomplete => .incomplete
  | .fault cause => .fault cause
  | .done value rest => .done value (rest ++ later)

theorem readLineEnd_append {b : Bytes} (h : readLineEnd b ≠ .incomplete) (later : Bytes) :
    readLineEnd (b ++ later) = (readLineEnd b).append later := by
  cases b with
  | nil => exact absurd rfl h
  | cons c rest =>
    by_cases hlf : c = 10
    · simp only [List.cons_append, readLineEnd, if_pos hlf, Reading.append]
    · by_cases hcr : c = 13
      · cases rest with
        | nil => exact absurd (by simp only [readLineEnd, if_neg hlf, if_pos hcr]) h
        | cons d rest =>
          by_cases hd : d = 10 <;>
            simp only [List.cons_append, readLineEnd, if_neg hlf, if_pos hcr, hd, if_true, if_false,
              Reading.append]
      · simp only [List.cons_append, readLineEnd, if_neg hlf, if_neg hcr, Reading.append]

theorem readLine_append {b : Bytes} (h : readLine b ≠ .incomplete) (later : Bytes) :
    readLine (b ++ later) = (readLine b).append later := by
  cases hname : b.dropWhile isTokenOctet with
  | nil => exact absurd (by simp only [readLine, hname]) h
  | cons c rest =>
    obtain ⟨htake, hdrop⟩ := walk_append hname later
    by_cases hc : c ≠ 58 ∨ b.takeWhile isTokenOctet = []
    · simp only [readLine, htake, hdrop, hname, if_pos hc, Reading.append]
    · cases hvalue : rest.dropWhile isValueOctet with
      | nil =>
        exact absurd (by simp only [readLine, hname, if_neg hc, hvalue, readLineEnd]) h
      | cons d tail =>
        obtain ⟨htake', hdrop'⟩ := walk_append hvalue later
        have hend : readLineEnd (d :: tail) ≠ .incomplete := by
          intro hend
          exact h (by simp only [readLine, hname, if_neg hc, hvalue, hend])
        have hlater := readLineEnd_append hend later
        rw [List.cons_append] at hlater
        simp only [readLine, htake, hdrop, htake', hdrop', hname, hvalue, if_neg hc, hlater]
        cases readLineEnd (d :: tail) <;> rfl

/-- An empty line ends a header block whatever follows. -/
theorem readLines_break_append {room : Nat} {c : UInt8} {rest : Bytes} (hc : c = 10 ∨ c = 13)
    (h : readLines room (c :: rest) ≠ .incomplete) (later : Bytes) :
    readLines room (c :: rest ++ later) = (readLines room (c :: rest)).append later := by
  have hend : readLineEnd (c :: rest) ≠ .incomplete := by
    intro hend
    exact h (by cases room <;> simp only [readLines, if_pos hc, hend])
  have hlater := readLineEnd_append hend later
  rw [List.cons_append] at hlater ⊢
  cases room <;> simp only [readLines, if_pos hc, hlater] <;>
    cases readLineEnd (c :: rest) <;> rfl

/-- **A header block that is read or refused is so whatever follows.** -/
theorem readLines_append {room : Nat} {b : Bytes} (h : readLines room b ≠ .incomplete)
    (later : Bytes) : readLines room (b ++ later) = (readLines room b).append later := by
  induction room generalizing b with
  | zero =>
    cases b with
    | nil => exact absurd (by rw [readLines]) h
    | cons c rest =>
      by_cases hc : c = 10 ∨ c = 13
      · exact readLines_break_append hc h later
      · have hline : readLine (c :: rest) ≠ .incomplete := by
          intro hline
          exact h (by simp only [readLines, if_neg hc, hline])
        have hlater := readLine_append hline later
        rw [List.cons_append] at hlater ⊢
        simp only [readLines, if_neg hc, hlater]
        cases readLine (c :: rest) <;> rfl
  | succ room ih =>
    cases b with
    | nil => exact absurd (by rw [readLines]) h
    | cons c rest =>
      by_cases hc : c = 10 ∨ c = 13
      · exact readLines_break_append hc h later
      · have hline : readLine (c :: rest) ≠ .incomplete := by
          intro hline
          exact h (by simp only [readLines, if_neg hc, hline])
        have hlater := readLine_append hline later
        rw [List.cons_append] at hlater ⊢
        simp only [readLines, if_neg hc, hlater] at h ⊢
        cases hread : readLine (c :: rest) with
        | incomplete => exact absurd hread hline
        | fault cause => rfl
        | done line tail =>
          -- behind the first line stand the others, for which there is one place less
          have hrest : readLines room tail ≠ .incomplete := by
            intro hrest
            exact h (by simp only [hread, hrest])
          simp only [Reading.append, ih hrest]
          cases readLines room tail <;> rfl

/-! ## Octets behind a body -/

@[simp] theorem Input.extend_nil (i : Input) : i.extend [] = i := by
  rw [extend, List.append_nil]

/-- What stands at the front, with later octets behind it. A front that waits may do so no
longer. -/
def Next.extend (later : Bytes) : Next → Next
  | .waiting i => next (i.extend later)
  | .emptyBody rest => .emptyBody (rest.extend later)
  | .body text rest => .body text (rest.extend later)
  | .fault cause => .fault cause

theorem nextBody_append (unread : Bytes) (n : Nat) (later : Bytes) :
    nextBody (unread ++ later) n = (nextBody unread n).extend later := by
  rcases Nat.lt_or_ge unread.length n with hshort | hlong
  · have hwait : nextBody unread n = .waiting ⟨unread, some n⟩ := by rw [nextBody, if_pos hshort]
    rw [hwait]
    rfl
  · have hlong' : ¬ (unread ++ later).length < n := by
      rw [List.length_append]
      omega
    rw [nextBody, nextBody, if_neg hlong', if_neg (Nat.not_lt.mpr hlong)]
    by_cases hn : n = 0
    · rw [if_pos hn, if_pos hn]
      rfl
    · rw [if_neg hn, if_neg hn, List.take_append_of_le_length hlong,
        List.drop_append_of_le_length hlong]
      cases Utf8.decode? (unread.take n) <;> rfl

/-- **Waiting loses nothing.** What stands at the front once more has arrived is what stood there
before, or, where that had to wait, what stands in front of the input it left. -/
theorem next_extend (i : Input) (later : Bytes) :
    next (i.extend later) = (next i).extend later := by
  obtain ⟨unread, expected⟩ := i
  cases expected with
  | some n => exact nextBody_append unread n later
  | none =>
    cases hread : readLines maxLines unread with
    | incomplete =>
      have hwait : next ⟨unread, none⟩ = .waiting ⟨unread, none⟩ := by simp only [next, hread]
      rw [hwait]
      rfl
    | fault cause =>
      have hlater := readLines_append (by rw [hread]; nofun) later
      rw [hread] at hlater
      simp only [Input.extend, next, hread, hlater, Reading.append, Next.extend]
    | done lines rest =>
      have hlater := readLines_append (by rw [hread]; nofun) later
      rw [hread] at hlater
      simp only [Input.extend, next, hread, hlater, Reading.append]
      cases blockLength lines with
      | error cause => rfl
      | ok n => exact nextBody_append rest n later

/-! ## Draining early -/

theorem drain_of_waiting {i j : Input} (h : next i = .waiting j) : drain i = ([], .waiting j) := by
  rw [drain]
  split <;> simp_all

theorem drain_of_emptyBody {i rest : Input} (h : next i = .emptyBody rest) :
    drain i = ([], .paused rest) := by
  rw [drain]
  split <;> simp_all

theorem drain_of_fault {i : Input} {cause : FrameFault} (h : next i = .fault cause) :
    drain i = ([], .fault cause) := by
  rw [drain]
  split <;> simp_all

theorem drain_of_body {i rest : Input} {text : List Char} (h : next i = .body text rest) :
    drain i = (text :: (drain rest).1, (drain rest).2) := by
  rw [drain]
  split <;> simp_all

/-- Inputs with the same front are drained alike. -/
theorem drain_congr {i j : Input} (h : next i = next j) : drain i = drain j := by
  rw [drain, drain]
  split <;> split <;> simp_all

/-- **Draining early takes nothing away and adds nothing**, as long as reading only waits. -/
theorem drain_extend {i j : Input} {bodies : List (List Char)} (h : drain i = (bodies, .waiting j))
    (later : Bytes) :
    drain (i.extend later) =
      (bodies ++ (drain (j.extend later)).1, (drain (j.extend later)).2) := by
  induction i using drain.induct generalizing bodies with
  | case1 i i' hnext =>
    rw [drain_of_waiting hnext] at h
    cases h
    have hlater := next_extend i later
    rw [hnext] at hlater
    exact drain_congr hlater
  | case2 i rest hnext =>
    rw [drain_of_emptyBody hnext] at h
    cases h
  | case3 i cause hnext =>
    rw [drain_of_fault hnext] at h
    cases h
  | case4 i text rest hnext ih =>
    rw [drain_of_body hnext] at h
    obtain ⟨rfl, hwait⟩ := Prod.mk.inj h
    have hlater := next_extend i later
    rw [hnext] at hlater
    rw [drain_of_body hlater, ih (Prod.ext rfl hwait), List.cons_append]

/-! ## A stream in pieces -/

/-- Octets that arrive where reading came to rest. After a fault nothing more is read. -/
def Rest.resume (data : Bytes) : Rest → List (List Char) × Rest
  | .waiting i => drain (i.extend data)
  | .paused i => drain (i.extend data)
  | .fault cause => ([], .fault cause)

/-- What is read from each piece of a stream as the pieces arrive, and where reading comes to rest
behind them. -/
def readPieces (why : Rest) : List Bytes → List (List (List Char)) × Rest
  | [] => ([], why)
  | piece :: pieces =>
    let now := why.resume piece
    let later := readPieces now.2 pieces
    (now.1 :: later.1, later.2)

end KatakanaLsp.Protocol.Framing
