import KatakanaLsp.Proofs.Text.Utf8
import KatakanaLsp.Proofs.Text.Walk
import KatakanaLsp.Protocol.Framing

/-!
# Header lines that are read back

A header line is written as its name, a colon, a space and its value. The strict reader takes such a
line for what it is if name and value keep within what it allows (`HeaderLine.Plain`), whatever
follows:

> `readLine_octets`: a plain line in front is read as that line.

> `readLines_octets`: plain lines with an empty one behind them are read as those lines, if there is
> room for them.

> `next_of_lines`: if their lines give the length of a body, the body behind them is read.
-/

namespace KatakanaLsp.Protocol.Framing

/-- The octets of a line break. -/
def lineEnd : Bytes := [13, 10]

/-- A line as it is written. -/
def HeaderLine.octets (l : HeaderLine) : Bytes := l.name ++ 58 :: 32 :: (l.value ++ lineEnd)

/-- A line whose name is a token and whose value has no control, and no padding at its ends. -/
structure HeaderLine.Plain (l : HeaderLine) : Prop where
  named : l.name ≠ []
  token : ∀ o ∈ l.name, isTokenOctet o = true
  visible : ∀ o ∈ l.value, isValueOctet o = true
  bareFront : l.value.dropWhile isPadding = l.value
  bareBack : l.value.reverse.dropWhile isPadding = l.value.reverse

theorem readLineEnd_lineEnd (rest : Bytes) : readLineEnd (lineEnd ++ rest) = .done () rest := rfl

/-- A plain line in front is read as that line. -/
theorem readLine_octets {l : HeaderLine} (h : l.Plain) (rest : Bytes) :
    readLine (l.octets ++ rest) = .done l rest := by
  have hwhole : l.octets ++ rest = l.name ++ 58 :: (32 :: l.value ++ 13 :: (10 :: rest)) := by
    simp [HeaderLine.octets, lineEnd]
  have hvisible : ∀ o ∈ 32 :: l.value, isValueOctet o = true := by
    intro o ho
    rcases List.mem_cons.mp ho with rfl | hin
    · rfl
    · exact h.visible o hin
  have hcolonStops : isTokenOctet 58 = false := rfl
  have hbreakStops : isValueOctet 13 = false := rfl
  obtain ⟨hname, hcolon⟩ := walk_stops h.token hcolonStops (32 :: l.value ++ 13 :: (10 :: rest))
  obtain ⟨hvalue, hend⟩ := walk_stops hvisible hbreakStops (10 :: rest)
  -- the space in front of the value is padding, and the rest of it has none
  have htrim : ((32 :: l.value).dropWhile isPadding).reverse.dropWhile isPadding
      = l.value.reverse := by
    rw [List.dropWhile_cons_of_pos rfl, h.bareFront, h.bareBack]
  have hgood : ¬ ((58 : UInt8) ≠ 58 ∨ l.name = []) := by
    rintro (hne | hnil)
    · exact hne rfl
    · exact h.named hnil
  have hbreak : readLineEnd (13 :: 10 :: rest) = .done () rest := readLineEnd_lineEnd rest
  simp only [readLine, hwhole, hname, hcolon, if_neg hgood, hvalue, hend, hbreak, htrim,
    List.reverse_reverse]

/-- **Plain lines with an empty one behind them are read as those lines**, if there is room. -/
theorem readLines_octets {lines : List HeaderLine} (h : ∀ l ∈ lines, l.Plain) {room : Nat}
    (hroom : lines.length ≤ room) (rest : Bytes) :
    readLines room (lines.flatMap HeaderLine.octets ++ (lineEnd ++ rest)) = .done lines rest := by
  induction lines generalizing room with
  | nil => cases room <;> rfl
  | cons l lines ih =>
    have hl := h l (List.mem_cons_self ..)
    cases room with
    | zero => exact absurd hroom (Nat.not_succ_le_zero _)
    | succ room =>
      have hothers := ih (fun m hm => h m (List.mem_cons_of_mem l hm))
        (Nat.le_of_succ_le_succ hroom)
      have hread := readLine_octets hl (lines.flatMap HeaderLine.octets ++ (lineEnd ++ rest))
      cases hname : l.name with
      | nil => exact absurd hname hl.named
      | cons c tail =>
        -- a name begins with an octet of a token, and so with no line break
        have hc : ¬ (c = 10 ∨ c = 13) := by
          have htoken := hl.token c (hname ▸ List.mem_cons_self ..)
          rintro (rfl | rfl) <;> exact absurd htoken (by decide)
        rw [List.flatMap_cons, List.append_assoc]
        rw [HeaderLine.octets, hname, List.cons_append, List.cons_append] at hread ⊢
        simp only [readLines, if_neg hc, hread, hothers]

/-- **A body behind plain lines that give its length is read.** -/
theorem next_of_lines {lines : List HeaderLine} (h : ∀ l ∈ lines, l.Plain)
    (hroom : lines.length ≤ maxLines) {body : List Char} (hbody : body ≠ [])
    (hlength : blockLength lines = .ok (Utf8.encode body).length) (later : Bytes) :
    next ⟨lines.flatMap HeaderLine.octets ++ (lineEnd ++ (Utf8.encode body ++ later)), none⟩ =
      .body body ⟨later, none⟩ := by
  have hlong : ¬ (Utf8.encode body ++ later).length < (Utf8.encode body).length := by
    rw [List.length_append]
    omega
  have hsome : ¬ (Utf8.encode body).length = 0 := by
    intro hzero
    exact hbody (Utf8.encode_eq_nil.mp (List.length_eq_zero_iff.mp hzero))
  simp only [next, readLines_octets h hroom, hlength, nextBody, if_neg hlong, if_neg hsome,
    List.take_left, List.drop_left, Utf8.decode?_encode]

end KatakanaLsp.Protocol.Framing
