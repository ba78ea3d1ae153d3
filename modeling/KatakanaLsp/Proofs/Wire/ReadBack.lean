import KatakanaLsp.Proofs.Json.Plain
import KatakanaLsp.Proofs.Text.Utf8
import KatakanaLsp.Proofs.Text.Walk
import KatakanaLsp.Proofs.Wire.Recording
import KatakanaLsp.Wire.Replay
import Mathlib.Data.List.Basic
import Mathlib.Data.List.TakeDrop

/-!
# A wire log is read back

Entries stand one behind the other in a wire log, and messages may hold anything: line feeds, heads
of entries, whole frames. The reader is not misled, for it takes each body by its length and knows
where all else ends.

> `readEntry?_octets`: an entry in front of any octets is read as what was recorded, up to exactly
> those octets.

> `readEntries?_octets`: by induction, any sequence of entries is read as what was recorded.

Nothing is searched for but the bracket behind the time and the line feed behind the head. The time
has digits and punctuation other than a bracket, and the head has no line feed. Bodies are compact
text, so that they have no line feed either, and a log has five of them for each entry
(`count_lf_octets`).
-/

namespace KatakanaLsp.Wire

open Files (Tree Path Location)

/-! ## Pieces of an entry -/

/-- A text in front is taken off. -/
theorem strip?_append (text : String) (rest : Bytes) :
    strip? text (Utf8.ofString text ++ rest) = some rest := by
  have hlead : (Utf8.ofString text).isPrefixOf (Utf8.ofString text ++ rest) = true :=
    List.isPrefixOf_iff_prefix.mpr (List.prefix_append _ _)
  simp only [strip?, hlead, if_true, List.drop_left]

/-- What is before the first octet to stop at is cut off. -/
theorem cutAt?_append {stop : UInt8} {lead : Bytes} (h : stop ∉ lead) (rest : Bytes) :
    cutAt? stop (lead ++ stop :: rest) = some (lead, rest) := by
  have hlead : ∀ o ∈ lead, (o != stop) = true := by
    intro o ho
    rw [bne_iff_ne]
    rintro rfl
    exact h ho
  have hstop : (stop != stop) = false := bne_self_eq_false stop
  obtain ⟨hfront, hrest⟩ := walk_stops (p := (· != stop)) hlead hstop rest
  rw [cutAt?, List.span_eq_takeWhile_dropWhile, hfront, hrest]

theorem readDirection?_append (d : Direction) (rest : Bytes) :
    readDirection? (Utf8.ofString d.arrow ++ rest) = some (d, rest) := by
  cases d with
  | incoming => rw [readDirection?, strip?_append]
  | outgoing =>
    -- the two arrows differ in their first octet
    have hother : strip? Direction.incoming.arrow (Utf8.ofString Direction.outgoing.arrow ++ rest)
        = none := rfl
    rw [readDirection?, hother, strip?_append]
    rfl

theorem kindNamed?_name (k : MessageKind) : kindNamed? (Utf8.ofString k.name) = some k := by
  cases k <;> rfl

/-- A digit as an octet keeps its number. -/
theorem toNat_digitOctet {n : Nat} {c : Char} (hc : c ∈ Decimal.digits n) :
    48 ≤ (UInt8.ofNat c.toNat).toNat ∧ (UInt8.ofNat c.toNat).toNat ≤ 57 ∧
      (UInt8.ofNat c.toNat).toNat = c.toNat := by
  have hrange := Decimal.toNat_range_of_isDigit (Decimal.isDigit_of_mem_digits hc)
  have hnat := Utf8.toNat_octet (show c.toNat < 256 by omega)
  omega

theorem encode_digits (n : Nat) :
    Utf8.encode (Decimal.digits n) = (Decimal.digits n).map fun c => UInt8.ofNat c.toNat := by
  apply Utf8.encode_ascii
  intro c hc
  have := Decimal.toNat_range_of_isDigit (Decimal.isDigit_of_mem_digits hc)
  omega

/-- The value of the octets of digits is that of the digits. -/
theorem foldl_digitOctets (n : Nat) :
    (Utf8.encode (Decimal.digits n)).foldl (fun m o => m * 10 + (o.toNat - 48)) 0 = n := by
  have hvalue : (Decimal.digits n).foldl (fun m c => m * 10 + ((UInt8.ofNat c.toNat).toNat - 48)) 0
      = Decimal.valueOf (Decimal.digits n) := by
    apply List.foldl_ext
    intro m c hc
    rw [(toNat_digitOctet hc).2.2, Decimal.digitValue]
  rw [encode_digits, List.foldl_map, hvalue, Decimal.valueOf_digits]

/-- A numeral in front of an octet that is no digit is read as its number. -/
theorem readLength?_append (n : Nat) {o : UInt8} (ho : o < 48) (rest : Bytes) :
    readLength? (Utf8.encode (Decimal.digits n) ++ o :: rest) = some (n, o :: rest) := by
  have hdigit : ∀ d ∈ Utf8.encode (Decimal.digits n),
      (decide (48 ≤ d) && decide (d ≤ 57)) = true := by
    intro d hd
    rw [encode_digits] at hd
    obtain ⟨c, hc, rfl⟩ := List.mem_map.mp hd
    obtain ⟨hlow, hhigh, -⟩ := toNat_digitOctet hc
    rw [Bool.and_eq_true, decide_eq_true_eq, decide_eq_true_eq]
    exact ⟨hlow, hhigh⟩
  have hstop : (decide (48 ≤ o) && decide (o ≤ 57)) = false := by
    rw [decide_eq_false (UInt8.not_le.mpr ho), Bool.false_and]
  obtain ⟨hfront, hrest⟩ := walk_stops (p := fun d => decide (48 ≤ d) && decide (d ≤ 57))
    hdigit hstop rest
  cases hdigits : Utf8.encode (Decimal.digits n) with
  | nil => exact absurd (Utf8.encode_eq_nil.mp hdigits) (Decimal.digits_ne_nil n)
  | cons d ds =>
    have hvalue := foldl_digitOctets n
    rw [hdigits] at hfront hrest hvalue
    simp only [readLength?, hfront, hrest, hvalue]

/-! ## One entry -/

/-- What an entry is read as. -/
def logged (e : Timestamp × Passage) : LoggedEntry :=
  ⟨Utf8.encode e.1.chars, e.2.direction, kindOf e.2.message, e.2.body⟩

/-- A time has digits and punctuation, and of brackets none. -/
theorem Timestamp.bracket_not_mem (t : Timestamp) : ']' ∉ t.chars := by
  have hpadded (width n : Nat) : ']' ∉ Decimal.padded width n := by
    intro h
    have := Decimal.isDigit_of_mem_padded h
    exact absurd this (by decide)
  simp [chars, hpadded]

theorem Timestamp.plain_chars (t : Timestamp) : Plain t.chars := by
  simp [chars, Decimal.plain_padded]

theorem bracket_encode : String.utf8EncodeChar ']' = [0x5D] := rfl

theorem lf_encode : String.utf8EncodeChar '\n' = [0x0A] := rfl

/-- The octets of an entry, piece by piece as they are read. -/
theorem Passage.octets_append (p : Passage) (time : Timestamp) (rest : Bytes) :
    p.octets time ++ rest =
      Utf8.ofString "[" ++ (Utf8.encode time.chars ++ 0x5D :: (Utf8.ofString " " ++
        (Utf8.ofString p.direction.arrow ++ (Utf8.ofString " " ++
        (Utf8.ofString (kindOf p.message).name ++ 0x0A :: (Utf8.ofString "Content-Length: " ++
        (Utf8.encode (Decimal.digits p.body.length) ++ (Utf8.ofString "\r\n\r\n" ++
        (p.body ++ (Utf8.ofString "\n\n" ++ rest)))))))))) := by
  simp only [octets, head, Utf8.ofString, Utf8.encode_append, Utf8.encode_cons,
    bracket_encode, lf_encode, List.append_assoc, List.cons_append, List.nil_append]
  rfl

/-- **An entry in front is read as what was recorded, and no further.** -/
theorem readEntry?_octets (e : Timestamp × Passage) (rest : Bytes) :
    readEntry? (e.2.octets e.1 ++ rest) = some (logged e, rest) := by
  have htime : 0x5D ∉ Utf8.encode e.1.chars := fun h =>
    e.1.bracket_not_mem ((Utf8.mem_encode (a := ']') (by decide)).mp h)
  have hname : 0x0A ∉ Utf8.ofString (kindOf e.2.message).name := by
    cases kindOf e.2.message <;> decide
  -- the carriage return behind the digits is where the numeral ends
  have hlength (tail : Bytes) : readLength? (Utf8.encode (Decimal.digits e.2.body.length) ++
      (Utf8.ofString "\r\n\r\n" ++ tail)) =
        some (e.2.body.length, Utf8.ofString "\r\n\r\n" ++ tail) :=
    readLength?_append _ (by decide) _
  have hlong (tail : Bytes) : ¬ (e.2.body ++ tail).length < e.2.body.length := by
    rw [List.length_append]
    omega
  rw [Passage.octets_append]
  unfold readEntry?
  simp only [strip?_append, cutAt?_append htime, readDirection?_append,
    cutAt?_append hname, kindNamed?_name, hlength, Option.bind_eq_bind, Option.bind_some,
    if_neg (hlong _), List.take_left, List.drop_left]
  rfl

/-! ## Line feeds -/

/-- A body is compact text, which has no line feed. -/
theorem Passage.lf_not_mem_body (p : Passage) : 0x0A ∉ p.body := fun h =>
  (Json.plain_chars _).lf_not_mem ((Utf8.mem_encode (a := '\n') (by decide)).mp h)

/-- Nor has it a carriage return. -/
theorem Passage.cr_not_mem_body (p : Passage) : 0x0D ∉ p.body := fun h =>
  (Json.plain_chars _).cr_not_mem ((Utf8.mem_encode (a := '\r') (by decide)).mp h)

theorem Passage.plain_head (p : Passage) (time : Timestamp) : Plain (p.head time) := by
  have harrow : Plain p.direction.arrow.toList := by
    cases p.direction <;> simp [Direction.arrow]
  have hname : Plain (kindOf p.message).name.toList := by
    cases kindOf p.message <;> simp [MessageKind.name]
  simp [head, time.plain_chars, harrow, hname]

/-- An entry has five line feeds: one behind its head, two behind the length, two behind the
body. -/
theorem Passage.count_lf_octets (p : Passage) (time : Timestamp) :
    (p.octets time).count 0x0A = 5 := by
  have hfront (s : List Char) : (Utf8.encode s).count 0x0A = s.count '\n' :=
    Utf8.count_encode (a := '\n') (by decide) s
  have hhead : (p.head time).count '\n' = 0 :=
    List.count_eq_zero.mpr (p.plain_head time).lf_not_mem
  have hdigits : (Decimal.digits p.body.length).count '\n' = 0 :=
    List.count_eq_zero.mpr (Decimal.plain_digits _).lf_not_mem
  have hbody : p.body.count 0x0A = 0 := List.count_eq_zero.mpr p.lf_not_mem_body
  have hlabel : ('\n' :: "Content-Length: ".toList).count '\n' = 1 := by decide
  have hbreaks : "\r\n\r\n".toList.count '\n' = 2 := by decide
  have hend : (Utf8.ofString "\n\n").count 0x0A = 2 := by decide
  rw [octets, List.count_append, List.count_append, hfront, List.count_append, List.count_append,
    List.count_append, hhead, hlabel, hdigits, hbreaks, hbody, hend]

/-- A log has five line feeds for each entry. -/
theorem count_lf_octets (entries : Entries) :
    (Entries.octets entries).count 0x0A = 5 * entries.length := by
  induction entries with
  | nil => rfl
  | cons e entries ih =>
    rw [Entries.octets, List.flatMap_cons, List.count_append, e.2.count_lf_octets, ← Entries.octets,
      ih, List.length_cons]
    omega

/-! ## The whole log -/

theorem readEntries?_cons {b rest : Bytes} {e : LoggedEntry} (h : readEntry? b = some (e, rest))
    (fuel : Nat) : readEntries? (fuel + 1) b = (readEntries? fuel rest).map (e :: ·) := by
  cases b with
  | nil => cases h
  | cons o b => simp only [readEntries?, h]

/-- **Entries one behind the other are read as what was recorded.** -/
theorem readEntries?_octets (entries : Entries) {fuel : Nat} (hfuel : entries.length ≤ fuel) :
    readEntries? fuel (Entries.octets entries) = some (entries.map logged) := by
  induction entries generalizing fuel with
  | nil => cases fuel <;> rfl
  | cons e entries ih =>
    cases fuel with
    | zero => exact absurd hfuel (by simp)
    | succ fuel =>
      have hothers := ih (Nat.le_of_succ_le_succ hfuel)
      have hfirst := readEntry?_octets e (Entries.octets entries)
      show readEntries? (fuel + 1) (e.2.octets e.1 ++ Entries.octets entries) = _
      rw [readEntries?_cons hfirst, hothers]
      rfl

/-- The fuel of the reader is enough: an entry has octets, five line feeds among them. -/
theorem readLog?_octets (entries : Entries) :
    readLog? (Entries.octets entries) = some (entries.map logged) := by
  have hfive := count_lf_octets entries
  have hcount := List.count_le_length (a := (0x0A : UInt8)) (l := Entries.octets entries)
  exact readEntries?_octets entries (by omega)

/-! ## The file -/

/-- What an entry says beside its time: direction, kind and the text of the message. -/
def LoggedEntry.gist (e : LoggedEntry) : Direction × MessageKind × String :=
  (e.direction, e.kind, Utf8.toStringLossy e.body)

/-- What there is to say of a message beside the time. -/
def Passage.gist (p : Passage) : Direction × MessageKind × String :=
  (p.direction, kindOf p.message, p.message.canonical.text)

theorem gist_logged (e : Timestamp × Passage) : (logged e).gist = e.2.gist := by
  have hbody : Utf8.toStringLossy e.2.body = e.2.message.canonical.text :=
    Utf8.toStringLossy_encode _
  simp only [LoggedEntry.gist, Passage.gist, logged, hbody]

/-- The octets of a log are enough to tell what was recorded. -/
theorem gist_of_octets {entries others : Entries}
    (h : Entries.octets others = Entries.octets entries) :
    others.map (·.2.gist) = entries.map (·.2.gist) := by
  have hread := readLog?_octets others
  rw [h, readLog?_octets, Option.some.injEq] at hread
  have hgists := congrArg (List.map LoggedEntry.gist) hread
  rw [List.map_map, List.map_map] at hgists
  simpa only [Function.comp_def, gist_logged] using hgists.symm

theorem Passage.body_eq (p : Passage) : p.body = Utf8.ofString p.message.canonical.text := by
  rw [Utf8.ofString, Json.text, String.toList_ofList]
  rfl

/-- **A log is unambiguous.** Whatever is recorded in a fresh file is read back in order: direction,
kind, and as body the compact text with its length in octets. No body holds a line feed or a
carriage return, so that each entry adds five line feeds. What else makes the same file has the same
directions, kinds and texts. -/
theorem readLog?_recordAll {path : Path} {file : Location} {t : Tree}
    (hfresh : t.content? file = some []) (entries : Entries) :
    let written (es : Entries) :=
      (Logger.on path file).recorded ((Logger.on path file).recordAll t es)
    readLog? (written entries) = some (entries.map logged) ∧
      (∀ e ∈ entries, (logged e).body = Utf8.ofString e.2.message.canonical.text ∧
        (logged e).body.length = e.2.message.canonical.text.utf8ByteSize ∧
        0x0A ∉ (logged e).body ∧ 0x0D ∉ (logged e).body) ∧
      (written entries).count 0x0A = 5 * entries.length ∧
      ∀ others, written others = written entries →
        others.map (·.2.gist) = entries.map (·.2.gist) := by
  intro written
  have hwritten (es : Entries) : written es = Entries.octets es := by
    show (((Logger.on path file).recordAll t es).content? file).getD [] = Entries.octets es
    rw [Logger.content?_recordAll, hfresh]
    rfl
  refine ⟨?_, ?_, ?_, ?_⟩
  · rw [hwritten]
    exact readLog?_octets entries
  · intro e _
    refine ⟨e.2.body_eq, ?_, e.2.lf_not_mem_body, e.2.cr_not_mem_body⟩
    exact Utf8.length_encode _
  · rw [hwritten]
    exact count_lf_octets entries
  · intro others h
    rw [hwritten, hwritten] at h
    exact gist_of_octets h

/-- A tree with an empty file in it. -/
def freshTree : Tree := Tree.empty.put [Utf8.ofString "wire.log"] (.file [] 0)

/-- A message whose text looks like the end of its entry and the head of another. -/
def deceptive : Passage :=
  ⟨.incoming, .object [("method", .string "\n\n[] >>> RESPONSE\n")]⟩

theorem readLog?_deceptive :
    freshTree.content? [Utf8.ofString "wire.log"] = some [] ∧
      let l := Logger.on (.ofString "wire.log") [Utf8.ofString "wire.log"]
      let written := l.recorded (l.recordAll freshTree
        [(⟨2024, 1, 2, 3, 4, 5, 6⟩, deceptive), (⟨2024, 1, 2, 3, 4, 5, 7⟩, deceptive)])
      (readLog? written).map (List.map LoggedEntry.gist) =
        some (List.replicate 2 (.incoming, .notification,
          "\x7b\"method\":\"\\n\\n[] >>> RESPONSE\\n\"\x7d")) ∧
      written.count 0x0A = 10 := by
  have hfresh : freshTree.content? [Utf8.ofString "wire.log"] = some [] := rfl
  obtain ⟨hread, -, hfive, -⟩ := @readLog?_recordAll (.ofString "wire.log") _ _ hfresh
    [(⟨2024, 1, 2, 3, 4, 5, 6⟩, deceptive), (⟨2024, 1, 2, 3, 4, 5, 7⟩, deceptive)]
  refine ⟨hfresh, ?_, hfive⟩
  rw [hread]
  simp only [Option.map_some, List.map_cons, List.map_nil, gist_logged]
  rfl

end KatakanaLsp.Wire
