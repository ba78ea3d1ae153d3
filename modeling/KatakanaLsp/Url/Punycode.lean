/-!
# Punycode

The spelling of a host label beyond ASCII in letters, digits and hyphens (RFC 3492): the ASCII
characters of the label come first, and every other one is written as the number of steps from the
one before it, in numerals whose digits have thresholds that adapt to the sizes seen so far.
-/

namespace KatakanaLsp.Url.Punycode

/-- The character of a digit below 36: letters first, then the decimal digits. -/
def digit (d : Nat) : Char := Char.ofNat (if d < 26 then 0x61 + d else 0x30 + (d - 26))

/-- The threshold of the digit whose place is `k` (36, 72, …). -/
def threshold (k bias : Nat) : Nat :=
  if k ≤ bias then 1 else if bias + 26 ≤ k then 26 else k - bias

theorem threshold_pos (k bias : Nat) : 1 ≤ threshold k bias := by
  unfold threshold; split
  · omega
  · split <;> omega

/-- A step count in digits with thresholds. Each division leaves less, for no threshold is zero. -/
def numeral (bias k q : Nat) : List Char :=
  let t := threshold k bias
  if q < t then [digit q]
  else digit (t + (q - t) % (36 - t)) :: numeral bias (k + 36) ((q - t) / (36 - t))
termination_by q
decreasing_by
  have := threshold_pos k bias
  calc (q - threshold k bias) / (36 - threshold k bias)
      ≤ q - threshold k bias := Nat.div_le_self _ _
    _ < q := by omega

/-- Divides a step count until it is at most 455, counting the divisions. -/
def scale (delta k : Nat) : Nat × Nat :=
  if 455 < delta then scale (delta / 35) (k + 36) else (delta, k)
termination_by delta
decreasing_by exact Nat.div_lt_self (by omega) (by omega)

/-- The bias that follows a step count, when `count` characters are written. -/
def adapt (delta count : Nat) (first : Bool) : Nat :=
  let d := if first then delta / 700 else delta / 2
  let (d, k) := scale (d + d / count) 0
  k + 36 * d / (d + 38)

/-- What is written so far, the steps since, the bias, and how many characters are written. -/
structure Progress where
  written : List Char
  delta : Nat
  bias : Nat
  count : Nat

/-- Passes over one character of the label in the round for the code point `m`. -/
def pass (ascii m : Nat) (p : Progress) (c : Char) : Progress :=
  if c.toNat < m then { p with delta := p.delta + 1 }
  else if c.toNat = m then
    { written := p.written ++ numeral p.bias 36 p.delta
      delta := 0
      bias := adapt p.delta (p.count + 1) (p.count == ascii)
      count := p.count + 1 }
  else p

/-- One round for each code point beyond ASCII, in ascending order; `n` is the next code point that
no round has dealt with. -/
def rounds (label : List Char) (ascii : Nat) : List Nat → Nat → Progress → Progress
  | [], _, p => p
  | m :: rest, n, p =>
    let p := { p with delta := p.delta + (m - n) * (p.count + 1) }
    let p := label.foldl (pass ascii m) p
    rounds label ascii rest (m + 1) { p with delta := p.delta + 1 }

/-- Adds a number to a sorted list, unless it is there already. -/
def insertSorted (x : Nat) : List Nat → List Nat
  | [] => [x]
  | y :: rest =>
    if x < y then x :: y :: rest
    else if x = y then y :: rest
    else y :: insertSorted x rest

/-- The spelling of a label, without the mark `xn--`. -/
def encode (label : List Char) : List Char :=
  let ascii := label.filter (·.toNat < 0x80)
  let others := (label.filter (0x80 ≤ ·.toNat)).foldr (fun c l => insertSorted c.toNat l) []
  let lead := if ascii.isEmpty then [] else ascii ++ ['-']
  (rounds label ascii.length others 0x80 ⟨lead, 0, 72, ascii.length⟩).written

end KatakanaLsp.Url.Punycode
