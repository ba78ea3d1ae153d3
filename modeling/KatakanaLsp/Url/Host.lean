import KatakanaLsp.Url.Percent
import KatakanaLsp.Url.Punycode

/-!
# Hosts

A host is a domain, an address of four or sixteen octets, or, where the scheme is not special, an
opaque text. `domain?` brings a domain to ASCII: letters lower case, other labels in Punycode.
-/

namespace KatakanaLsp.Url

/-- Why a text is no URL. -/
inductive UrlError where
  | relativeWithoutBase
  | emptyHost
  | invalidDomain
  | invalidHostCharacter
  | invalidPort
  | invalidIpv4
  | invalidIpv6
  deriving DecidableEq, Repr

/-- The text of an error. -/
def UrlError.message : UrlError → String
  | .relativeWithoutBase => "relative URL without a base"
  | .emptyHost => "empty host"
  | .invalidDomain => "invalid international domain name"
  | .invalidHostCharacter => "invalid domain character"
  | .invalidPort => "invalid port number"
  | .invalidIpv4 => "invalid IPv4 address"
  | .invalidIpv6 => "invalid IPv6 address"

/-- A text cut at every occurrence of a character. -/
def splitAtChar (sep : Char) : List Char → List (List Char)
  | [] => [[]]
  | c :: rest =>
    match splitAtChar sep rest with
    | [] => [[]]
    | piece :: pieces => if c = sep then [] :: piece :: pieces else (c :: piece) :: pieces

/-- Texts joined by a character. -/
def joinWithChar (sep : Char) : List (List Char) → List Char
  | [] => []
  | [p] => p
  | p :: q :: rest => p ++ sep :: joinWithChar sep (q :: rest)

/-! ## Domains -/

/-- ASCII characters that no domain holds. -/
def isForbiddenInDomain (c : Char) : Bool :=
  c.toNat ≤ 0x20 || c.toNat == 0x7F
    || ['#', '%', '/', ':', '<', '>', '?', '@', '[', '\\', ']', '^', '|'].contains c

/-- A character in the case that domains are compared in. Full-width forms count as the ASCII they
resemble, and the ideographic full stops as a full stop. -/
def foldChar (c : Char) : Char :=
  let n := c.toNat
  if n < 0x80 then c.toLower
  else if (0xC0 ≤ n && n ≤ 0xDE && n != 0xD7) || (0x391 ≤ n && n ≤ 0x3AB)
      || (0x410 ≤ n && n ≤ 0x42F) then Char.ofNat (n + 0x20)
  else if 0x400 ≤ n && n ≤ 0x40F then Char.ofNat (n + 0x50)
  else if 0xFF01 ≤ n && n ≤ 0xFF5E then (Char.ofNat (n - 0xFEE0)).toLower
  else if n == 0x3002 || n == 0xFF0E || n == 0xFF61 then '.'
  else c

/-- Characters beyond ASCII that a domain passes over: soft hyphen, joiners of width zero, and
variation selectors. -/
def isIgnoredInDomain (c : Char) : Bool :=
  let n := c.toNat
  n == 0xAD || n == 0x200B || n == 0x2060 || n == 0xFEFF || (0xFE00 ≤ n && n ≤ 0xFE0F)

/-- Characters beyond ASCII that no domain holds: controls, other blanks, private use and the
replacement character. -/
def isRefusedInDomain (c : Char) : Bool :=
  let n := c.toNat
  (0x80 ≤ n && n ≤ 0x9F) || (0x2028 ≤ n && n ≤ 0x202E) || (0xE000 ≤ n && n ≤ 0xF8FF)
    || (0xFFF9 ≤ n && n ≤ 0xFFFF) || (0xE0000 ≤ n)

/-- A label in ASCII. -/
def labelToAscii (label : List Char) : List Char :=
  if label.all (·.toNat < 0x80) then label
  else ['x', 'n', '-', '-'] ++ Punycode.encode label

/-- A domain in ASCII, if it can be one. -/
def domainToAscii? (s : List Char) : Option (List Char) :=
  let folded := (s.filter fun c => !isIgnoredInDomain c).map foldChar
  if folded.any fun c => isForbiddenInDomain c || isRefusedInDomain c then none
  else some (joinWithChar '.' ((splitAtChar '.' folded).map labelToAscii))

/-! ## Addresses of four octets -/

/-- A part of an address, in decimal, octal after `0` or hexadecimal after `0x`. The outer option
is empty for a text that is no numeral. -/
def ipv4Part? (s : List Char) : Option Nat :=
  let read (base : Nat) (ds : List Char) : Option Nat :=
    ds.foldlM (fun n c => do
      let d ← hexValue? c
      if d < base then some (n * base + d) else none) 0
  match s with
  | [] => none
  | '0' :: 'x' :: rest => read 16 rest
  | '0' :: 'X' :: rest => read 16 rest
  | ['0'] => some 0
  | '0' :: rest => read 8 rest
  | rest => read 10 rest

/-- The parts of a domain; an empty one at the end does not count. -/
def addressParts (s : List Char) : List (List Char) :=
  let parts := splitAtChar '.' s
  match parts.reverse with
  | [] :: p :: rest => (p :: rest).reverse
  | _ => parts

/-- A domain whose last part is a number must be an address. -/
def endsInNumber (s : List Char) : Bool :=
  match (addressParts s).getLast? with
  | some last => !last.isEmpty && (last.all Decimal.isDigit || (ipv4Part? last).isSome)
  | none => false

/-- The number of an address: each part but the last is an octet, and the last fills the rest. -/
def ipv4? (s : List Char) : Option Nat := do
  let parts := addressParts s
  let numbers ← parts.mapM ipv4Part?
  let leading := numbers.dropLast
  let last ← numbers.getLast?
  let rest := 8 * (4 - leading.length)
  if 4 < parts.length || leading.any (255 < ·) || (1 <<< rest) ≤ last then none
  else
    let high := leading.foldl (fun n x => n * 256 + x) 0
    some ((high <<< rest) + last)

/-- An address of four octets in decimal. -/
def ipv4Text (n : Nat) : List Char :=
  joinWithChar '.' ([n >>> 24, (n >>> 16) % 256, (n >>> 8) % 256, n % 256].map Decimal.digits)

/-! ## Addresses of sixteen octets -/

/-- One piece of an address: one to four hexadecimal digits. -/
def ipv6Piece? (s : List Char) : Option Nat :=
  if s.isEmpty || 4 < s.length then none
  else s.foldlM (fun n c => (hexValue? c).map (n * 16 + ·)) 0

/-- Four decimal octets as two pieces. -/
def embeddedIpv4? (s : List Char) : Option (List Nat) := do
  let octet (p : List Char) : Option Nat :=
    if p.length = 1 ∨ p.head? ≠ some '0' then (Decimal.ofDigits? p).filter (· ≤ 255) else none
  match ← (splitAtChar '.' s).mapM octet with
  | [a, b, c, d] => some [a * 256 + b, c * 256 + d]
  | _ => none

/-- The pieces of one side of an address; the last may be four decimal octets. -/
def ipv6Side? (s : List Char) : Option (List Nat) :=
  if s.isEmpty then some []
  else
    let parts := splitAtChar ':' s
    match parts.reverse with
    | [] => some []
    | last :: front => do
      let pieces ← front.reverse.mapM ipv6Piece?
      if last.contains '.' then return pieces ++ (← embeddedIpv4? last)
      else return pieces ++ [← ipv6Piece? last]

/-- A text cut at the first `::`. -/
def splitAtGap : List Char → Option (List Char × List Char)
  | ':' :: ':' :: rest => some ([], rest)
  | c :: rest => (splitAtGap rest).map fun p => (c :: p.1, p.2)
  | [] => none

/-- The eight pieces of an address, where `::` stands for at least one zero. -/
def ipv6? (s : List Char) : Option (List Nat) :=
  match splitAtGap s with
  | none => (ipv6Side? s).filter (·.length = 8)
  | some (front, back) => do
    let a ← if front.contains '.' then none else ipv6Side? front
    let b ← ipv6Side? back
    if a.length + b.length ≤ 7 then some (a ++ List.replicate (8 - a.length - b.length) 0 ++ b)
    else none

/-- A hexadecimal numeral, lower case. -/
def lowerHex (n : Nat) : List Char := Nat.toDigits 16 n

/-- The first of the longest runs of two or more zeros: where it begins and its length. -/
def longestGap (pieces : List Nat) : Option (Nat × Nat) :=
  (List.range pieces.length).foldl (fun best i =>
    let run := ((pieces.drop i).takeWhile (· == 0)).length
    if 2 ≤ run && (best.map (·.2)).getD 0 < run then some (i, run) else best) none

/-- An address of sixteen octets, with `::` for the longest run of zeros. -/
def ipv6Text (pieces : List Nat) : List Char :=
  let side (l : List Nat) := joinWithChar ':' (l.map lowerHex)
  match longestGap pieces with
  | none => side pieces
  | some (i, n) => side (pieces.take i) ++ ':' :: ':' :: side (pieces.drop (i + n))

/-! ## Hosts -/

/-- A host in brackets. -/
def bracketed? (s : List Char) : Except UrlError (List Char) :=
  match s.getLast? with
  | some ']' =>
    match ipv6? (s.drop 1).dropLast with
    | some pieces => .ok ('[' :: ipv6Text pieces ++ [']'])
    | none => .error .invalidIpv6
  | _ => .error .invalidIpv6

/-- The host of a special scheme as it is written in a URL. -/
def specialHost (s : List Char) : Except UrlError (List Char) :=
  if s.head? = some '[' then bracketed? s
  else
    match domainToAscii? (Utf8.decodeLossy (percentDecode s)) with
    | none => .error .invalidDomain
    | some [] => .error .emptyHost
    | some domain =>
      if endsInNumber domain then
        match ipv4? domain with
        | some n => .ok (ipv4Text n)
        | none => .error .invalidIpv4
      else .ok domain

/-- Characters that no opaque host holds, NUL apart. -/
def forbiddenInHost : List Char :=
  ['\t', '\n', '\r', ' ', '#', '/', ':', '<', '>', '?', '@', '[', '\\', ']', '^', '|']

/-- A character that no opaque host holds. -/
def isForbiddenInHost (c : Char) : Bool := c.toNat == 0 || forbiddenInHost.contains c

/-- The host of a scheme that is not special, as it is written in a URL. -/
def opaqueHost (s : List Char) : Except UrlError (List Char) :=
  if s.head? = some '[' then bracketed? s
  else if s.any isForbiddenInHost then .error .invalidHostCharacter
  else .ok (controlSet.encode s)

end KatakanaLsp.Url
