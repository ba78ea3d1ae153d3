import KatakanaLsp.Url.Host

/-!
# URLs

`Url.parse` reads an absolute URL by the rules of the WHATWG standard and gives its serialized
form: the scheme and the host in lower case, default ports left out, dot segments resolved, and
what the parts may not hold percent-encoded. Two texts name the same document exactly when their
serialized forms are equal, so that form is all that a `Url` keeps.

The schemes `http`, `https`, `ws`, `wss`, `ftp` and `file` are *special*: they take `\` for `/`,
and all but `file` need a host.
-/

namespace KatakanaLsp

/-- A URL in its serialized form. -/
structure Url where
  text : String
  deriving DecidableEq, Repr

namespace Url

/-- How the parts after a scheme are read. -/
inductive SchemeKind where
  | file
  | special (defaultPort : Nat)
  | other
  deriving DecidableEq, Repr

/-- The kind of a scheme in lower case. -/
def SchemeKind.of (scheme : String) : SchemeKind :=
  match scheme with
  | "file" => .file
  | "http" => .special 80
  | "ws" => .special 80
  | "https" => .special 443
  | "wss" => .special 443
  | "ftp" => .special 21
  | _ => .other

/-- Whether `\` stands for `/`. -/
def SchemeKind.isSpecial : SchemeKind → Bool
  | .other => false
  | _ => true

/-- The default port of a kind of scheme. -/
def SchemeKind.defaultPort? : SchemeKind → Option Nat
  | .special p => some p
  | _ => none

/-- Whether a character separates segments. -/
def SchemeKind.isSlash (kind : SchemeKind) (c : Char) : Bool :=
  c == '/' || (kind.isSpecial && c == '\\')

/-- A text without the controls and spaces at its ends, and without tabs and line breaks. -/
def tidy (s : List Char) : List Char :=
  let outer (c : Char) : Bool := c.toNat ≤ 0x20
  let inner := ((s.dropWhile outer).reverse.dropWhile outer).reverse
  inner.filter fun c => c != '\t' && c != '\n' && c != '\r'

/-- A letter of ASCII. -/
def isLetter (c : Char) : Bool := ('a' ≤ c && c ≤ 'z') || ('A' ≤ c && c ≤ 'Z')

/-- A character that a scheme may hold behind its first letter. -/
def isSchemeChar (c : Char) : Bool :=
  isLetter c || Decimal.isDigit c || c == '+' || c == '-' || c == '.'

/-- The scheme of a text, in lower case, and what follows its colon. -/
def scheme? (s : List Char) : Option (List Char × List Char) :=
  match s with
  | [] => none
  | c :: _ =>
    if isLetter c then
      match s.dropWhile isSchemeChar with
      | ':' :: rest => some ((s.takeWhile isSchemeChar).map Char.toLower, rest)
      | _ => none
    else none

/-! ## Paths -/

/-- A segment that stays where it is. -/
def isSingleDot (s : List Char) : Bool :=
  [".", "%2e"].contains (String.ofList (s.map Char.toLower))

/-- A segment that goes one level up. -/
def isDoubleDot (s : List Char) : Bool :=
  ["..", ".%2e", "%2e.", "%2e%2e"].contains (String.ofList (s.map Char.toLower))

/-- A segment that names a drive: a letter and `:` or `|`. -/
def isDriveLetter : List Char → Bool
  | [c, d] => isLetter c && (d == ':' || d == '|')
  | _ => false

/-- The segments above, innermost first, without the innermost; a drive is never left. -/
def goUp : List (List Char) → List (List Char)
  | [] => []
  | s :: above => if isDriveLetter s then s :: above else above

/-- Resolves the segments that stand below those `above`. The last of them names the document, so
that one which only moves leaves an empty name. -/
def resolve (above : List (List Char)) : List (List Char) → List (List Char)
  | [] => above.reverse
  | [s] =>
    if isDoubleDot s then ([] :: goUp above).reverse
    else if isSingleDot s then ([] :: above).reverse
    else (s :: above).reverse
  | s :: t :: rest =>
    if isDoubleDot s then resolve (goUp above) (t :: rest)
    else if isSingleDot s then resolve above (t :: rest)
    else resolve (s :: above) (t :: rest)

/-- The characters before a query or fragment, and the rest. -/
def splitPath (s : List Char) : List Char × List Char :=
  s.span fun c => c != '?' && c != '#'

/-- The segments of a path after its first slash, resolved and encoded. -/
def segments (kind : SchemeKind) (s : List Char) : List (List Char) :=
  let slashes := s.map fun c => if kind.isSlash c then '/' else c
  resolve [] ((splitAtChar '/' slashes).map (pathSet.encode ·))

/-- A path from its segments. -/
def pathText (segments : List (List Char)) : List Char := '/' :: joinWithChar '/' segments

/-- Segments without empty ones in front; a path keeps at least one. -/
def dropEmpty : List (List Char) → List (List Char)
  | [] => [[]]
  | [] :: rest => dropEmpty rest
  | s :: rest => s :: rest

/-- A path after its first slash, in serialized form. That of a file begins with one slash. -/
def pathAfterSlash (kind : SchemeKind) (s : List Char) : List Char :=
  let segs := segments kind s
  pathText (if kind = .file then dropEmpty segs else segs)

/-- The path that follows a host: special URLs always have one. -/
def pathAfterHost (kind : SchemeKind) (s : List Char) : List Char :=
  match s with
  | [] => if kind.isSpecial then ['/'] else []
  | c :: rest => pathAfterSlash kind (if kind.isSlash c then rest else c :: rest)

/-! ## Query and fragment -/

/-- The query and the fragment in serialized form. -/
def querySuffix (kind : SchemeKind) (s : List Char) : List Char :=
  let fragment (f : List Char) : List Char :=
    match f with
    | '#' :: f => '#' :: fragmentSet.encode f
    | _ => []
  match s with
  | '?' :: rest =>
    let (query, f) := rest.span (· != '#')
    '?' :: (if kind.isSpecial then specialQuerySet else querySet).encode query ++ fragment f
  | _ => fragment s

/-! ## User, host and port -/

/-- The characters up to the path, and the rest. -/
def splitAuthority (kind : SchemeKind) (s : List Char) : List Char × List Char :=
  s.span fun c => !(kind.isSlash c || c == '?' || c == '#')

/-- What stands before and after the last `@`. -/
def splitUserinfo (s : List Char) : Option (List Char × List Char) :=
  match s.reverse.span (· != '@') with
  | (_, []) => none
  | (host, _ :: user) => some (user.reverse, host.reverse)

/-- A user name and a password in serialized form. Only the first colon parts them, and a password
that is empty goes with its colon. -/
def userinfoText (s : List Char) : List Char :=
  let (name, rest) := s.span (· != ':')
  let password := rest.drop 1
  let body := userinfoSet.encode name ++
    (if password.isEmpty then [] else ':' :: userinfoSet.encode password)
  if body.isEmpty then [] else body ++ ['@']

/-- The host and the port of an authority, cut at the first colon outside brackets. -/
def splitPort (brackets : Bool) : List Char → List Char × Option (List Char)
  | [] => ([], none)
  | c :: rest =>
    if c = ':' ∧ !brackets then ([], some rest)
    else
      let p := splitPort (if c = '[' then true else if c = ']' then false else brackets) rest
      (c :: p.1, p.2)

/-- A port in serialized form: none if it is empty or the default. -/
def portText (kind : SchemeKind) (s : List Char) : Except UrlError (List Char) :=
  match s with
  | [] => .ok []
  | ds =>
    match (Decimal.ofDigits? ds).filter (· ≤ 65535) with
    | none => .error .invalidPort
    | some n => .ok (if kind.defaultPort? = some n then [] else ':' :: Decimal.digits n)

/-- User, host and port in serialized form. A host may only be empty where nothing else is written
and the scheme is not special. -/
def authorityText (kind : SchemeKind) (s : List Char) : Except UrlError (List Char) := do
  let (user, rest) := match splitUserinfo s with
    | none => ([], s)
    | some (u, r) => (userinfoText u, r)
  if (splitUserinfo s).isSome && rest.isEmpty then .error .emptyHost
  else
    let (host, port) := splitPort false rest
    if host.isEmpty then
      if kind.isSpecial || port.isSome || !user.isEmpty then .error .emptyHost else .ok []
    else
      let host ← if kind.isSpecial then specialHost host else opaqueHost host
      let port ← portText kind (port.getD [])
      .ok (user ++ host ++ port)

/-- What follows `//`: an authority, a path and the rest. -/
def afterDoubleSlash (kind : SchemeKind) (s : List Char) : Except UrlError (List Char) := do
  let (authority, rest) := splitAuthority kind s
  let (path, suffix) := splitPath rest
  let authority ← authorityText kind authority
  .ok ('/' :: '/' :: authority ++ pathAfterHost kind path ++ querySuffix kind suffix)

/-! ## The three kinds of URL -/

/-- What follows `file:`. A host that reads as a drive belongs to the path, and the host
`localhost` is left out. -/
def fileBody (s : List Char) : Except UrlError (List Char) :=
  let localBody (path rest : List Char) : List Char :=
    '/' :: '/' :: pathAfterSlash .file path ++ querySuffix .file rest
  match s with
  | a :: b :: rest =>
    if SchemeKind.file.isSlash a && SchemeKind.file.isSlash b then
      let (host, after) := splitAuthority .file rest
      if isDriveLetter host then
        let (path, suffix) := splitPath rest
        .ok (localBody path suffix)
      else
        let (path, suffix) := splitPath after
        if host.isEmpty then .ok (localBody (path.drop 1) suffix)
        else
          match specialHost host with
          | .error e => .error e
          | .ok h =>
            if h = "localhost".toList then .ok (localBody (path.drop 1) suffix)
            else .ok ('/' :: '/' :: h ++ pathAfterHost .file path ++ querySuffix .file suffix)
    else
      let (path, suffix) := splitPath s
      .ok (localBody (if SchemeKind.file.isSlash a then path.drop 1 else path) suffix)
  | _ =>
    let (path, suffix) := splitPath s
    .ok (localBody (match path with
      | c :: rest => if SchemeKind.file.isSlash c then rest else path
      | [] => []) suffix)

/-- What follows a scheme that is not special: an authority, a path, or an opaque path. A path that
begins with two slashes is kept apart from an authority by `/.`. -/
def otherBody (s : List Char) : Except UrlError (List Char) :=
  match s with
  | '/' :: '/' :: rest => afterDoubleSlash .other rest
  | '/' :: rest =>
    let (path, suffix) := splitPath rest
    let path := pathAfterSlash .other path
    let guarded := match path with
      | '/' :: '/' :: _ => '/' :: '.' :: path
      | _ => path
    .ok (guarded ++ querySuffix .other suffix)
  | s =>
    let (path, suffix) := splitPath s
    .ok (controlSet.encode path ++ querySuffix .other suffix)

/-- The URL that a text writes, if it writes one without a base. -/
def parse (s : String) : Except UrlError Url :=
  match scheme? (tidy s.toList) with
  | none => .error .relativeWithoutBase
  | some (scheme, rest) =>
    let kind := SchemeKind.of (String.ofList scheme)
    let body := match kind with
      | .file => fileBody rest
      | .special _ => afterDoubleSlash kind (rest.dropWhile kind.isSlash)
      | .other => otherBody rest
    body.map fun b => ⟨String.ofList (scheme ++ ':' :: b)⟩

end Url

end KatakanaLsp
