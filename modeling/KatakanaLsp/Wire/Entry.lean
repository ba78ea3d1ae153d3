import KatakanaLsp.Json.Printer
import KatakanaLsp.Text.Decimal

/-!
# Entries of the wire log

An entry records one message: a head line with the time, the direction and the kind of the message,
then the message in the framing of the protocol, then an empty line. Bodies are compact JSON in
canonical form, so they hold no line break.
-/

namespace KatakanaLsp.Wire

/-- The direction of a message, from the server's side. -/
inductive Direction where
  | incoming
  | outgoing
  deriving DecidableEq, Repr

/-- The arrow of a direction in the log. -/
def Direction.arrow : Direction → String
  | .incoming => "<<<"
  | .outgoing => ">>>"

/-- The kind of a message. -/
inductive MessageKind where
  | request
  | notification
  | response
  deriving DecidableEq, Repr

/-- The name of a kind in the log. -/
def MessageKind.name : MessageKind → String
  | .request => "REQUEST"
  | .notification => "NOTIFICATION"
  | .response => "RESPONSE"

/-- The kind of a message, by the fields it has: what calls a method is a request if it has an
identifier and a notification if not, and all else is a response. -/
def kindOf (message : Json) : MessageKind :=
  match message.hasField "method", message.hasField "id" with
  | true, true => .request
  | true, false => .notification
  | false, _ => .response

/-- A time of day and a date, to the millisecond. -/
structure Timestamp where
  year : Nat
  month : Nat
  day : Nat
  hour : Nat
  minute : Nat
  second : Nat
  millisecond : Nat
  deriving DecidableEq, Repr

/-- A time as `YYYY-MM-DDThh:mm:ss.mmmZ`. -/
def Timestamp.chars (t : Timestamp) : List Char :=
  Decimal.padded 4 t.year ++ '-' :: Decimal.padded 2 t.month ++ '-' :: Decimal.padded 2 t.day
    ++ 'T' :: Decimal.padded 2 t.hour ++ ':' :: Decimal.padded 2 t.minute
    ++ ':' :: Decimal.padded 2 t.second ++ '.' :: Decimal.padded 3 t.millisecond ++ ['Z']

/-- A message and the direction it went. -/
structure Passage where
  direction : Direction
  message : Json

/-- The body of an entry. -/
def Passage.body (p : Passage) : Bytes := p.message.canonical.octets

/-- The head line of an entry, without its line feed. -/
def Passage.head (p : Passage) (time : Timestamp) : List Char :=
  '[' :: time.chars ++ ']' :: ' ' :: p.direction.arrow.toList
    ++ ' ' :: (kindOf p.message).name.toList

/-- The octets of an entry. -/
def Passage.octets (p : Passage) (time : Timestamp) : Bytes :=
  Utf8.encode (p.head time ++ '\n' :: "Content-Length: ".toList ++ Decimal.digits p.body.length
    ++ "\r\n\r\n".toList) ++ p.body ++ Utf8.ofString "\n\n"

end KatakanaLsp.Wire
