import KatakanaLsp.Proofs.Wire.Grammar
import KatakanaLsp.Proofs.Wire.Header
import KatakanaLsp.Proofs.Wire.Streaming

/-!
# What was framed is read back

A stream of items is written: frames, each with a heading of the writer's choice and any text as
its body, and between them noise, header blocks that cannot be used. `Item.segment` says which
segment of the grammar an item is written as. It is a valid one, because the heading gives the
length of the body in octets (`TextFrame.usable`), and so

> `isSplit_items`: items that are written one after another split the stream, with nothing behind
> them.

All else is known of splits: what is taken from a stream are the bodies of its split, in whatever
pieces it arrives. A body is only counted on the way, never looked into, so it may hold blank lines
and headers of its own.
-/

namespace KatakanaLsp.Wire

/-! ## Items -/

/-- A frame as it is written: a heading and a body, ending at an index of 64 bits. -/
structure TextFrame where
  heading : Heading
  body : List Char
  fits : (Utf8.encode (heading.text (Utf8.encode body).length)).length + 4
    + (Utf8.encode body).length ≤ Decimal.max64

/-- A header block that cannot be used. -/
structure Noise where
  block : Bytes
  isBlock : IsBlock block
  unusable : ¬ ∃ n, Usable block n

/-- What is written into a stream. -/
inductive Item where
  | frame (f : TextFrame)
  | noise (n : Noise)

/-- The octets of the header of a frame. -/
def TextFrame.block (f : TextFrame) : Bytes :=
  Utf8.encode (f.heading.text (Utf8.encode f.body).length)

namespace Item

/-- The octets of an item. -/
def octets : Item → Bytes
  | frame f => f.block ++ blankLine ++ Utf8.encode f.body
  | noise n => n.block ++ blankLine

/-- The body of an item that is a frame. -/
def body? : Item → Option String
  | frame f => some (String.ofList f.body)
  | noise _ => none

/-! ## Items are segments -/

/-- The segment that an item is written as. -/
def segment : Item → Segment
  | frame f => .frame f.block (Utf8.encode f.body)
  | noise n => .skipped n.block

theorem octets_segment (i : Item) : i.segment.octets = i.octets := by
  cases i <;> rfl

/-- The body is read as the text that was written. -/
theorem body?_segment (i : Item) : i.segment.body? = i.body? := by
  cases i with
  | frame f =>
    show some (Utf8.toStringLossy (Utf8.encode f.body)) = some (String.ofList f.body)
    rw [Utf8.toStringLossy_encode]
  | noise n => rfl

end Item

/-- The header of a frame is usable with the length of the body in octets. -/
theorem TextFrame.usable (f : TextFrame) : Usable f.block (Utf8.encode f.body).length := by
  have hfits := f.fits
  have hmax : (Utf8.encode f.body).length ≤ Decimal.max64 := by omega
  exact ⟨_, rfl, f.heading.contentLength?_text hmax, hfits⟩

theorem Item.valid_segment (i : Item) : i.segment.Valid := by
  cases i with
  | frame f => exact ⟨f.heading.isBlock_encode _, f.usable⟩
  | noise n => exact ⟨n.isBlock, n.unusable⟩

/-- **Items that are written one after another split the stream, with nothing behind them.** -/
theorem isSplit_items (items : List Item) :
    IsSplit (items.flatMap Item.octets) (items.map Item.segment) [] := by
  refine ⟨?_, ?_, ?_⟩
  · rw [List.append_nil, List.flatMap_map]
    simp only [Item.octets_segment]
  · intro s hs
    obtain ⟨i, -, rfl⟩ := List.mem_map.mp hs
    exact i.valid_segment
  · exact Or.inl (splitBlock_eq_none_iff.mp rfl)

/-! ## Reading the stream in pieces -/

/-- A frame buffer that is fed a stream piece by piece: the messages found, and what is left. -/
def feedPieces (buffer : Bytes) : List Bytes → List Json × Bytes
  | [] => ([], buffer)
  | piece :: pieces =>
    let p := feed buffer piece
    let q := feedPieces p.2 pieces
    (p.1 ++ q.1, q.2)

/-- The messages found in pieces are those of the bodies taken in pieces. -/
theorem feedPieces_eq (buffer : Bytes) (pieces : List Bytes) :
    feedPieces buffer pieces =
      ((drainPieces buffer pieces).1.filterMap messageOf?, (drainPieces buffer pieces).2) := by
  induction pieces generalizing buffer with
  | nil => rfl
  | cons piece pieces ih =>
    rw [feedPieces, drainPieces, ih, feed, takeMessages_eq, List.filterMap_append]

/-- **What was framed is read back.** In whatever pieces a stream of frames and noise arrives, the
bodies of the frames are taken as they were written and nothing is left; for the log, those that are
no JSON are passed over, and no other is. -/
theorem drainPieces_items {items : List Item} {pieces : List Bytes}
    (h : pieces.flatten = items.flatMap Item.octets) :
    drainPieces [] pieces = (items.filterMap Item.body?, []) ∧
      feedPieces [] pieces = ((items.filterMap Item.body?).filterMap messageOf?, []) := by
  have hbodies : drainPieces [] pieces = (items.filterMap Item.body?, []) := by
    rw [drainPieces_eq settled_nil, List.nil_append, h, (isSplit_items items).drain_eq,
      List.filterMap_map]
    congr 2
    funext i
    exact i.body?_segment
  refine ⟨hbodies, ?_⟩
  rw [feedPieces_eq, hbodies]

/-- A heading with a line before the length, and a name in an unusual case between spaces. -/
def spacedHeading : Heading where
  before := [⟨"Accept".toList, by simp, by simp [Unbroken], fun name value h => by
    have hcolon : ':' ∈ "Accept".toList := by rw [h]; simp
    exact absurd hcolon (by decide)⟩]
  length :=
    let none : Padding := ⟨[], by simp, by simp [Unbroken]⟩
    let space : Padding := ⟨[' '], by simp [Text.isBlank], by simp [Unbroken]⟩
    ⟨"CONTENT-length".toList, rfl, none, space, space, none⟩
  after := []

/-- Noise between two frames, of which the first looks like a header inside and is no JSON. -/
def noisyItems : List Item :=
  [.frame ⟨spacedHeading, "Content-Length: 9\r\n\r\n".toList, by decide +kernel⟩,
    .noise ⟨[255], isBlock_cons.mpr ⟨by decide, isBlock_nil⟩,
      usableLength?_eq_none_iff.mp rfl⟩,
    .frame ⟨spacedHeading, "\x7b\x7d".toList, by decide +kernel⟩]

/-- Their stream, cut inside the first name. -/
def noisyPieces : List Bytes :=
  [(noisyItems.flatMap Item.octets).take 12, (noisyItems.flatMap Item.octets).drop 12]

theorem drainPieces_noisyItems :
    noisyPieces.flatten = noisyItems.flatMap Item.octets ∧
      drainPieces [] noisyPieces = (["Content-Length: 9\r\n\r\n", "\x7b\x7d"], []) ∧
      feedPieces [] noisyPieces = ([.object []], []) := by
  have hpieces : noisyPieces.flatten = noisyItems.flatMap Item.octets := by
    simp [noisyPieces]
  have hbodies : noisyItems.filterMap Item.body? = ["Content-Length: 9\r\n\r\n", "\x7b\x7d"] := by
    simp [noisyItems, List.filterMap_cons, Item.body?]
  obtain ⟨hdrain, hfeed⟩ := drainPieces_items hpieces
  rw [hbodies] at hdrain hfeed
  exact ⟨hpieces, hdrain, hfeed.trans rfl⟩

end KatakanaLsp.Wire
