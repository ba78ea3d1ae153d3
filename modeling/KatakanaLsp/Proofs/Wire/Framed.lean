import KatakanaLsp.Proofs.Json.Reread
import KatakanaLsp.Proofs.Wire.Grammar
import KatakanaLsp.Proofs.Wire.Header
import KatakanaLsp.Proofs.Wire.Streaming
import KatakanaLsp.Server.Session

/-!
# Messages in frames

The server puts a message into a frame, spelled in some way, under a header of one line. The wire
log has to find exactly the message in it. Three things meet here: the heading is one that the
reader of frames knows (`plainHeading`), the text is one that the reader of JSON takes back as the
message (`Spells`), and the frame has a length that can be counted. A message with which all three
go well is `Conveyable`. Which spelling it is does not matter: blanks, escapes and the order of
fields leave no trace in the canonical form.

> `feed_frames`: frames of conveyable messages, fed to an empty buffer, give the messages in their
> canonical form and leave nothing.

> `feed_sent`: at every point of sending them, the messages found are those of the frames that have
> been sent in full.

Both carry over to the log of a watched transport, however the frames are cut into writes
(`loggedAsWritten`).
-/

namespace KatakanaLsp.Wire

open Protocol.Framing (frame)
open Server (Spelling)
open Server.Session (frameOf)

/-! ## The heading of a plain frame -/

/-- The heading with one line, spelled in the usual way. -/
def plainHeading : Heading where
  before := []
  length := ⟨"Content-Length".toList, rfl, .none, .none, .space, .none⟩
  after := []

theorem text_plainHeading (n : Nat) :
    plainHeading.text n = "Content-Length: ".toList ++ Decimal.digits n := by
  have hline : plainHeading.lines n = ["Content-Length: ".toList ++ Decimal.digits n] := by
    simp [Heading.lines, plainHeading, LengthLine.text, Padding.none, Padding.space]
  rw [Heading.text, hline, List.intercalate_singleton]

/-- A frame is a plain heading, a blank line and the body. -/
theorem frame_eq (body : Bytes) :
    frame body = Utf8.encode (plainHeading.text body.length) ++ blankLine ++ body := by
  rw [frame, text_plainHeading, Utf8.encode_append _ "\r\n\r\n".toList]
  rfl

/-- A frame whose length can be counted is a segment. -/
theorem valid_frame {body : Bytes} (h : (frame body).length ≤ Decimal.max64) :
    (Segment.frame (Utf8.encode (plainHeading.text body.length)) body).Valid := by
  rw [frame_eq, List.length_append, List.length_append] at h
  have hmax : body.length ≤ Decimal.max64 := by omega
  exact ⟨plainHeading.isBlock_encode _, _, rfl, plainHeading.contentLength?_text hmax, h⟩

/-- A frame in front is read as its body and what follows. -/
theorem front_frame {body : Bytes} (h : (frame body).length ≤ Decimal.max64) (later : Bytes) :
    front (frame body ++ later) = .frame body later := by
  rw [frame_eq]
  exact (valid_frame h).front_eq later

/-- Of a frame that has not been sent in full nothing is taken. -/
theorem drain_part {body part missing : Bytes} (h : (frame body).length ≤ Decimal.max64)
    (hpart : part ++ missing = frame body) (hmissing : missing ≠ []) :
    drain part = ([], part) := by
  rw [frame_eq] at hpart
  exact (valid_frame h).drain_part hpart hmissing

/-! ## Spelling messages -/

/-- Octets that spell a message: they are a text, and what is read of it is the message, with its
fields in any order. -/
def Spells (body : Bytes) (m : Json) : Prop :=
  ((Utf8.decode? body).bind Json.parse?).map Json.canonical = some m.canonical

/-- A spelling that is read back: it spells every message whose numbers are integers of 64 bits and
that is nested no deeper than is read. -/
def Legible (spelling : Spelling) : Prop :=
  ∀ m : Json, m.Within JsonNumber.Whole Json.maxDepth → Spells (spelling m) m

/-- The compact text is read back. -/
theorem legible_octets : Legible Json.octets := by
  intro m h
  rw [Spells, Json.octets, Utf8.decode?_encode, Option.bind_some, Json.parse?_chars h,
    Option.map_some]

/-- The compact text with sorted keys is read as the canonical form. -/
theorem parse?_canonical {m : Json} (h : m.Within JsonNumber.Whole Json.maxDepth) :
    (Utf8.decode? m.canonical.octets).bind Json.parse? = some m.canonical := by
  rw [Json.octets, Utf8.decode?_encode, Option.bind_some, Json.parse?_chars h.canonical]

/-- So it is read back too. -/
theorem legible_canonical : Legible fun m => m.canonical.octets := by
  intro m h
  rw [Spells, parse?_canonical h, Option.map_some, Json.canonical_canonical]

/-- In octets that spell a message the message is found. -/
theorem Spells.messageOf? {body : Bytes} {m : Json} (h : Spells body m) :
    messageOf? (Utf8.toStringLossy body) = some m.canonical := by
  obtain ⟨j, hread, hj⟩ := Option.map_eq_some_iff.mp h
  obtain ⟨text, htext, hparse⟩ := Option.bind_eq_some_iff.mp hread
  rw [Utf8.decode?_eq_some_iff.mp htext, Utf8.toStringLossy_encode, Wire.messageOf?,
    String.toList_ofList, hparse, Option.map_some, hj]

/-- In a frame in front that holds them, the message is found first. -/
theorem Spells.feed_frame_append {body : Bytes} {m : Json} (h : Spells body m)
    (hfits : (frame body).length ≤ Decimal.max64) (later : Bytes) :
    feed [] (frame body ++ later) = (m.canonical :: (feed [] later).1, (feed [] later).2) := by
  have hdrain := drain_of_frame (front_frame hfits later)
  rw [feed, List.nil_append, takeMessages_eq, hdrain, List.filterMap_cons, h.messageOf?]
  rfl

/-! ## Conveyable messages -/

/-- A message that can be sent and found again: its numbers are integers of 64 bits, it is nested no
deeper than is read, its spelling is read as the message, and its frame has a length of 64 bits. -/
structure Conveyable (spelling : Spelling) (m : Json) : Prop where
  within : m.Within JsonNumber.Whole Json.maxDepth
  spelled : Spells (spelling m) m
  fits : (frameOf spelling m).length ≤ Decimal.max64

variable {spelling : Spelling}

/-- **Messages that were sent are found again.** -/
theorem feed_frames {ms : List Json} (h : ∀ m ∈ ms, Conveyable spelling m) :
    feed [] (ms.flatMap (frameOf spelling)) = (ms.map Json.canonical, []) := by
  induction ms with
  | nil => exact feed_nil settled_nil
  | cons m ms ih =>
    have hothers := ih fun n hn => h n (List.mem_cons_of_mem m hn)
    have hm := h m (List.mem_cons_self ..)
    rw [List.flatMap_cons, frameOf, hm.spelled.feed_frame_append hm.fits, hothers, List.map_cons]

/-- **A message is found when its frame has been sent in full, and not before.** -/
theorem feed_sent {ms : List Json} (h : ∀ m ∈ ms, Conveyable spelling m) {sent : Bytes}
    (hsent : sent <+: ms.flatMap (frameOf spelling)) :
    ∃ k part, sent = (ms.take k).flatMap (frameOf spelling) ++ part ∧
      (∀ m, ms[k]? = some m → part.length < (frameOf spelling m).length) ∧
      feed [] sent = ((ms.take k).map Json.canonical, part) := by
  obtain ⟨k, part, hk, rfl, hopen, hlast⟩ := exists_take_of_prefix (frameOf spelling) hsent
  have hfeed := feed_append [] ((ms.take k).flatMap (frameOf spelling)) part
  rw [feed_frames fun m hm => h m (List.mem_of_mem_take hm)] at hfeed
  cases hnext : ms[k]? with
  | none =>
    obtain rfl := hlast (Nat.le_antisymm hk (List.getElem?_eq_none_iff.mp hnext))
    refine ⟨k, [], rfl, by simp [hnext], ?_⟩
    rw [List.append_nil, feed_frames fun m hm => h m (List.mem_of_mem_take hm)]
  | some m =>
    obtain ⟨missing, hmissing, hpart⟩ := hopen m hnext
    refine ⟨k, part, rfl, ?_, ?_⟩
    · rintro n hn
      obtain rfl := Option.some.inj (hnext.symm.trans hn)
      rw [← hpart, List.length_append]
      have := List.length_pos_iff.mpr hmissing
      omega
    · have hm := h m (List.mem_of_getElem? hnext)
      rw [hfeed, feed, List.nil_append, takeMessages_eq, drain_part hm.fits hpart hmissing]
      simp

/-! ## Messages that pass a watched transport -/

/-- Messages are logged as they are written. Take any transport, any cut of their frames into
writes, taken in full or in part, and anything else that is polled in between. What has been logged
is, in order, the messages whose frames the transport has taken in full, and the frame buffer holds
what it has taken of the next one. Once it has taken everything, all messages have been logged. -/
def LoggedAsWritten (spelling : Spelling) (ms : List Json) : Prop :=
  ∀ (ε σ : Type) (T : Transport ε σ) (w : Watched σ) (polls : List Call),
    w.Live → w.leaving = [] →
    let taken := (T.calls w.inner polls).2.left
    let after := w.calls T polls
    (taken <+: ms.flatMap (frameOf spelling) →
      ∃ k part, taken = (ms.take k).flatMap (frameOf spelling) ++ part ∧
        (∀ m, ms[k]? = some m → part.length < (frameOf spelling m).length) ∧
        messages .outgoing after.2 = (ms.take k).map Json.canonical ∧ after.1.leaving = part) ∧
    (taken = ms.flatMap (frameOf spelling) →
      messages .outgoing after.2 = ms.map Json.canonical ∧ after.1.leaving = [])

/-- **Messages that can be conveyed are logged as they are written.** -/
theorem loggedAsWritten {ms : List Json} (h : ∀ m ∈ ms, Conveyable spelling m) :
    LoggedAsWritten spelling ms := by
  intro ε σ T w polls hw hempty taken after
  have hleaving := (Watched.calls_track T hw polls).leaving
  rw [hempty] at hleaving
  refine ⟨?_, ?_⟩
  · intro htaken
    obtain ⟨k, part, hsplit, hshort, hfeed⟩ := feed_sent h htaken
    obtain ⟨hlogged, hrest⟩ := Prod.mk.inj (hfeed.symm.trans hleaving)
    exact ⟨k, part, hsplit, hshort, hlogged.symm, hrest.symm⟩
  · intro htaken
    rw [show (T.calls w.inner polls).2.left = _ from htaken, feed_frames h] at hleaving
    obtain ⟨hlogged, hrest⟩ := Prod.mk.inj hleaving
    exact ⟨hlogged.symm, hrest.symm⟩

end KatakanaLsp.Wire
