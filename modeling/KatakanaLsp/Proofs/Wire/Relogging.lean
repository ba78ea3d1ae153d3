import KatakanaLsp.Proofs.Wire.Framed
import KatakanaLsp.Proofs.Wire.ReadBack
import KatakanaLsp.Wire.Memory

/-!
# A log can be replayed

What the log says of an incoming message need not be what arrived: octets that are no text have been
replaced, fields sorted, repeated keys dropped, escapes and blanks written anew. But it is said once
and for all. A body that was logged, framed and read again is logged as it stands:

> `calls_of_logged`: a stream that is nothing but the frame of a logged body makes a fresh reader
> log exactly one entry, the same entry.

The reason is that a logged message is the canonical form of something that was read
(`exists_of_mem_feed`). So it is nested no deeper than is read, its text is read back, and its
canonical form is itself. Floats stay outside, since nothing is shown of the text of a float.
-/

namespace KatakanaLsp.Wire

open Files (Tree Path Location)
open Protocol.Framing (frame)

/-- A message that was found is the canonical form of a value that was read. -/
theorem exists_of_mem_feed {buffer data : Bytes} {m : Json} (h : m ∈ (feed buffer data).1) :
    ∃ j, Json.Within Json.IsRead Json.maxDepth j ∧ m = j.canonical := by
  rw [feed, takeMessages_eq] at h
  obtain ⟨body, -, hbody⟩ := List.mem_filterMap.mp h
  obtain ⟨j, hparse, hj⟩ := Option.map_eq_some_iff.mp hbody
  exact ⟨j, Json.within_of_parse? hparse, hj.symm⟩

variable {ε σ : Type}

/-- What a reader logs is in canonical form and nested no deeper than is read. -/
theorem canonical_of_logged (T : Transport ε σ) (inner : σ) (calls : List Call) {p : Passage}
    (hp : p ∈ ((Watched.start inner true).calls T calls).2) (hin : p.direction = .incoming) :
    p.message.canonical = p.message ∧ p.message.nesting ≤ Json.maxDepth := by
  have hlive : (Watched.start inner true).Live := ⟨rfl, settled_nil, settled_nil⟩
  have htracks := Watched.calls_track T hlive calls
  have hmem := mem_messages hp
  have hfound : (feed _ _).1 = messages .incoming _ := congrArg Prod.fst htracks.arriving
  rw [hin, ← hfound] at hmem
  obtain ⟨j, hj, hm⟩ := exists_of_mem_feed hmem
  rw [hm]
  exact ⟨j.canonical_canonical, hj.canonical.1⟩

/-- A reader that is given one frame that spells a message, and nothing else, finds that message and
is left with nothing. -/
theorem calls_of_frame (T : Transport ε σ) (inner : σ) (calls : List Call) {body : Bytes} {m : Json}
    (hm : Spells body m) (hfits : (frame body).length ≤ Decimal.max64)
    (hfed : (T.calls inner calls).2 = ⟨frame body, []⟩) :
    let run := (Watched.start inner true).calls T calls
    run.1.arriving = [] ∧ run.2 = [⟨.incoming, m.canonical⟩] := by
  intro run
  have hlive : (Watched.start inner true).Live := ⟨rfl, settled_nil, settled_nil⟩
  obtain ⟨-, harrived, hleft⟩ := Watched.calls_track T hlive calls
  rw [show (Watched.start inner true).inner = inner from rfl, hfed] at harrived hleft
  have hfound : feed [] (frame body) = ([m.canonical], []) := by
    have hone := hm.feed_frame_append hfits []
    rwa [List.append_nil, feed_nil settled_nil] at hone
  obtain ⟨hmessages, hrest⟩ := Prod.mk.inj (hfound.symm.trans harrived)
  obtain ⟨hnone, -⟩ := Prod.mk.inj ((feed_nil settled_nil).symm.trans hleft)
  have hall : run.2 = _ := eq_map_of_messages hnone.symm
  rw [← hmessages] at hall
  exact ⟨hrest.symm, hall⟩

/-- **A log can be replayed.** Take any entry that a reader has logged from any stream, cut in any
way, and whose message has only integers of 64 bits in it. Its body is the text of its message and
is read as such. Fed to a fresh reader as a frame, in whatever pieces, it makes the log gain exactly
one entry: the same arrow, type, length and body, whatever the time. The frame must have a length,
which is counted in 64 bits. -/
theorem calls_of_logged (T : Transport ε σ) (inner : σ) (calls : List Call) {p : Passage}
    (hp : p ∈ ((Watched.start inner true).calls T calls).2) (hin : p.direction = .incoming)
    (hwhole : p.message.Whole) (hfits : (frame p.body).length ≤ Decimal.max64) :
    (Utf8.decode? p.body).bind Json.parse? = some p.message ∧
      ∀ {ε' σ' : Type} (T' : Transport ε' σ') (inner' : σ') (calls' : List TimedCall)
        (path : Path) (file : Location) (tree : Tree),
        (T'.calls inner' (calls'.map Prod.fst)).2 = ⟨frame p.body, []⟩ →
        let s := Tap.calls T' (.on path file) ⟨.start inner' true, tree⟩ calls'
        s.link.arriving = [] ∧
          ∃ time, s.tree.content? file = (tree.content? file).map (· ++ p.octets time) := by
  obtain ⟨hcanonical, hdepth⟩ := canonical_of_logged T inner calls hp hin
  have hwithin : p.message.Within JsonNumber.Whole Json.maxDepth := ⟨hdepth, hwhole⟩
  refine ⟨?_, ?_⟩
  · exact (parse?_canonical hwithin).trans (congrArg some hcanonical)
  · intro ε' σ' T' inner' calls' path file tree hfed s
    obtain ⟨hrest, hpassages⟩ := calls_of_frame T' inner' (calls'.map Prod.fst)
      (legible_canonical _ hwithin) hfits hfed
    obtain ⟨entries, hentries, hcontent⟩ :=
      Tap.content?_calls T' path file ⟨.start inner' true, tree⟩ calls'
    -- the one entry that is logged is of the passage itself
    have hsame : (⟨.incoming, p.message.canonical⟩ : Passage) = p := by
      rw [hcanonical, ← hin]
    rw [hpassages, hsame] at hentries
    obtain ⟨e, rfl, he⟩ := List.map_eq_singleton_iff.mp hentries
    refine ⟨?_, e.1, ?_⟩
    · rw [show s.link = _ from Tap.link_calls T' _ _ calls']
      exact hrest
    · rw [show s.tree.content? file = _ from hcontent, ← he]
      simp [Entries.octets]

/-- A transport that delivers the frame of a body. -/
def pipeOf (body : Bytes) : Pipe Empty := { Pipe.empty with input := frame body }

/-- A body whose text has to be mended: an octet that is no text, keys out of order and one of them
twice, blanks, and an escape that is not needed. -/
def untidyBody : Bytes :=
  Utf8.ofString "\x7b \"b\":\"" ++ 0xFF :: Utf8.ofString "\", \"a\" :1,\"a\":[\"\\u0041\"] \x7d"

/-- What is logged of it. -/
def tidied : Passage :=
  ⟨.incoming, .object [("a", .array [.string "A"]), ("b", .string "\uFFFD")]⟩

/-- What is found in the body. -/
theorem messageOf?_untidyBody :
    messageOf? (Utf8.toStringLossy untidyBody) = some tidied.message := by
  -- the text of what is found is known, and that it is within the bounds of what the text decides
  have hfound : (messageOf? (Utf8.toStringLossy untidyBody)).map (fun m =>
      (decide (m.Within JsonNumber.Whole Json.maxDepth), m.chars)) =
      some (true, tidied.message.chars) := by
    decide +kernel
  obtain ⟨m, hm, hbounds⟩ := Option.map_eq_some_iff.mp hfound
  obtain ⟨hwithin, hchars⟩ := Prod.mk.inj hbounds
  rw [hm, Json.eq_of_chars (of_decide_eq_true hwithin) (by decide) hchars]

theorem tidied_mem :
    tidied ∈ ((Watched.start (pipeOf untidyBody) true).calls Pipe.transport
      [.read ⟨[], 100⟩]).2 := by
  have hfront : front (frame untidyBody) = .frame untidyBody [] := by
    have := @front_frame untidyBody (by decide +kernel) []
    rwa [List.append_nil] at this
  have hfound : (feed [] (frame untidyBody)).1 = [tidied.message] := by
    rw [feed, List.nil_append, takeMessages_eq, drain_of_frame hfront, List.filterMap_cons,
      messageOf?_untidyBody, drain_of_unfinished rfl]
    rfl
  have hall : (frame untidyBody).take 100 = frame untidyBody :=
    List.take_of_length_le (by decide +kernel)
  show tidied ∈ (feed [] ((frame untidyBody).take 100)).1.map (⟨.incoming, ·⟩) ++ []
  rw [hall, hfound]
  exact List.mem_singleton_self ..

/-- Two reads, the first into a buffer that holds something already. -/
def twoReads : List TimedCall :=
  [(.read ⟨[1], 30⟩, fun _ => ⟨2024, 1, 2, 3, 4, 5, 6⟩),
    (.read ⟨[], 30⟩, fun _ => ⟨2024, 1, 2, 3, 4, 5, 7⟩)]

theorem calls_of_tidied :
    tidied ∈ ((Watched.start (pipeOf untidyBody) true).calls Pipe.transport
        [.read ⟨[], 100⟩]).2 ∧
      tidied.message.Whole ∧ (frame tidied.body).length ≤ Decimal.max64 ∧
      (Pipe.transport.calls (pipeOf tidied.body) (twoReads.map Prod.fst)).2 =
        ⟨frame tidied.body, []⟩ ∧
      (Utf8.decode? tidied.body).bind Json.parse? = some tidied.message ∧
      ∃ time, (Tap.calls Pipe.transport (.on (.ofString "wire.log") [Utf8.ofString "wire.log"])
        ⟨.start (pipeOf tidied.body) true, freshTree⟩ twoReads).tree.content?
          [Utf8.ofString "wire.log"] = some (tidied.octets time) := by
  have hwhole : tidied.message.Whole := by decide
  have hfits : (frame tidied.body).length ≤ Decimal.max64 := by decide +kernel
  have hfed : (Pipe.transport.calls (pipeOf tidied.body) (twoReads.map Prod.fst)).2
      = ⟨frame tidied.body, []⟩ := by
    decide +kernel
  obtain ⟨hbody, hreplay⟩ := calls_of_logged _ _ _ tidied_mem rfl hwhole hfits
  obtain ⟨-, time, hlog⟩ := hreplay Pipe.transport (pipeOf tidied.body) twoReads
    (.ofString "wire.log") [Utf8.ofString "wire.log"] freshTree hfed
  exact ⟨tidied_mem, hwhole, hfits, hfed, hbody, time, hlog.trans rfl⟩

end KatakanaLsp.Wire
