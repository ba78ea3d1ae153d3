import KatakanaLsp.Server.Turn
import KatakanaLsp.Wire.Memory

/-!
# Sessions

A session is a server behind a watched transport. In each step some octets arrive, or the input
ends; the server takes its turn, and what it answers is written as frames. The wire log sees the
arriving octets before the server does and the frames as they are taken. How a message is spelled in
its frame, with which blanks and in which order of fields, is left open; `start` writes the compact
text with the fields in the order in which they come.
-/

namespace KatakanaLsp.Server

open Wire (Watched Pipe Passage)

/-- How messages are spelled: the octets that go into their frames. -/
abbrev Spelling := Json → Bytes

/-- A server, the transport it is served over and how it spells what it says. -/
structure Session where
  server : State
  link : Watched (Pipe Empty)
  spelling : Spelling

/-- What a step brings: the messages written, the records reported, and what the wire log gains. -/
structure Step where
  messages : List Json
  records : List Logging.Record
  passages : List Passage
  done : Bool

namespace Session

/-- A session in which nothing has happened, with messages in some spelling. -/
def startIn (spelling : Spelling) (service : Service) (logging : Bool) : Session :=
  ⟨.start service, .start .empty logging, spelling⟩

/-- A session in which nothing has happened, with messages in plain spelling. -/
def start (service : Service) (logging : Bool) : Session := startIn Json.octets service logging

/-- The frame of a message. -/
def frameOf (spelling : Spelling) (message : Json) : Bytes :=
  Protocol.Framing.frame (spelling message)

/-- Writes messages one after another. -/
def writeAll (spelling : Spelling) (link : Watched (Pipe Empty)) :
    List Json → Watched (Pipe Empty) × List Passage
  | [] => (link, [])
  | m :: rest =>
    let (_, link, passages) := link.write Pipe.transport (frameOf spelling m)
    let (link, more) := writeAll spelling link rest
    (link, passages ++ more)

/-- Reads everything that has arrived. -/
def readAll (link : Watched (Pipe Empty)) : Bytes × Watched (Pipe Empty) × List Passage :=
  let (_, buffer, link, passages) := link.read Pipe.transport ⟨[], link.inner.input.length⟩
  (buffer.filled, link, passages)

/-- Octets that arrive at the transport, and perhaps the end of the input behind them. -/
def arrive (link : Watched (Pipe Empty)) (data : Bytes) (atEnd : Bool) : Watched (Pipe Empty) :=
  { link with inner :=
    { link.inner with input := link.inner.input ++ data, ended := link.inner.ended || atEnd } }

/-- What a step reads of what has arrived. A server that no longer reads leaves it where it is. -/
def listen (s : Session) (data : Bytes) (atEnd : Bool) :
    Bytes × Watched (Pipe Empty) × List Passage :=
  let link := arrive s.link data atEnd
  if s.server.reading = .going then readAll link else ([], link, [])

/-- One step. -/
def step (s : Session) (data : Bytes) (atEnd : Bool) : Session × Step :=
  let (octets, link, incoming) := s.listen data atEnd
  let (server, out) := s.server.turn octets link.inner.ended
  let (link, outgoing) := writeAll s.spelling link out.messages
  ({ s with server := server, link := link },
    ⟨out.messages, out.records, incoming ++ outgoing, server.isDone⟩)

/-- Several steps. -/
def run (s : Session) : List (Bytes × Bool) → Session × List Step
  | [] => (s, [])
  | (data, atEnd) :: rest =>
    let (s, first) := s.step data atEnd
    let (s, others) := s.run rest
    (s, first :: others)

end Session

end KatakanaLsp.Server
