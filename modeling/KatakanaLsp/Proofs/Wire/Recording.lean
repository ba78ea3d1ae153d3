import KatakanaLsp.Proofs.Files.Tree
import KatakanaLsp.Wire.Logger

/-!
# What a wire log holds

A logger that is on appends to its file and does nothing else to it. So whatever the file holds
before a sequence of messages is recorded, it holds that and the rendered entries behind it:

> `content?_recordAll`: recording adds the octets of the entries, in order, at the end of the file.

Every entry comes with a time of its own. Nothing here depends on what the clock says.
-/

namespace KatakanaLsp.Wire

open Files (Tree Path Location)

/-- Entries to record: each message with the time at which it is recorded. -/
abbrev Entries := List (Timestamp × Passage)

/-- The octets of entries, one behind the other. -/
def Entries.octets (entries : Entries) : Bytes := entries.flatMap fun e => e.2.octets e.1

/-- Records messages one after another. -/
def Logger.recordAll (l : Logger) (t : Tree) (entries : Entries) : Tree :=
  entries.foldl (fun t e => l.record t e.1 e.2) t

/-- **Recording adds the octets of the entries, in order, at the end of the file.** -/
theorem Logger.content?_recordAll (path : Path) (file : Location) (t : Tree) (entries : Entries) :
    ((Logger.on path file).recordAll t entries).content? file =
      (t.content? file).map (· ++ entries.octets) := by
  induction entries generalizing t with
  | nil => simp [recordAll, Entries.octets]
  | cons e entries ih =>
    have hfirst : ((Logger.on path file).record t e.1 e.2).content? file
        = (t.content? file).map (· ++ e.2.octets e.1) := t.content?_append file _
    rw [recordAll, List.foldl_cons, ← recordAll, ih, hfirst, Option.map_map]
    congr 1
    funext content
    simp [Entries.octets]

end KatakanaLsp.Wire
