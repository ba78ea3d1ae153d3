import KatakanaLsp.Proofs.Files.Opening
import KatakanaLsp.Proofs.Wire.Recording

/-!
# A wire log only grows

Making a logger either fails and changes nothing, or leaves a logger and its file, which keeps what
it held. The file may be elsewhere: the path is followed over links, and a link that leads to a free
name has its file made there. From then on the logger can be cloned, and clones again, and each of
them records messages when it likes. They share the file, so that it makes no difference which of
them records a message:

> `Uses.run_eq`: what a logger and its clones record is what the logger alone would record of the
> same messages, in the order in which they come.

And each message that is recorded adds its entry at the end of the file and changes nothing else
(`Files.Tree.Grown.append`):

> `Logger.open?_appends`: a logger that is made leaves its file with what it held and then the
> entries of all messages, in order, and leaves everything else alone.
-/

namespace KatakanaLsp.Wire

open Files (Tree Path Location FileError)

/-! ## Clones -/

/-- What is done with some number of loggers: one of them is cloned, which makes one more, or
records a message, until no more is done. -/
inductive Uses : Nat → Type where
  | done {n : Nat} : Uses n
  | clone {n : Nat} (which : Fin n) (rest : Uses (n + 1)) : Uses n
  | record {n : Nat} (which : Fin n) (time : Timestamp) (p : Passage) (rest : Uses n) : Uses n

namespace Uses

/-- The files after loggers were used. -/
def run {n : Nat} (loggers : Vector Logger n) (t : Tree) : Uses n → Tree
  | .done => t
  | .clone which rest => rest.run (loggers.push loggers[which]) t
  | .record which time p rest => rest.run loggers (loggers[which].record t time p)

/-- The messages that are recorded, in order. -/
def entries {n : Nat} : Uses n → Entries
  | .done => []
  | .clone _ rest => rest.entries
  | .record _ time p rest => (time, p) :: rest.entries

/-- **It makes no difference which clone records a message.** -/
theorem run_eq {n : Nat} (uses : Uses n) {loggers : Vector Logger n} {l : Logger}
    (h : ∀ which : Fin n, loggers[which] = l) (t : Tree) :
    uses.run loggers t = l.recordAll t uses.entries := by
  induction uses generalizing t with
  | done => rfl
  | clone which rest ih =>
    -- the new clone comes last, and is what it was cloned from
    apply ih
    intro other
    show (loggers.push loggers[which])[other.val] = l
    rw [Vector.getElem_push]
    split
    next hformer => exact h ⟨other, hformer⟩
    · exact h which
  | record which time p rest ih =>
    show rest.run loggers (loggers[which].record t time p) = _
    rw [h which, ih h]
    rfl

end Uses

/-! ## Records -/

/-- A logger that is off records nothing. -/
theorem Logger.recordAll_off (t : Tree) (entries : Entries) :
    Logger.off.recordAll t entries = t := by
  induction entries with
  | nil => rfl
  | cons e entries ih => exact ih

/-- A logger that is on makes its file grow by the entries. -/
theorem Logger.grown_recordAll {t t' : Tree} {file : Location} {data : Bytes} (path : Path)
    (h : t.Grown file data t') (entries : Entries) :
    t.Grown file (data ++ Entries.octets entries) ((Logger.on path file).recordAll t' entries) := by
  induction entries generalizing t' data with
  | nil =>
    show t.Grown file (data ++ []) t'
    rw [List.append_nil]
    exact h
  | cons e entries ih =>
    have hoctets : Entries.octets (e :: entries) = e.2.octets e.1 ++ Entries.octets entries :=
      List.flatMap_cons
    rw [hoctets, ← List.append_assoc]
    exact ih (h.append (e.2.octets e.1))

/-! ## Loggers that are made -/

/-- With a directory, a logger is made exactly if its file can be opened. -/
theorem Logger.open?_on (t : Tree) (d : Path) (session : String) (now : Int) :
    let path := d.join (fileName session)
    Logger.open? t true (some d) session now =
      ((t.openAppend path now).1.map (.on path), (t.openAppend path now).2) := by
  intro path
  have hon : (!true) = false := rfl
  simp only [open?, hon, Bool.false_eq_true, if_false]
  split
  next e left hfailed => rw [hfailed, Except.map]
  next file left hopened => rw [hopened, Except.map]

/-- **A wire log only grows, and making one changes nothing unless it succeeds.** A logger that is
to be off leaves the files alone, whatever is done with it and its clones. One that is to be on
needs a directory; without one, or if no file can be opened at its path, making it fails and the
files are as they were. Else it is on, its path is that of `wire-<session>.log` in the directory,
and the file that this path leads to is there with what it held before. Whatever is then done with
the logger and its clones, the file holds that and behind it one entry for each message, in the
order in which they were recorded, and so it is read at the path; everything else is as it was. -/
theorem Logger.open?_appends (t : Tree) (session : String) (now : Int) :
    (∀ directory, Logger.open? t false directory session now = (.ok .off, t) ∧
      Logger.off.isOn = false ∧ ∀ uses : Uses 1, uses.run #v[.off] t = t) ∧
    (Logger.open? t true none session now = (.error .noDirectoryGiven, t) ∧
      FileError.noDirectoryGiven.kind = .notFound) ∧
    (∀ d : Path,
      let path := d.join ("wire-" ++ session ++ ".log")
      let opened := Logger.open? t true (some d) session now
      ((∀ file, ¬ t.Openable path file) ∧
        ∃ e, (t.openAppend path now).1 = .error e ∧ opened = (.error e, t)) ∨
      ∃ l file left, t.Openable path file ∧ opened = (.ok l, left) ∧ l.isOn = true ∧
        l.path? = some path ∧ t.Grown file [] left ∧ ((t.content? file).isSome → left = t) ∧
        ∀ uses : Uses 1,
          let after := uses.run #v[l] left
          t.Grown file (Entries.octets uses.entries) after ∧
          after.read? path = some ((t.read? path).getD [] ++ Entries.octets uses.entries)) := by
  have halone (l : Logger) (which : Fin 1) : (#v[l] : Vector Logger 1)[which] = l := by
    obtain rfl : which = 0 := Subsingleton.elim _ _
    rfl
  refine ⟨?_, ⟨rfl, rfl⟩, ?_⟩
  · intro directory
    refine ⟨rfl, rfl, ?_⟩
    intro uses
    rw [uses.run_eq (halone .off), Logger.recordAll_off]
  · intro d path opened
    -- the logger is made as its file is opened, so both fail or neither does
    have hopened : opened = ((t.openAppend path now).1.map (.on path), (t.openAppend path now).2) :=
      Logger.open?_on t d session now
    rcases t.openAppend_cases path now with ⟨file, hfile, hopen⟩ | ⟨hnone, e, hfailed⟩
    · rw [hopen] at hopened
      have hgrown := hfile.grown now
      refine .inr ⟨.on path file, file, t.withFile file now, hfile, hopened, rfl, rfl, hgrown,
        fun hthere => if_pos hthere, ?_⟩
      intro uses after
      have hafter : t.Grown file (Entries.octets uses.entries) after := by
        show t.Grown file _ (uses.run _ _)
        rw [uses.run_eq (halone (.on path file))]
        exact Logger.grown_recordAll path hgrown uses.entries
      exact ⟨hafter, hafter.read?_eq hfile.locate⟩
    · rw [hfailed] at hopened
      refine .inl ⟨hnone, e, ?_, hopened⟩
      rw [hfailed]

/-- The directory is reached over a link, and where the log should be, there is a link to a file
that is missing. The file is made where that link leads. -/
example :
    let logs : Location := [Utf8.ofString "logs"]
    let kept : Location := [Utf8.ofString "kept.log"]
    let t : Tree := .ofEntries [
      (logs, .directory),
      ([Utf8.ofString "today"], .link (.ofString "logs")),
      (logs ++ [Utf8.ofString "wire-1.log"], .link (.ofString "../kept.log"))]
    Logger.open? t true (some (.ofString "/today")) "1" 7 =
      (.ok (.on (.ofString "/today/wire-1.log") kept), t.put kept (.file [] 7)) := by
  rfl

end KatakanaLsp.Wire
