import KatakanaLsp.Logging.Setup
import KatakanaLsp.Proofs.Files.Opening
import Mathlib.Data.Set.Card

/-!
# What a clean-up removes

A clean-up deletes files of the user, so it has to be right about each of them. What it should
remove is said without the way it goes about it:

> `Tree.Expired`: what stands at a location has expired if it is a file in the directory, with the
> name of an artifact, that was left alone for longer than such are kept.

The locations that the clean-up picks are those (`mem_picked_iff`), each once, and one erasure after
another leaves everything else alone (`entry?_eraseAll_of_not_mem`). So what is left is a matter of
what stood where, and of no order (`CleanedUp.congr`). The path of the directory still leads to it
(`CleanedUp.sameWays`), so that the clean-up can be repeated:

> `cleanUp_removes_expired`: a clean-up removes what has expired and nothing else, and the logs that
> the server writes have names that a clean-up of their directory looks for.
-/

namespace KatakanaLsp.Files

/-! ## Names of artifacts -/

/-- The names of session logs and of wire logs: text of one of two forms. -/
def IsArtifact (name : Name) : Prop :=
  ∃ text middle : String, name = Utf8.ofString text ∧
    (text = "session-" ++ middle ++ ".log" ∨ text = "wire-" ++ middle ++ ".log")

/-- A text with some beginning and some end has a middle, if the end does not start within that
beginning. -/
theorem exists_middle_iff {front back : String} {c : Char} (text : String)
    (hstart : back.toList.head? = some c) (hapart : c ∉ front.toList) :
    (∃ middle, text = front ++ middle ++ back) ↔
      front.toList <+: text.toList ∧ back.toList <:+ text.toList := by
  constructor
  · intro h
    obtain ⟨middle, rfl⟩ := h
    rw [String.toList_append, String.toList_append]
    refine ⟨?_, List.suffix_append _ _⟩
    rw [List.append_assoc]
    exact List.prefix_append _ _
  · intro h
    obtain ⟨⟨rest, hrest⟩, before, hbefore⟩ := h
    -- the two could only overlap in characters that are in both, of which the first is `c`
    obtain ⟨middle, hmiddle⟩ : ∃ middle, text.toList = front.toList ++ middle ++ back.toList := by
      rw [← hrest] at hbefore ⊢
      rcases List.append_eq_append_iff.mp hbefore with ⟨overlap, hfront, hback⟩ | ⟨middle, -, hend⟩
      · cases overlap with
        | nil => exact ⟨[], by rw [hback, List.nil_append, List.append_nil]⟩
        | cons d overlap =>
          rw [hback] at hstart
          obtain rfl : d = c := Option.some.inj hstart
          rw [hfront] at hapart
          exact absurd (List.mem_append_right _ List.mem_cons_self) hapart
      · exact ⟨middle, by rw [hend, List.append_assoc]⟩
    refine ⟨.ofList middle, String.toList_inj.mp ?_⟩
    rw [hmiddle, String.toList_append, String.toList_append, String.toList_ofList]

/-- The texts that count as names of artifacts. The suffix starts with a dot, which is in neither
prefix. -/
theorem isArtifactName_iff {text : String} :
    isArtifactName text = true ↔ ∃ middle,
      text = "session-" ++ middle ++ ".log" ∨ text = "wire-" ++ middle ++ ".log" := by
  have hdot : ".log".toList.head? = some '.' := by decide
  rw [exists_or, exists_middle_iff text hdot (by decide), exists_middle_iff text hdot (by decide),
    ← or_and_right]
  unfold isArtifactName
  rw [Bool.and_eq_true, Bool.or_eq_true, List.isPrefixOf_iff_prefix, List.isPrefixOf_iff_prefix,
    List.isSuffixOf_iff_suffix]

/-- Names that are no text are not looked at. -/
theorem isArtifact_iff {name : Name} :
    ((Utf8.toString? name).map isArtifactName).getD false = true ↔ IsArtifact name := by
  constructor
  · intro h
    cases htext : Utf8.toString? name with
    | none =>
      rw [htext] at h
      cases h
    | some text =>
      rw [htext] at h
      obtain ⟨middle, hmiddle⟩ := isArtifactName_iff.mp h
      exact ⟨text, middle, Utf8.toString?_eq_some_iff.mp htext, hmiddle⟩
  · intro h
    obtain ⟨text, middle, hname, hmiddle⟩ := h
    rw [Utf8.toString?_eq_some_iff.mpr hname]
    exact isArtifactName_iff.mpr ⟨middle, hmiddle⟩

/-! ## Expired entries -/

/-- What stands at a location has expired: it is a file in the directory, with the name of an
artifact, that was left alone for longer than such are kept. -/
def Tree.Expired (t : Tree) (directory : Location) (now : Int) (retention : Nat) (loc : Location) :
    Prop :=
  ∃ name content modified, loc = directory ++ [name] ∧ IsArtifact name ∧
    t.entry? loc = some (.file content modified) ∧ (retention : Int) < now - modified

variable {t t' left left' : Tree} {directory loc : Location} {now : Int} {retention longer : Nat}
  {name : Name} {locs : List Location} {removed removed' : Nat}

/-- What is not kept longer is not kept. -/
theorem Tree.Expired.of_le (hlonger : retention ≤ longer)
    (h : t.Expired directory now longer loc) : t.Expired directory now retention loc := by
  obtain ⟨name, content, modified, hloc, hname, hentry, hage⟩ := h
  exact ⟨name, content, modified, hloc, hname, hentry, by omega⟩

/-- Whether something has expired is a matter of what stands where. -/
theorem Tree.expired_congr (h : ∀ loc, t'.entry? loc = t.entry? loc) :
    t'.Expired directory now retention loc ↔ t.Expired directory now retention loc := by
  unfold Tree.Expired
  rw [h]

/-- Files alone expire, and those of the future do not. -/
theorem Tree.Expired.before (h : t.Expired directory now retention loc) :
    ∃ content modified, t.entry? loc = some (.file content modified) ∧ modified < now := by
  obtain ⟨-, content, modified, -, -, hentry, hage⟩ := h
  exact ⟨content, modified, hentry, by omega⟩

/-! ## What is picked -/

theorem isExpired_iff {e : Entry} :
    isExpired now retention name e = true ↔ ∃ content modified, IsArtifact name ∧
      e = .file content modified ∧ (retention : Int) < now - modified := by
  cases e with
  | file content modified =>
    rw [isExpired, Bool.and_eq_true, isArtifact_iff, decide_eq_true_iff]
    constructor
    · intro h
      exact ⟨content, modified, h.1, rfl, h.2⟩
    · intro h
      obtain ⟨content', modified', hname, hsame, hage⟩ := h
      obtain ⟨rfl, rfl⟩ := Entry.file.inj hsame
      exact ⟨hname, hage⟩
  | directory => simp [isExpired]
  | link target => simp [isExpired]

/-- The locations that a clean-up picks. -/
def picked (t : Tree) (directory : Location) (now : Int) (retention : Nat) : List Location :=
  (expiredIn t directory now retention).map (directory ++ [·])

/-- **A clean-up picks what has expired.** -/
theorem mem_picked_iff :
    loc ∈ picked t directory now retention ↔ t.Expired directory now retention loc := by
  rw [picked, List.mem_map]
  constructor
  · intro h
    obtain ⟨name, hin, rfl⟩ := h
    obtain ⟨⟨other, e⟩, hlisted, rfl⟩ := List.mem_map.mp hin
    obtain ⟨hlisted, hexpired⟩ := List.mem_filter.mp hlisted
    obtain ⟨content, modified, hname, rfl, hage⟩ := isExpired_iff.mp hexpired
    exact ⟨other, content, modified, rfl, hname, Tree.mem_listing_iff.mp hlisted, hage⟩
  · intro h
    obtain ⟨name, content, modified, rfl, hname, hentry, hage⟩ := h
    have hexpired : isExpired now retention name (.file content modified) = true :=
      isExpired_iff.mpr ⟨content, modified, hname, rfl, hage⟩
    refine ⟨name, List.mem_map.mpr ⟨(name, .file content modified), ?_, rfl⟩, rfl⟩
    exact List.mem_filter.mpr ⟨Tree.mem_listing_iff.mpr hentry, hexpired⟩

/-- A clean-up picks each location once. -/
theorem nodup_picked (t : Tree) (directory : Location) (now : Int) (retention : Nat) :
    (picked t directory now retention).Nodup := by
  refine List.Nodup.map ?_ ((t.nodup_names_listing directory).sublist (List.filter_sublist.map _))
  intro name other hsame
  simpa using hsame

/-- The locations where something has expired, as a set of finitely many. -/
theorem setOf_expired (t : Tree) (directory : Location) (now : Int) (retention : Nat) :
    {loc | t.Expired directory now retention loc} =
      ((picked t directory now retention).toFinset : Set Location) := by
  ext loc
  rw [Finset.mem_coe, List.mem_toFinset]
  exact mem_picked_iff.symm

/-! ## What is removed -/

/-- The tree with nothing at some locations. -/
def Tree.eraseAll (t : Tree) (locs : List Location) : Tree := locs.foldl Tree.erase t

/-- What is at no such location is left alone. -/
theorem Tree.entry?_eraseAll_of_not_mem (t : Tree) (h : loc ∉ locs) :
    Tree.entry? (t.eraseAll locs) loc = t.entry? loc := by
  induction locs generalizing t with
  | nil => rfl
  | cons first locs ih =>
    obtain ⟨hfirst, hlocs⟩ := List.ne_and_not_mem_of_not_mem_cons h
    show Tree.entry? ((t.erase first).eraseAll locs) loc = _
    rw [ih _ hlocs, t.entry?_erase_of_ne hfirst]

/-- What is at such a location is gone. -/
theorem Tree.entry?_eraseAll_of_mem (t : Tree) (hloc : loc ≠ []) (h : loc ∈ locs) :
    Tree.entry? (t.eraseAll locs) loc = none := by
  induction locs generalizing t with
  | nil => cases h
  | cons first locs ih =>
    show Tree.entry? ((t.erase first).eraseAll locs) loc = none
    -- what is erased first must not come back, even if it is not erased again
    by_cases hlater : loc ∈ locs
    · exact ih _ hlater
    · obtain rfl : loc = first := (List.mem_cons.mp h).resolve_right hlater
      rw [entry?_eraseAll_of_not_mem _ hlater, t.entry?_erase_self hloc]

/-- Erasing changes neither where the program is nor what it may do. -/
theorem Tree.eraseAll_keeps (t : Tree) (locs : List Location) :
    (t.eraseAll locs).current = t.current ∧ (t.eraseAll locs).barred = t.barred := by
  induction locs generalizing t with
  | nil => exact ⟨rfl, rfl⟩
  | cons first locs ih => exact ih (t.erase first)

/-- What a clean-up of a directory leaves, and how much it removed: what has expired is gone,
everything else is left alone, and what is gone was counted. -/
structure CleanedUp (t : Tree) (directory : Location) (now : Int) (retention : Nat) (removed : Nat)
    (left : Tree) : Prop where
  expired : ∀ loc, t.Expired directory now retention loc → left.entry? loc = none
  others : ∀ loc, ¬ t.Expired directory now retention loc → left.entry? loc = t.entry? loc
  counted : removed = {loc | t.Expired directory now retention loc}.ncard
  current : left.current = t.current
  barred : left.barred = t.barred

/-- A path leads to a directory that can be listed. -/
structure Tree.Listable (t : Tree) (p : Path) (directory : Location) : Prop where
  located : t.locate false p = .ok directory
  stands : t.entry? directory = some .directory
  listed : t.bars directory .list = false

/-- The entries of a directory can be looked at and removed. -/
structure Tree.Tidiable (t : Tree) (directory : Location) : Prop where
  searched : t.bars directory .search = false
  written : t.bars directory .write = false

variable {p : Path}

/-- A clean-up erases what it picks. -/
theorem cleanUp_of_tidiable (hlist : t.Listable p directory) (htidy : t.Tidiable directory) :
    cleanUp t p now retention =
      (.ok (picked t directory now retention).length,
        t.eraseAll (picked t directory now retention)) := by
  unfold cleanUp picked Tree.eraseAll
  simp only [hlist.located, hlist.stands, hlist.listed, htidy.searched, htidy.written,
    Bool.or_false, Bool.false_eq_true, if_false, List.length_map, List.foldl_map]

/-- Entries that cannot be looked at or cannot be removed are left alone. -/
theorem cleanUp_of_not_tidiable (hlist : t.Listable p directory) (htidy : ¬ t.Tidiable directory) :
    cleanUp t p now retention = (.ok 0, t) := by
  have hbarred : (t.bars directory .search || t.bars directory .write) = true := by
    by_contra hallowed
    obtain ⟨hsearch, hwrite⟩ := Bool.or_eq_false_iff.mp (eq_false_of_ne_true hallowed)
    exact htidy ⟨hsearch, hwrite⟩
  unfold cleanUp
  simp only [hlist.located, hlist.stands, hlist.listed, hbarred, Bool.false_eq_true, if_false,
    if_true]

/-- A directory that cannot be listed is not cleaned up. -/
theorem cleanUp_of_not_listable (h : ∀ directory, ¬ t.Listable p directory) :
    ∃ e, cleanUp t p now retention = (.error e, t) := by
  unfold cleanUp
  split
  · exact ⟨_, rfl⟩
  next directory hlocated =>
    split
    next hdirectory =>
      have hbarred : t.bars directory .list = true := by
        by_contra hlisted
        exact h directory ⟨hlocated, hdirectory, eq_false_of_ne_true hlisted⟩
      rw [if_pos hbarred]
      exact ⟨_, rfl⟩
    · exact ⟨_, rfl⟩
    · exact ⟨_, rfl⟩
    · exact ⟨_, rfl⟩

/-- A directory that can be listed is cleaned up. -/
theorem cleanedUp_cleanUp (hlist : t.Listable p directory) (htidy : t.Tidiable directory)
    (now : Int) (retention : Nat) :
    ∃ removed left, cleanUp t p now retention = (.ok removed, left) ∧
      CleanedUp t directory now retention removed left := by
  obtain ⟨hcurrent, hbarred⟩ := t.eraseAll_keeps (picked t directory now retention)
  refine ⟨_, _, cleanUp_of_tidiable hlist htidy, ?_, ?_, ?_, hcurrent, hbarred⟩
  · intro loc hloc
    obtain ⟨content, modified, hentry, -⟩ := hloc.before
    exact t.entry?_eraseAll_of_mem (Tree.ne_nil_of_file hentry) (mem_picked_iff.mpr hloc)
  · intro loc hloc
    exact t.entry?_eraseAll_of_not_mem (mt mem_picked_iff.mp hloc)
  · rw [setOf_expired, Set.ncard_coe_finset, List.toFinset_card_of_nodup (nodup_picked ..)]

namespace CleanedUp

/-- Only files are gone, so every path to a directory leads there still. -/
theorem sameWays (h : CleanedUp t directory now retention removed left) :
    Tree.SameWays t left := by
  refine Tree.sameWays_of_kept h.barred fun e he loc => ?_
  by_cases hloc : t.Expired directory now retention loc
  · obtain ⟨content, modified, hentry, -⟩ := hloc.before
    rw [h.expired loc hloc, hentry]
    exact ⟨nofun, fun hsame => absurd (Option.some.inj hsame).symm (he content modified)⟩
  · rw [h.others loc hloc]

/-- A directory is still there after it was cleaned up. -/
theorem listable (h : CleanedUp t directory now retention removed left)
    (hlist : t.Listable p directory) : left.Listable p directory where
  located := (h.sameWays.locate_eq_ok_iff h.current).mpr hlist.located
  stands := by
    rw [h.others directory, hlist.stands]
    intro hexpired
    obtain ⟨content, modified, hentry, -⟩ := hexpired.before
    rw [hlist.stands] at hentry
    cases hentry
  listed := by
    rw [Tree.bars, h.barred]
    exact hlist.listed

/-- And it may be changed still. -/
theorem tidiable (h : CleanedUp t directory now retention removed left)
    (htidy : t.Tidiable directory) : left.Tidiable directory := by
  constructor
  · rw [Tree.bars, h.barred]
    exact htidy.searched
  · rw [Tree.bars, h.barred]
    exact htidy.written

/-- Nothing that has expired is left. -/
theorem not_expired (h : CleanedUp t directory now retention removed left) (loc : Location) :
    ¬ left.Expired directory now retention loc := by
  intro hexpired
  obtain ⟨name, content, modified, hloc, hname, hentry, hage⟩ := hexpired
  by_cases hbefore : t.Expired directory now retention loc
  · rw [h.expired loc hbefore] at hentry
    cases hentry
  · rw [h.others loc hbefore] at hentry
    exact hbefore ⟨name, content, modified, hloc, hname, hentry, hage⟩

/-- **Cleaning up once more removes nothing.** -/
theorem again (h : CleanedUp t directory now retention removed left)
    (hlist : t.Listable p directory) (htidy : t.Tidiable directory) :
    cleanUp left p now retention = (.ok 0, left) := by
  have hnone : picked left directory now retention = [] := by
    rw [List.eq_nil_iff_forall_not_mem]
    intro loc hloc
    exact h.not_expired loc (mem_picked_iff.mp hloc)
  rw [cleanUp_of_tidiable (h.listable hlist) (h.tidiable htidy), hnone]
  rfl

/-- **What a clean-up leaves is a matter of what stood where**, and so is how much it removes. -/
theorem congr (h : CleanedUp t directory now retention removed left)
    (h' : CleanedUp t' directory now retention removed' left')
    (hsame : ∀ loc, t'.entry? loc = t.entry? loc) :
    removed' = removed ∧ ∀ loc, left'.entry? loc = left.entry? loc := by
  have hexpired (loc : Location) : t'.Expired directory now retention loc ↔
      t.Expired directory now retention loc := Tree.expired_congr hsame
  constructor
  · rw [h'.counted, h.counted]
    simp only [hexpired]
  · intro loc
    by_cases hloc : t.Expired directory now retention loc
    · rw [h.expired loc hloc, h'.expired loc ((hexpired loc).mpr hloc)]
    · rw [h.others loc hloc, h'.others loc (mt (hexpired loc).mp hloc), hsame]

/-- **What is kept longer is removed less.** -/
theorem of_le (h : CleanedUp t directory now retention removed left)
    (h' : CleanedUp t directory now longer removed' left') (hlonger : retention ≤ longer) :
    removed' ≤ removed ∧ ∀ loc, left'.entry? loc = none → left.entry? loc = none := by
  constructor
  · rw [h.counted, h'.counted]
    refine Set.ncard_le_ncard (fun loc hloc => hloc.of_le hlonger) ?_
    rw [setOf_expired]
    exact Finset.finite_toSet _
  · intro loc hnothing
    by_cases hloc : t.Expired directory now retention loc
    · exact h.expired loc hloc
    · rw [h.others loc hloc, ← h'.others loc (mt (·.of_le hlonger) hloc), hnothing]

end CleanedUp

/-! ## Names of the logs that are written -/

/-- The files that the server writes in a session: its wire log and its session log. -/
def IsLogOf (session file : String) : Prop :=
  file = Wire.Logger.fileName session ∨ file = Logging.sessionFileName session

variable {session file : String}

theorem IsLogOf.isArtifact (h : IsLogOf session file) : IsArtifact (Utf8.ofString file) := by
  rcases h with rfl | rfl
  · exact ⟨_, session, rfl, .inr rfl⟩
  · exact ⟨_, session, rfl, .inl rfl⟩

theorem IsLogOf.isEntryName (h : IsLogOf session file) (hsession : '/' ∉ session.toList) :
    Path.IsEntryName (Utf8.ofString file) := by
  have hslash : '/' ∉ file.toList := by
    rcases h with rfl | rfl
    · simp [Wire.Logger.fileName, hsession]
    · simp [Logging.sessionFileName, hsession]
  -- a name with five characters at least is none of the short ones
  have hlong : 4 < file.toList.length := by
    rcases h with rfl | rfl
    · simp [Wire.Logger.fileName]
    · simp [Logging.sessionFileName]
  have hshort (short : List Char) (hlength : short.length ≤ 4) :
      Utf8.ofString file ≠ Utf8.encode short := by
    intro hsame
    rw [Utf8.encode_injective hsame] at hlong
    omega
  exact ⟨fun hin => hslash ((Utf8.mem_encode (by decide)).mp hin),
    hshort [] (by decide), hshort ['.'] (by decide), hshort ['.', '.'] (by decide)⟩

/-! ## Clean-ups -/

/-- **A clean-up removes what has expired and nothing else.** Where the path leads to a directory
that can be listed, it succeeds; the entries that have expired are gone and counted, all others are
as they were; a file of the future stays; cleaning up once more removes nothing; in whatever order
the entries are listed, the outcome is the same; and what is kept longer is removed less. If the
entries cannot be looked at or removed, nothing is. Where the directory cannot be listed, the
clean-up fails and removes nothing. The logs that the server writes in a directory have names of
artifacts, and it is there that they are made. -/
theorem cleanUp_removes_expired (t : Tree) (p : Path) (now : Int) (retention : Nat) :
    (∀ directory, t.Listable p directory → t.Tidiable directory → ∃ removed left,
      cleanUp t p now retention = (.ok removed, left) ∧
      CleanedUp t directory now retention removed left ∧
      (∀ loc content modified, t.entry? loc = some (.file content modified) → now ≤ modified →
        left.entry? loc = t.entry? loc) ∧
      cleanUp left p now retention = (.ok 0, left) ∧
      (∀ t' : Tree, t'.entries.Perm t.entries → t'.current = t.current → t'.barred = t.barred →
        ∃ left', cleanUp t' p now retention = (.ok removed, left') ∧
          ∀ loc, left'.entry? loc = left.entry? loc) ∧
      (∀ longer, retention ≤ longer →
        ∃ fewer more, cleanUp t p now longer = (.ok fewer, more) ∧
          fewer ≤ removed ∧ ∀ loc, more.entry? loc = none → left.entry? loc = none)) ∧
    (∀ directory, t.Listable p directory → ¬ t.Tidiable directory →
      cleanUp t p now retention = (.ok 0, t)) ∧
    ((∀ directory, ¬ t.Listable p directory) → ∃ e, cleanUp t p now retention = (.error e, t)) ∧
    (∀ session file, '/' ∉ session.toList → IsLogOf session file →
      IsArtifact (Utf8.ofString file) ∧
      ∀ (d : Path) loc left, d.octets ≠ [] → t.openAppend (d.join file) now = (.ok loc, left) →
        ∃ place, t.locate false d = .ok place ∧
          ((∀ target, t.entry? (place ++ [Utf8.ofString file]) ≠ some (.link target)) →
            loc = place ++ [Utf8.ofString file])) := by
  refine ⟨?_, fun _ => cleanUp_of_not_tidiable, cleanUp_of_not_listable, ?_⟩
  · intro directory hlist htidy
    obtain ⟨removed, left, hcleaned, h⟩ := cleanedUp_cleanUp hlist htidy now retention
    refine ⟨removed, left, hcleaned, h, ?_, h.again hlist htidy, ?_, ?_⟩
    · intro loc content modified hentry hfuture
      apply h.others
      intro hexpired
      obtain ⟨content', modified', hentry', hpast⟩ := hexpired.before
      rw [hentry] at hentry'
      obtain ⟨rfl, rfl⟩ := Entry.file.inj (Option.some.inj hentry')
      omega
    · intro t' hperm hcurrent hbarred
      have hsame := Tree.entry?_of_perm hperm
      have hways : Tree.SameWays t t' :=
        Tree.sameWays_of_kept hbarred fun e _ loc => by rw [hsame]
      have hbars (r : Right) : t'.bars directory r = t.bars directory r := by
        rw [Tree.bars, Tree.bars, hbarred]
      have hlist' : t'.Listable p directory :=
        ⟨(hways.locate_eq_ok_iff hcurrent).mpr hlist.located,
          (hsame directory).trans hlist.stands, (hbars .list).trans hlist.listed⟩
      have htidy' : t'.Tidiable directory :=
        ⟨(hbars .search).trans htidy.searched, (hbars .write).trans htidy.written⟩
      obtain ⟨removed', left', hcleaned', h'⟩ := cleanedUp_cleanUp hlist' htidy' now retention
      obtain ⟨hcount, hleft⟩ := h.congr h' hsame
      exact ⟨left', hcount ▸ hcleaned', hleft⟩
    · intro longer hlonger
      obtain ⟨fewer, more, hcleaned', h'⟩ := cleanedUp_cleanUp hlist htidy now longer
      obtain ⟨hfewer, hmore⟩ := h.of_le h' hlonger
      exact ⟨fewer, more, hcleaned', hfewer, hmore⟩
  · intro session file hsession hfile
    refine ⟨hfile.isArtifact, ?_⟩
    intro d loc left hd hopened
    exact Tree.locate_join (hfile.isEntryName hsession) hd
      (Tree.openable_of_openAppend hopened).locate

/-- A name that is no text, though it begins and ends like that of an artifact. -/
def brokenName : Name := Utf8.ofString "wire-" ++ 0xFF :: Utf8.ofString ".log"

/-- The directory of some logs. -/
def logs : Location := [Utf8.ofString "logs"]

/-- The path by which it is reached, over a link. -/
def logsPath : Path := .ofString "/current/"

/-- A directory with two expired artifacts, and with what may not be taken for one: what is just
not old enough, is of the future, is a link, is a directory, is not named by text or has another
name. -/
def cluttered : Tree :=
  .ofEntries [
    (logs, .directory),
    ([Utf8.ofString "current"], .link (.ofString "logs")),
    (logs ++ [Utf8.ofString "session-1.log"], .file [1] 899),
    (logs ++ [Utf8.ofString "wire-.log"], .file [] 0),
    (logs ++ [Utf8.ofString "wire-2.log"], .file [2] 900),
    (logs ++ [Utf8.ofString "wire-3.log"], .file [3] 2000),
    (logs ++ [Utf8.ofString "session-4.log"], .link (.ofString "session-1.log")),
    (logs ++ [Utf8.ofString "session-5.log"], .directory),
    (logs ++ [brokenName], .file [] 0),
    (logs ++ [Utf8.ofString "session.log"], .file [] 0),
    (logs ++ [Utf8.ofString "notes.txt"], .file [] 0)]

theorem cleanUp_removes_cluttered :
    cluttered.Listable logsPath logs ∧ cluttered.Tidiable logs ∧
    ∃ left, cleanUp cluttered logsPath 1000 100 = (.ok 2, left) ∧
      (∀ loc ∈ [logs ++ [Utf8.ofString "session-1.log"], logs ++ [Utf8.ofString "wire-.log"]],
        left.entry? loc = none) ∧
      (∀ loc ∉ [logs ++ [Utf8.ofString "session-1.log"], logs ++ [Utf8.ofString "wire-.log"]],
        left.entry? loc = cluttered.entry? loc) ∧
      cleanUp left logsPath 1000 100 = (.ok 0, left) := by
  have hlist : cluttered.Listable logsPath logs :=
    ⟨by decide +kernel, by decide +kernel, by decide +kernel⟩
  have htidy : cluttered.Tidiable logs := ⟨by decide +kernel, by decide +kernel⟩
  have hpicked : picked cluttered logs 1000 100 =
      [logs ++ [Utf8.ofString "session-1.log"], logs ++ [Utf8.ofString "wire-.log"]] := by
    decide +kernel
  obtain ⟨removed, left, hcleaned, h, -, hagain, -⟩ :=
    (cleanUp_removes_expired cluttered logsPath 1000 100).1 logs hlist htidy
  have htwo : removed = 2 := by
    rw [cleanUp_of_tidiable hlist htidy, hpicked] at hcleaned
    exact (Except.ok.inj (Prod.mk.inj hcleaned).1).symm
  refine ⟨hlist, htidy, left, htwo ▸ hcleaned, ?_, ?_, hagain⟩
  · intro loc hloc
    rw [← hpicked] at hloc
    exact h.expired loc (mem_picked_iff.mp hloc)
  · intro loc hloc
    rw [← hpicked] at hloc
    exact h.others loc (mt mem_picked_iff.mpr hloc)

end KatakanaLsp.Files
