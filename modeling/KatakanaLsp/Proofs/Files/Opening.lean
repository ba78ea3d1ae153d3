import KatakanaLsp.Proofs.Files.Walk

/-!
# Opening files and making directories

Opening a file for appending follows the path, also where it goes along links. What can come of it
is said once:

> `openAppend_cases`: either a file can be opened at the path, and it is, made first if nothing
> stood there; or no file can, and opening fails and leaves the tree as it was.

A file that is made or grows does not change where any path leads (`Grown.locate_eq_ok_iff`). So who
reads at a path that leads to it gets what was there before and what was added:

> `Grown.read?_eq`: the content at such a path has grown by just that.

Making the directories on a path may fail halfway, with some of them made:

> `widened_createDirectories`: whether it succeeds or fails, there are more directories at most, and
> those where nothing stood.
-/

namespace KatakanaLsp.Files

/-- A path that can be walked: it is not empty, not too long and has no NUL in it. -/
structure Path.Fit (p : Path) : Prop where
  noNul : 0 ∉ p.octets
  notEmpty : p.octets ≠ []
  short : p.octets.length < Tree.pathLimit

namespace Tree

open KatakanaLsp.Files.Path (IsEntryName)

variable {t t' : Tree} {making : Bool} {p : Path} {loc file : Location} {data : Bytes} {now : Int}

/-! ## Where paths lead -/

/-- **A path leads to a location exactly if it can be walked and its names lead there**, from the
root or from where the program is. -/
theorem locate_eq_ok_iff :
    t.locate making p = .ok loc ↔
      p.Fit ∧ t.Leads making maxLinks (p.start t.current) p.steps loc := by
  unfold locate
  constructor
  · intro h
    split at h
    · cases h
    next hnul =>
      split at h
      · cases h
      next hempty =>
        split at h
        · cases h
        next hshort => exact ⟨⟨hnul, hempty, Nat.not_le.mp hshort⟩, walk_eq_ok_iff.mp h⟩
  · rintro ⟨hfit, hleads⟩
    rw [if_neg hfit.noNul, if_neg hfit.notEmpty, if_neg (Nat.not_le.mpr hfit.short)]
    exact walk_eq_ok_iff.mpr hleads

/-- Where directories and links are the same, paths lead to the same places. -/
theorem SameWays.locate_eq_ok_iff (h : SameWays t t') (hcurrent : t'.current = t.current) :
    t'.locate making p = .ok loc ↔ t.locate making p = .ok loc := by
  rw [Tree.locate_eq_ok_iff, Tree.locate_eq_ok_iff, hcurrent]
  refine and_congr_right fun _ => ⟨?_, ?_⟩
  · exact fun hleads => hleads.of_sameWays h.symm
  · exact fun hleads => hleads.of_sameWays h

/-- Where a file can be made, it is found. -/
theorem locate_passing (h : t.locate making p = .ok loc) : t.locate false p = .ok loc := by
  obtain ⟨hfit, hleads⟩ := locate_eq_ok_iff.mp h
  exact locate_eq_ok_iff.mpr ⟨hfit, hleads.passing⟩

/-- **A name that is joined to the path of a directory leads to an entry of that directory**, unless
a link stands there, if it leads anywhere. -/
theorem locate_join {name : String} (hname : IsEntryName (Utf8.ofString name)) {d : Path}
    (hd : d.octets ≠ []) (h : t.locate making (d.join name) = .ok loc) :
    ∃ place, t.locate false d = .ok place ∧
      ((∀ target, t.entry? (place ++ [Utf8.ofString name]) ≠ some (.link target)) →
        loc = place ++ [Utf8.ofString name]) := by
  obtain ⟨hfit, hleads⟩ := locate_eq_ok_iff.mp h
  rw [hname.steps_join, hname.start_join] at hleads
  obtain ⟨place, left, hway, hlast⟩ := hleads.exists_between
  obtain ⟨hpass, hentry⟩ := hlast.of_singleton hname
  have hbegins := hname.octets_prefix_join d
  have hdirectory : d.Fit :=
    ⟨fun hnul => hfit.noNul (hbegins.subset hnul), hd,
      Nat.lt_of_le_of_lt hbegins.length_le hfit.short⟩
  have hsteps : t.Leads false maxLinks (d.start t.current) d.steps place := by
    rcases d.steps_eq with hsame | hslash
    · rw [hsame]
      exact hway
    · rw [hslash]
      exact hway.concat_nil hpass.directory
  exact ⟨place, locate_eq_ok_iff.mpr ⟨hdirectory, hsteps⟩, hentry⟩

/-! ## Opening -/

/-- A file can be opened at a location: one stands there that may be written to, or nothing does, in
a directory that may be written to. -/
def HasRoom (t : Tree) (file : Location) : Prop :=
  t.entry? file = none ∧ t.bars file.dropLast .write = false ∨
    (t.content? file).isSome ∧ t.bars file .write = false

/-- A file can be opened for appending at a path: the path leads to where one can be. -/
structure Openable (t : Tree) (p : Path) (file : Location) : Prop where
  fit : p.Fit
  leads : t.Leads true maxLinks (p.start t.current) p.steps file
  room : t.HasRoom file

theorem Openable.locate (h : t.Openable p file) : t.locate true p = .ok file :=
  locate_eq_ok_iff.mpr ⟨h.fit, h.leads⟩

/-- The tree with a file at a location, where there was one or nothing. -/
def withFile (t : Tree) (file : Location) (now : Int) : Tree :=
  if (t.content? file).isSome then t else t.put file (.file [] now)

/-- Where there is room, the file is opened, and made first if it is missing. -/
theorem openAppend_of_hasRoom (hloc : t.locate true p = .ok file) (h : t.HasRoom file)
    (now : Int) : t.openAppend p now = (.ok file, t.withFile file now) := by
  rcases h with ⟨hnone, hallowed⟩ | ⟨hsome, hallowed⟩
  · have hcontent : t.content? file = none := by rw [content?, hnone]
    simp only [openAppend, hloc, hnone, hallowed, withFile, hcontent, Option.isSome_none,
      Bool.false_eq_true, if_false]
  · obtain ⟨content, modified, hfile⟩ := exists_file hsome
    simp only [openAppend, hloc, hfile, hallowed, withFile, hsome, Bool.false_eq_true, if_false,
      if_true]

/-- Where there is none, opening fails and leaves the tree as it was. -/
theorem openAppend_of_not_hasRoom (hloc : t.locate true p = .ok file) (h : ¬ t.HasRoom file)
    (now : Int) : ∃ e, t.openAppend p now = (.error e, t) := by
  cases hentry : t.entry? file with
  | none =>
    have hbarred : t.bars file.dropLast .write = true :=
      (Bool.not_eq_false _).mp fun hallowed => h (.inl ⟨hentry, hallowed⟩)
    exact ⟨.permissionDenied, by simp only [openAppend, hloc, hentry, hbarred, if_true]⟩
  | some e =>
    cases e with
    | file content modified =>
      have hsome : (t.content? file).isSome := by simp only [content?, hentry, Option.isSome_some]
      have hbarred : t.bars file .write = true :=
        (Bool.not_eq_false _).mp fun hallowed => h (.inr ⟨hsome, hallowed⟩)
      exact ⟨.permissionDenied, by simp only [openAppend, hloc, hentry, hbarred, if_true]⟩
    | directory => exact ⟨.isADirectory, by simp only [openAppend, hloc, hentry]⟩
    | link target => exact ⟨.tooManyLinks, by simp only [openAppend, hloc, hentry]⟩

/-- **What can come of opening a file.** -/
theorem openAppend_cases (t : Tree) (p : Path) (now : Int) :
    (∃ file, t.Openable p file ∧ t.openAppend p now = (.ok file, t.withFile file now)) ∨
      (∀ file, ¬ t.Openable p file) ∧ ∃ e, t.openAppend p now = (.error e, t) := by
  cases hloc : t.locate true p with
  | error e =>
    refine .inr ⟨fun file hfile => ?_, e, by rw [openAppend, hloc]⟩
    have hfound := hloc.symm.trans hfile.locate
    cases hfound
  | ok loc =>
    by_cases hroom : t.HasRoom loc
    · obtain ⟨hfit, hleads⟩ := locate_eq_ok_iff.mp hloc
      exact .inl ⟨loc, ⟨hfit, hleads, hroom⟩, openAppend_of_hasRoom hloc hroom now⟩
    · refine .inr ⟨fun file hfile => ?_, openAppend_of_not_hasRoom hloc hroom now⟩
      -- no other location can be meant
      obtain rfl : loc = file := Except.ok.inj (hloc.symm.trans hfile.locate)
      exact hroom hfile.room

/-- What is opened could be. -/
theorem openable_of_openAppend (h : t.openAppend p now = (.ok file, t')) : t.Openable p file := by
  rcases openAppend_cases t p now with ⟨loc, hopenable, hopened⟩ | ⟨-, e, hfailed⟩
  · obtain ⟨hsame, -⟩ := Prod.mk.inj (hopened.symm.trans h)
    rw [← Except.ok.inj hsame]
    exact hopenable
  · obtain ⟨hsame, -⟩ := Prod.mk.inj (hfailed.symm.trans h)
    cases hsame

/-- **Opening a file for appending keeps what it holds.** -/
theorem Openable.grown (h : t.Openable p file) (now : Int) :
    t.Grown file [] (t.withFile file now) := by
  unfold withFile
  rcases h.room with ⟨hentry, -⟩ | ⟨hcontent, -⟩
  · have hfile : file ≠ [] := by
      rintro rfl
      cases hentry
    have hnone : t.content? file = none := by rw [content?, hentry]
    rw [hnone, if_neg (by simp)]
    refine ⟨.inl hentry, ?_, fun loc hloc => (t.entry?_put_of_ne hloc _).symm, rfl, rfl⟩
    simp only [content?, entry?_put_self t hfile, hentry, Option.getD_none, List.append_nil]
  · rw [if_pos hcontent]
    refine ⟨.inr hcontent, ?_, fun loc _ => rfl, rfl, rfl⟩
    obtain ⟨content, hcontent⟩ := Option.isSome_iff_exists.mp hcontent
    rw [hcontent, Option.getD_some, List.append_nil]

/-! ## Reading -/

/-- What is read at a path, if it leads to a file. -/
def read? (t : Tree) (p : Path) : Option Bytes :=
  match t.locate false p with
  | .ok loc => t.content? loc
  | .error _ => none

theorem read?_of_locate (h : t.locate making p = .ok file) : t.read? p = t.content? file := by
  rw [read?, locate_passing h]

/-- A file that is made or grows is neither a directory nor a link. -/
theorem Grown.sameWays (h : t.Grown file data t') : SameWays t t' := by
  refine sameWays_of_kept h.barred fun e he loc => ?_
  by_cases hloc : loc = file
  · subst hloc
    have hnow : t'.entry? loc ≠ some e := by
      intro hthere
      have hcontent := h.content
      rw [content?_eq_none hthere he] at hcontent
      cases hcontent
    have hbefore : t.entry? loc ≠ some e := by
      intro hthere
      rcases h.free with hnone | hcontent
      · rw [hnone] at hthere
        cases hthere
      · rw [content?_eq_none hthere he] at hcontent
        cases hcontent
    exact iff_of_false hnow hbefore
  · rw [h.others loc hloc]

/-- **That a file is made or grows does not change where a path leads.** -/
theorem Grown.locate_eq_ok_iff (h : t.Grown file data t') :
    t'.locate making p = .ok loc ↔ t.locate making p = .ok loc :=
  h.sameWays.locate_eq_ok_iff h.current

/-- **What is read at a path to the file has grown as the file has.** -/
theorem Grown.read?_eq (h : t.Grown file data t') (hp : t.locate making p = .ok file) :
    t'.read? p = some ((t.read? p).getD [] ++ data) := by
  rw [read?_of_locate (h.locate_eq_ok_iff.mpr hp), read?_of_locate hp, h.content]

/-! ## Directories -/

/-- One tree is another with directories in some places where nothing stood. -/
structure Widened (t t' : Tree) : Prop where
  entries : ∀ loc, t'.entry? loc = t.entry? loc ∨
    t.entry? loc = none ∧ t'.entry? loc = some .directory
  current : t'.current = t.current
  barred : t'.barred = t.barred

theorem Widened.refl (t : Tree) : t.Widened t := ⟨fun _ => .inl rfl, rfl, rfl⟩

theorem Widened.trans {t'' : Tree} (h : t.Widened t') (h' : t'.Widened t'') : t.Widened t'' where
  entries loc := by
    rcases h'.entries loc with hsame | ⟨hfree, hmade⟩
    · rw [hsame]
      exact h.entries loc
    · rcases h.entries loc with hsame | ⟨-, hmade'⟩
      · exact .inr ⟨hsame.symm.trans hfree, hmade⟩
      · rw [hmade'] at hfree
        cases hfree
  current := h'.current.trans h.current
  barred := h'.barred.trans h.barred

/-- A directory is made where nothing stands. -/
theorem widened_put (h : t.entry? loc = none) : t.Widened (t.put loc .directory) where
  entries place := by
    by_cases hplace : place = loc
    · subst hplace
      have hroot : place ≠ [] := by
        rintro rfl
        cases h
      exact .inr ⟨h, t.entry?_put_self hroot _⟩
    · exact .inl (t.entry?_put_of_ne hplace _)
  current := rfl
  barred := rfl

theorem widened_makeDirectory (t : Tree) (start : Location) (way : List Name) (name : Name) :
    t.Widened (t.makeDirectory start way name).2 := by
  unfold makeDirectory
  split
  · exact .refl t
  next place _ =>
    split
    · split
      · exact .refl t
      split
      · exact .refl t
      split
      · exact .refl t
      split
      · exact .refl t
      next hthere =>
        split
        · exact .refl t
        · exact widened_put (Option.not_isSome_iff_eq_none.mp hthere)
    · exact .refl t
    · exact .refl t
    · exact .refl t

theorem widened_ensureDirectory (t : Tree) (start : Location) (way : List Name) (name : Name) :
    t.Widened (t.ensureDirectory start way name).2 := by
  have hmade := t.widened_makeDirectory start way name
  unfold ensureDirectory
  split
  next hfailed => rwa [hfailed] at hmade
  next hdone => rwa [hdone] at hmade

/-- The directories on a path are made from above, each in the tree that the others leave. -/
theorem widened_ensureAlong (t : Tree) (start : Location) (names : List Name) :
    t.Widened (t.ensureAlong start names).2 := by
  induction names with
  | nil => exact .refl t
  | cons name way ih =>
    have hfirst := t.widened_ensureDirectory start way.reverse name
    unfold ensureAlong
    split
    · split
      next left habove =>
        rw [habove] at ih
        exact ih.trans (left.widened_ensureDirectory start way.reverse name)
      next habove => rwa [habove] at ih
    · exact hfirst

/-- **Making directories adds directories and changes nothing else**, also where it fails. -/
theorem widened_createDirectories (t : Tree) (p : Path) : t.Widened (t.createDirectories p).2 := by
  unfold createDirectories
  split
  · exact .refl t
  · split
    · exact .refl t
    · exact t.widened_ensureAlong _ _

end Tree

end KatakanaLsp.Files
