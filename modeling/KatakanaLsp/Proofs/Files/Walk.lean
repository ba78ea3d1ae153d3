import KatakanaLsp.Files.Walk
import KatakanaLsp.Proofs.Files.Path
import KatakanaLsp.Proofs.Files.Tree

/-!
# Where a path leads

`Leads` says where a walk comes to, one constructor for each kind of step: to stay, to go up, to
enter what a name stands for, or to follow a link. It has nothing of the stretches in which `walk`
goes along names, nor of its failures, and the two agree:

> `walk_eq_ok_iff`: a walk succeeds exactly if the names lead somewhere, and comes to that location.

A walk depends on directories and links alone (`Leads.of_sameWays`), so it makes no difference to it
that a file is made or grows. And a walk along two lists of names comes by a location where the
first ends (`Leads.exists_between`); with one name left there, that of an entry, it comes to the
entry or goes along the link that stands there (`Leads.of_singleton`).
-/

namespace KatakanaLsp.Files.Tree

open KatakanaLsp.Files.Path (IsEntryName)

variable {t t' : Tree} {making : Bool} {links : Nat} {loc place file : Location} {name : Name}
  {names more : List Name}

/-! ## Single steps -/

/-- A walk can pass a location where a directory stands that may be searched. -/
structure Passable (t : Tree) (loc : Location) : Prop where
  directory : t.entry? loc = some .directory
  searched : t.bars loc .search = false

/-- A step leaves a walk in the directory where it is: a step to no name, which asks only that there
is one, or a dot. -/
structure Stays (t : Tree) (loc : Location) (name : Name) : Prop where
  directory : t.entry? loc = some .directory
  nowhere : name = [] ∨ name = Path.here ∧ t.bars loc .search = false

/-- A name can be looked up in a directory that can be passed: it is neither empty nor a dot, is not
too long, and has no slash alone behind it if it may be made. -/
structure LooksUp (t : Tree) (making : Bool) (loc : Location) (name : Name) (rest : List Name) :
    Prop where
  passable : t.Passable loc
  notEmpty : name ≠ []
  notHere : name ≠ Path.here
  notAbove : name ≠ Path.above
  unslashed : ¬ (making = true ∧ rest = [[]])
  short : name.length ≤ maxNameLength

/-- What can be looked up to be made can be looked up to pass, whatever is behind it. -/
theorem LooksUp.passing {rest : List Name} (h : t.LooksUp making loc name rest)
    (rest' : List Name) : t.LooksUp false loc name rest' :=
  { h with unslashed := fun hmaking => Bool.false_ne_true hmaking.1 }

/-- From a location, some names lead to a place, over no more than so many links. -/
inductive Leads (t : Tree) (making : Bool) : Nat → Location → List Name → Location → Prop where
  | ended {links : Nat} {loc : Location} : Leads t making links loc [] loc
  | stay {links : Nat} {loc place : Location} {name : Name} {rest : List Name} :
      t.Stays loc name → Leads t making links loc rest place →
      Leads t making links loc (name :: rest) place
  | ascend {links : Nat} {loc place : Location} {rest : List Name} :
      t.Passable loc → Leads t making links loc.dropLast rest place →
      Leads t making links loc (Path.above :: rest) place
  | enter {links : Nat} {loc place : Location} {name : Name} {rest : List Name} :
      t.LooksUp making loc name rest → (∀ target, t.entry? (loc ++ [name]) ≠ some (.link target)) →
      Leads t making links (loc ++ [name]) rest place →
      Leads t making links loc (name :: rest) place
  | follow {links : Nat} {loc place : Location} {name : Name} {rest : List Name} {target : Path} :
      t.LooksUp making loc name rest → t.entry? (loc ++ [name]) = some (.link target) →
      target.octets ≠ [] →
      Leads t making links (target.start loc) (target.steps ++ rest) place →
      Leads t making (links + 1) loc (name :: rest) place

/-! ## Stretches -/

theorem stretch_stay (h : t.Stays loc name) (rest : List Name) :
    t.stretch making loc (name :: rest) = t.stretch making loc rest := by
  rcases h.nowhere with rfl | ⟨rfl, hsearched⟩
  · simp only [stretch, h.directory, if_true]
  · have hname : Path.here ≠ [] := by decide
    simp only [stretch, h.directory, hsearched, if_neg hname, Bool.false_eq_true, if_false, if_true]

theorem stretch_ascend (h : t.Passable loc) (rest : List Name) :
    t.stretch making loc (Path.above :: rest) = t.stretch making loc.dropLast rest := by
  have hempty : Path.above ≠ [] := by decide
  have hhere : Path.above ≠ Path.here := by decide
  simp only [stretch, h.directory, h.searched, if_neg hempty, if_neg hhere, if_true,
    Bool.false_eq_true, if_false]

/-- A name that can be looked up is a link to follow, or a place to go on from. -/
theorem stretch_lookUp {rest : List Name} (h : t.LooksUp making loc name rest) :
    (∀ target, t.entry? (loc ++ [name]) = some (.link target) →
      t.stretch making loc (name :: rest) = .ok (.link loc target rest)) ∧
    ((∀ target, t.entry? (loc ++ [name]) ≠ some (.link target)) →
      t.stretch making loc (name :: rest) = t.stretch making (loc ++ [name]) rest) := by
  have hshort : ¬ maxNameLength < name.length := Nat.not_lt.mpr h.short
  constructor
  · intro target hlink
    simp only [stretch, h.passable.directory, h.passable.searched, if_neg h.notEmpty,
      if_neg h.notHere, if_neg h.notAbove, if_neg h.unslashed, if_neg hshort, hlink,
      Bool.false_eq_true, if_false]
  · intro hno
    simp only [stretch, h.passable.directory, h.passable.searched, if_neg h.notEmpty,
      if_neg h.notHere, if_neg h.notAbove, if_neg h.unslashed, if_neg hshort,
      Bool.false_eq_true, if_false]

/-- Where a walk comes to after a stretch. -/
def Stretch.LeadsOn (t : Tree) (making : Bool) (links : Nat) (place : Location) : Stretch → Prop
  | .ended loc => loc = place
  | .link directory target rest => ∃ left, links = left + 1 ∧ target.octets ≠ [] ∧
      t.Leads making left (target.start directory) (target.steps ++ rest) place

/-- Every stretch is made of such steps. -/
theorem leads_of_stretch {s : Stretch} (hs : t.stretch making loc names = .ok s)
    (h : s.LeadsOn t making links place) : t.Leads making links loc names place := by
  fun_induction stretch t making loc names with
  | case1 loc =>
    obtain rfl := Except.ok.inj hs
    obtain rfl : loc = place := h
    exact .ended
  | case2 loc rest hdirectory ih => exact .stay ⟨hdirectory, .inl rfl⟩ (ih hs)
  | case4 loc rest hdirectory hsearch _ ih =>
    exact .stay ⟨hdirectory, .inr ⟨rfl, eq_false_of_ne_true hsearch⟩⟩ (ih hs)
  | case5 loc rest hdirectory hsearch _ _ ih =>
    exact .ascend ⟨hdirectory, eq_false_of_ne_true hsearch⟩ (ih hs)
  | case8 loc name rest hdirectory hempty hsearch hhere habove hunslashed hshort target hlink =>
    obtain rfl := Except.ok.inj hs
    obtain ⟨left, rfl, htarget, hleads⟩ := h
    exact .follow ⟨⟨hdirectory, eq_false_of_ne_true hsearch⟩, hempty, hhere, habove, hunslashed,
      Nat.not_lt.mp hshort⟩ hlink htarget hleads
  | case9 loc name rest hdirectory hempty hsearch hhere habove hunslashed hshort hno ih =>
    exact .enter ⟨⟨hdirectory, eq_false_of_ne_true hsearch⟩, hempty, hhere, habove, hunslashed,
      Nat.not_lt.mp hshort⟩ (fun target hlink => hno target hlink) (ih hs)
  | _ => cases hs

/-- And every walk begins with a stretch. -/
theorem Leads.exists_stretch (h : t.Leads making links loc names place) :
    ∃ s, t.stretch making loc names = .ok s ∧ s.LeadsOn t making links place := by
  induction h with
  | ended => exact ⟨_, rfl, rfl⟩
  | stay hstays _ ih =>
    rw [stretch_stay hstays]
    exact ih
  | ascend hpass _ ih =>
    rw [stretch_ascend hpass]
    exact ih
  | enter hlook hno _ ih =>
    rw [(stretch_lookUp hlook).2 hno]
    exact ih
  | follow hlook hlink htarget hleads _ =>
    exact ⟨_, (stretch_lookUp hlook).1 _ hlink, _, rfl, htarget, hleads⟩

/-- Behind a stretch a walk goes on, if a shorter walk comes to where its names lead. -/
theorem walk_of_stretch {s : Stretch} (hs : t.stretch making loc names = .ok s)
    (hshorter : ∀ left < links, ∀ loc names,
      t.walk making left loc names = .ok place ↔ t.Leads making left loc names place) :
    t.walk making links loc names = .ok place ↔ s.LeadsOn t making links place := by
  unfold walk
  rw [hs]
  cases s with
  | ended loc => simp [Stretch.LeadsOn]
  | link directory target rest =>
    cases links with
    | zero => simp [Stretch.LeadsOn]
    | succ left =>
      have hnext := hshorter left (Nat.lt_succ_self left) (target.start directory)
        (target.steps ++ rest)
      by_cases htarget : target.octets = []
      · simp [Stretch.LeadsOn, htarget]
      · simp [Stretch.LeadsOn, htarget, hnext]

/-- **A walk succeeds exactly if the names lead somewhere.** -/
theorem walk_eq_ok_iff :
    t.walk making links loc names = .ok place ↔ t.Leads making links loc names place := by
  -- by induction on the links that are left, one of which is used up in each stretch
  induction links using Nat.strongRecOn generalizing loc names with
  | ind links ih =>
    have hshorter : ∀ left < links, ∀ loc names,
        t.walk making left loc names = .ok place ↔ t.Leads making left loc names place :=
      fun left hleft loc names => ih left hleft
    constructor
    · intro h
      cases hs : t.stretch making loc names with
      | error e =>
        unfold walk at h
        rw [hs] at h
        cases h
      | ok s => exact leads_of_stretch hs ((walk_of_stretch hs hshorter).mp h)
    · intro h
      obtain ⟨s, hs, hon⟩ := h.exists_stretch
      exact (walk_of_stretch hs hshorter).mpr hon

/-! ## Walks -/

/-- A walk that can end in a name to be made can end there in any case. -/
theorem Leads.passing (h : t.Leads making links loc names place) :
    t.Leads false links loc names place := by
  induction h with
  | ended => exact .ended
  | stay hstays _ ih => exact .stay hstays ih
  | ascend hpass _ ih => exact .ascend hpass ih
  | enter h hno _ ih => exact .enter (h.passing _) hno ih
  | follow h hlink htarget _ ih => exact .follow (h.passing _) hlink htarget ih

/-- Two trees with the same directories, to be searched alike, and the same links. -/
structure SameWays (t t' : Tree) : Prop where
  directory : ∀ loc, t'.entry? loc = some .directory ↔ t.entry? loc = some .directory
  searched : ∀ loc, t'.bars loc .search = t.bars loc .search
  link : ∀ loc target, t'.entry? loc = some (.link target) ↔ t.entry? loc = some (.link target)

/-- Trees that differ in files alone have the same ways. -/
theorem sameWays_of_kept (hbarred : t'.barred = t.barred)
    (hkept : ∀ e, (∀ content modified, e ≠ .file content modified) →
      ∀ loc, t'.entry? loc = some e ↔ t.entry? loc = some e) : SameWays t t' where
  directory := hkept .directory nofun
  searched loc := by rw [bars, bars, hbarred]
  link loc target := hkept (.link target) nofun loc

theorem SameWays.passable (h : SameWays t t') (hpass : t.Passable loc) : t'.Passable loc :=
  ⟨(h.directory loc).mpr hpass.directory, (h.searched loc).trans hpass.searched⟩

theorem SameWays.stays (h : SameWays t t') (hstays : t.Stays loc name) : t'.Stays loc name :=
  ⟨(h.directory loc).mpr hstays.directory, by rw [h.searched]; exact hstays.nowhere⟩

theorem SameWays.symm (h : SameWays t t') : SameWays t' t :=
  ⟨fun loc => (h.directory loc).symm, fun loc => (h.searched loc).symm,
    fun loc target => (h.link loc target).symm⟩

/-- **Where names lead depends on directories and links alone.** -/
theorem Leads.of_sameWays (hsame : SameWays t t') (h : t.Leads making links loc names place) :
    t'.Leads making links loc names place := by
  have hlook {loc : Location} {name : Name} {rest : List Name}
      (h : t.LooksUp making loc name rest) : t'.LooksUp making loc name rest :=
    { h with passable := hsame.passable h.passable }
  induction h with
  | ended => exact .ended
  | stay hstays _ ih => exact .stay (hsame.stays hstays) ih
  | ascend hpass _ ih => exact .ascend (hsame.passable hpass) ih
  | enter h hno _ ih =>
    exact .enter (hlook h) (fun target hlink => hno target ((hsame.link _ _).mp hlink)) ih
  | follow h hlink htarget _ ih =>
    exact .follow (hlook h) ((hsame.link _ _).mpr hlink) htarget ih

/-- **A walk along two lists of names comes by a location where the first ends.** -/
theorem Leads.exists_between (h : t.Leads making links loc (names ++ more) place) :
    ∃ mid left, t.Leads false links loc names mid ∧ t.Leads making left mid more place := by
  generalize hall : names ++ more = all at h
  induction h generalizing names with
  | @ended links loc =>
    obtain ⟨rfl, rfl⟩ := List.append_eq_nil_iff.mp hall
    exact ⟨loc, links, .ended, .ended⟩
  | @stay links loc place name rest hstays hleads ih =>
    rcases List.append_eq_cons_iff.mp hall with ⟨rfl, rfl⟩ | ⟨names, rfl, hrest⟩
    · exact ⟨loc, links, .ended, .stay hstays hleads⟩
    · obtain ⟨mid, left, hfirst, hsecond⟩ := ih hrest.symm
      exact ⟨mid, left, .stay hstays hfirst, hsecond⟩
  | @ascend links loc place rest hpass hleads ih =>
    rcases List.append_eq_cons_iff.mp hall with ⟨rfl, rfl⟩ | ⟨names, rfl, hrest⟩
    · exact ⟨loc, links, .ended, .ascend hpass hleads⟩
    · obtain ⟨mid, left, hfirst, hsecond⟩ := ih hrest.symm
      exact ⟨mid, left, .ascend hpass hfirst, hsecond⟩
  | @enter links loc place name rest hlook hno hleads ih =>
    rcases List.append_eq_cons_iff.mp hall with ⟨rfl, rfl⟩ | ⟨names, rfl, hrest⟩
    · exact ⟨loc, links, .ended, .enter hlook hno hleads⟩
    · obtain ⟨mid, left, hfirst, hsecond⟩ := ih hrest.symm
      exact ⟨mid, left, .enter (hlook.passing names) hno hfirst, hsecond⟩
  | @follow links loc place name rest target hlook hlink htarget hleads ih =>
    rcases List.append_eq_cons_iff.mp hall with ⟨rfl, rfl⟩ | ⟨names, rfl, hrest⟩
    · exact ⟨loc, links + 1, .ended, .follow hlook hlink htarget hleads⟩
    · -- the names of the link go to the first part
      have hnames : (target.steps ++ names) ++ more = target.steps ++ rest := by
        rw [hrest, List.append_assoc]
      obtain ⟨mid, left, hfirst, hsecond⟩ := ih hnames
      exact ⟨mid, left, .follow (hlook.passing names) hlink htarget hfirst, hsecond⟩

/-- A step to no name stays in a directory. -/
theorem Leads.concat_nil (h : t.Leads making links loc names place)
    (hdirectory : t.entry? place = some .directory) :
    t.Leads false links loc (names ++ [[]]) place := by
  induction h with
  | ended => exact .stay ⟨hdirectory, .inl rfl⟩ .ended
  | stay h _ ih => exact .stay h (ih hdirectory)
  | ascend h _ ih => exact .ascend h (ih hdirectory)
  | enter h hno _ ih => exact .enter (h.passing _) hno (ih hdirectory)
  | follow h hlink htarget _ ih =>
    have hon := ih hdirectory
    rw [List.append_assoc] at hon
    exact .follow (h.passing _) hlink htarget hon

/-- The last name of a walk leads to an entry of a directory, if no link stands there. -/
theorem Leads.of_singleton (h : t.Leads making links loc [name] place) (hname : IsEntryName name) :
    t.Passable loc ∧
      ((∀ target, t.entry? (loc ++ [name]) ≠ some (.link target)) → place = loc ++ [name]) := by
  cases h with
  | stay hstays _ =>
    rcases hstays.nowhere with hempty | ⟨hhere, -⟩
    · exact absurd hempty hname.notEmpty
    · exact absurd hhere hname.notHere
  | ascend _ _ => exact absurd rfl hname.notAbove
  | enter hlook _ hleads =>
    cases hleads
    exact ⟨hlook.passable, fun _ => rfl⟩
  | follow hlook hlink _ _ => exact ⟨hlook.passable, fun hno => absurd hlink (hno _)⟩

end KatakanaLsp.Files.Tree
