import KatakanaLsp.Program
import KatakanaLsp.Proofs.Text.Blank
import KatakanaLsp.Proofs.Text.Utf8

/-!
# Where a configuration comes from

Each of the two texts in a configuration is settled on its own: the last override that gives it
wins; without any, its variable, if that holds text that is not blank; otherwise its default.

> `Settles`: the value that is settled by given values, a variable and a default.

A variable gives its text without the blanks around it. That is said without trimming (`Gives`): the
variable holds a tidy value between blanks. What is read is therefore tidy, and what is tidy reads
as it is, so that reading what was read changes nothing.

> `foldl_withOverride`: overriding a field again and again leaves the last value that was given.

> `ofEnvironment_precedence`: the configuration from an environment, under any overrides.

The program has one override, from its command line (`configOf_settled`).
-/

namespace KatakanaLsp.Config

/-! ## What a variable gives -/

/-- A string that is not blank and has no blanks at its ends. -/
structure Tidy (s : String) : Prop where
  unpadded : Text.Unpadded s.toList
  notBlank : ∃ c ∈ s.toList, Text.isBlank c = false

/-- Octets give a value: they are a text that is this tidy value with blanks around it. -/
def Gives (octets : Option Bytes) (value : String) : Prop :=
  Tidy value ∧ ∃ left right, octets = some (Utf8.encode (left ++ (value.toList ++ right))) ∧
    (∀ c ∈ left, Text.isBlank c = true) ∧ ∀ c ∈ right, Text.isBlank c = true

/-- Octets give no value: there are none, or they are no text, or the text is blank. -/
def GivesNothing (octets : Option Bytes) : Prop :=
  ∀ text, octets = some (Utf8.encode text) → ∀ c ∈ text, Text.isBlank c = true

variable {environment : Environment} {name value : String}

/-- A text that is left of trimming is tidy, unless nothing is left. -/
theorem tidy_iff {s : String} : Tidy s ↔ Text.Unpadded s.toList ∧ s ≠ "" := by
  constructor
  · intro h
    refine ⟨h.unpadded, ?_⟩
    rintro rfl
    obtain ⟨c, hc, -⟩ := h.notBlank
    cases hc
  · rintro ⟨hunpadded, hne⟩
    refine ⟨hunpadded, ?_⟩
    cases hs : s.toList with
    | nil => exact absurd (String.toList_eq_nil_iff.mp hs) hne
    | cons c cs =>
      have hc : c ∈ s.toList.head? := by
        rw [hs]
        rfl
      exact ⟨c, List.mem_cons_self, hunpadded.head c hc⟩

/-- The setting in a variable that holds text is what trimming leaves of it, if anything. -/
theorem setting?_of_text {text : List Char} (h : environment name = some (Utf8.encode text)) :
    setting? environment name =
      if Text.trim text = [] then none else some (String.ofList (Text.trim text)) := by
  have hread : Utf8.toString? (Utf8.encode text) = some (String.ofList text) := by
    rw [Utf8.toString?_eq_some_iff, Utf8.ofString, String.toList_ofList]
  have htrimmed : Text.trimmed (String.ofList text) = String.ofList (Text.trim text) := by
    rw [Text.trimmed, String.toList_ofList]
  rw [setting?, h, Option.bind_some, hread, Option.map_some, htrimmed, Option.filter_some]
  by_cases hnil : Text.trim text = []
  · rw [if_pos hnil, hnil]
    rfl
  · have hne : String.ofList (Text.trim text) ≠ "" := by
      intro hempty
      apply hnil
      rw [← String.toList_ofList (l := Text.trim text), hempty]
      rfl
    rw [if_neg hnil, if_pos (decide_eq_true hne)]

/-- There is no setting in a variable that holds no text. -/
theorem setting?_of_no_text (h : ∀ text, environment name ≠ some (Utf8.encode text)) :
    setting? environment name = none := by
  have hread : (environment name).bind Utf8.toString? = none := by
    cases hoctets : environment name with
    | none => rfl
    | some octets =>
      cases htext : Utf8.toString? octets with
      | none => exact htext
      | some text =>
        rw [Utf8.toString?_eq_some_iff] at htext
        rw [htext] at hoctets
        exact absurd hoctets (h text.toList)
  rw [setting?, hread]
  rfl

theorem Gives.setting? (h : Gives (environment name) value) :
    setting? environment name = some value := by
  obtain ⟨htidy, left, right, htext, hleft, hright⟩ := h
  obtain ⟨hunpadded, hne⟩ := tidy_iff.mp htidy
  rw [setting?_of_text htext, Text.trim_surrounded hleft hunpadded hright,
    if_neg (String.toList_eq_nil_iff.not.mpr hne), String.ofList_toList]

theorem GivesNothing.setting? (h : GivesNothing (environment name)) :
    setting? environment name = none := by
  by_cases htext : ∃ text, environment name = some (Utf8.encode text)
  · obtain ⟨text, htext⟩ := htext
    have hblank : Text.trim text = [] := Text.trim_eq_nil_iff.mpr (h text htext)
    rw [setting?_of_text htext, if_pos hblank]
  · exact setting?_of_no_text (not_exists.mp htext)

/-- A variable gives a value or nothing: what trimming leaves of its text, if anything. -/
theorem gives_or_givesNothing (octets : Option Bytes) :
    (∃ value, Gives octets value) ∨ GivesNothing octets := by
  by_cases hvalue : ∃ text, octets = some (Utf8.encode text) ∧ Text.trim text ≠ []
  · obtain ⟨text, htext, hne⟩ := hvalue
    obtain ⟨left, right, hsurrounded, hleft, hright⟩ := Text.padded_trim text
    refine Or.inl ⟨String.ofList (Text.trim text), tidy_iff.mpr ?_, left, right, ?_, hleft, hright⟩
    · rw [Ne, ← String.toList_eq_nil_iff, String.toList_ofList]
      exact ⟨Text.unpadded_trim text, hne⟩
    · rw [String.toList_ofList, ← hsurrounded]
      exact htext
  · refine Or.inr ?_
    intro text htext
    by_contra hblank
    exact hvalue ⟨text, htext, Text.trim_eq_nil_iff.not.mpr hblank⟩

/-- **A setting is a value that the variable gives.** -/
theorem setting?_eq_some_iff :
    setting? environment name = some value ↔ Gives (environment name) value := by
  constructor
  · intro h
    rcases gives_or_givesNothing (environment name) with ⟨other, hgives⟩ | hnothing
    · rw [hgives.setting?] at h
      obtain rfl := Option.some.inj h
      exact hgives
    · rw [hnothing.setting?] at h
      cases h
  · exact Gives.setting?

/-- There is no setting exactly in a variable that gives nothing. -/
theorem setting?_eq_none_iff :
    setting? environment name = none ↔ GivesNothing (environment name) := by
  constructor
  · intro h
    rcases gives_or_givesNothing (environment name) with ⟨value, hgives⟩ | hnothing
    · rw [hgives.setting?] at h
      cases h
    · exact hnothing
  · exact GivesNothing.setting?

/-- A tidy value reads as it is. -/
theorem setting?_of_tidy (h : Tidy value)
    (hoctets : environment name = some (Utf8.ofString value)) :
    setting? environment name = some value := by
  refine setting?_eq_some_iff.mpr ⟨h, [], [], ?_, nofun, nofun⟩
  rw [List.nil_append, List.append_nil]
  exact hoctets

/-! ## What settles a field -/

/-- The value of a field is settled: by the last of the values that were given, or else by what the
variable gives, or else by the default. -/
inductive Settles (given : List String) (octets : Option Bytes) (fallback : String) :
    String → Prop where
  | overridden {value : String} : given.getLast? = some value →
      Settles given octets fallback value
  | fromVariable {value : String} : given = [] → Gives octets value →
      Settles given octets fallback value
  | byDefault : given = [] → GivesNothing octets → Settles given octets fallback fallback

/-- Exactly one value is settled. -/
theorem settles_iff {given : List String} {fallback : String} :
    Settles given (environment name) fallback value ↔
      given.getLast?.getD ((setting? environment name).getD fallback) = value := by
  constructor
  · intro h
    cases h with
    | overridden hlast =>
      rw [hlast]
      rfl
    | fromVariable hnone hgives =>
      rw [hnone, setting?_eq_some_iff.mpr hgives]
      rfl
    | byDefault hnone hnothing =>
      rw [hnone, setting?_eq_none_iff.mpr hnothing]
      rfl
  · rintro rfl
    cases hlast : given.getLast? with
    | some value => exact .overridden hlast
    | none =>
      have hnone : given = [] := List.getLast?_eq_none_iff.mp hlast
      cases hsetting : setting? environment name with
      | some value => exact .fromVariable hnone (setting?_eq_some_iff.mp hsetting)
      | none => exact .byDefault hnone (setting?_eq_none_iff.mp hsetting)

/-- **Overriding a field again and again leaves the last value that was given.** -/
theorem foldl_withOverride {field : Config → String} {given : Override → Option String}
    (hstep : ∀ c o, field (c.withOverride o) = (given o).getD (field c)) (c : Config)
    (overrides : List Override) :
    field (overrides.foldl withOverride c) =
      (overrides.filterMap given).getLast?.getD (field c) := by
  induction overrides generalizing c with
  | nil => rfl
  | cons o overrides ih =>
    rw [List.foldl_cons, ih, hstep, List.filterMap_cons]
    cases given o with
    | none => rfl
    | some value =>
      rw [List.getLast?_cons]
      rfl

theorem triggerCharacters_foldl (c : Config) (overrides : List Override) :
    (overrides.foldl withOverride c).triggerCharacters = c.triggerCharacters := by
  induction overrides generalizing c with
  | nil => rfl
  | cons o overrides ih => exact ih (c.withOverride o)

/-! ## The configuration from an environment -/

/-- A setting is tidy, if the default is. -/
theorem tidy_getD_setting? {fallback : String} (h : Tidy fallback) :
    Tidy ((setting? environment name).getD fallback) := by
  cases hsetting : setting? environment name with
  | none => exact h
  | some value => exact (setting?_eq_some_iff.mp hsetting).1

/-- A string without any blanks is tidy, unless it is empty. -/
theorem tidy_of_no_blank {s : String} (h : s.toList.any Text.isBlank = false) (hne : s ≠ "") :
    Tidy s := by
  refine tidy_iff.mpr ⟨Text.unpadded_of_no_blank ?_, hne⟩
  intro c hc
  exact Bool.eq_false_iff.mpr (List.any_eq_false.mp h c hc)

theorem tidy_defaultLanguageId : Tidy defaultLanguageId := tidy_of_no_blank rfl (by decide)

theorem tidy_defaultFilePattern : Tidy defaultFilePattern := tidy_of_no_blank rfl (by decide)

theorem tidy_ofEnvironment (environment : Environment) :
    Tidy (ofEnvironment environment).languageId ∧ Tidy (ofEnvironment environment).filePattern :=
  ⟨tidy_getD_setting? tidy_defaultLanguageId, tidy_getD_setting? tidy_defaultFilePattern⟩

/-- A configuration is read again from an environment that holds what was read. -/
theorem ofEnvironment_again {again : Environment}
    (hlanguageId : again languageIdVariable =
      some (Utf8.ofString (ofEnvironment environment).languageId))
    (hfilePattern : again filePatternVariable =
      some (Utf8.ofString (ofEnvironment environment).filePattern)) :
    ofEnvironment again = ofEnvironment environment := by
  obtain ⟨htidy, htidy'⟩ := tidy_ofEnvironment environment
  have hread := setting?_of_tidy htidy hlanguageId
  have hread' := setting?_of_tidy htidy' hfilePattern
  rw [ofEnvironment, hread, hread']
  rfl

/-- **A field is settled by what overrides give it, its variable and its default,** if an override
replaces it by what it gives, and it is read from the variable. -/
theorem field_eq_iff {field : Config → String} {given : Override → Option String}
    {fallback : String} (hstep : ∀ c o, field (c.withOverride o) = (given o).getD (field c))
    (hread : field (ofEnvironment environment) = (setting? environment name).getD fallback)
    (overrides : List Override) :
    field (overrides.foldl withOverride (ofEnvironment environment)) = value ↔
      Settles (overrides.filterMap given) (environment name) fallback value := by
  rw [settles_iff, foldl_withOverride hstep, hread]

theorem languageId_eq_iff (environment : Environment) (overrides : List Override) :
    (overrides.foldl withOverride (ofEnvironment environment)).languageId = value ↔
      Settles (overrides.filterMap (·.languageId)) (environment languageIdVariable)
        defaultLanguageId value :=
  field_eq_iff (fun _ _ => rfl) rfl overrides

theorem filePattern_eq_iff (environment : Environment) (overrides : List Override) :
    (overrides.foldl withOverride (ofEnvironment environment)).filePattern = value ↔
      Settles (overrides.filterMap (·.filePattern)) (environment filePatternVariable)
        defaultFilePattern value :=
  field_eq_iff (fun _ _ => rfl) rfl overrides

/-- **Overrides come before the environment, and the environment before the defaults.** Language
identifier and pattern of files are settled each by its own overrides, its own variable and its own
default, and the trigger characters are always the default ones. What is read from the environment
is tidy, and is read again from an environment that holds it. The selector of documents is one
filter with the two texts, and without a scheme. -/
theorem ofEnvironment_precedence (environment : Environment) (overrides : List Override) :
    let read := ofEnvironment environment
    let final := overrides.foldl withOverride read
    (∀ value, final.languageId = value ↔
      Settles (overrides.filterMap (·.languageId)) (environment languageIdVariable) "japy"
        value) ∧
    (∀ value, final.filePattern = value ↔
      Settles (overrides.filterMap (·.filePattern)) (environment filePatternVariable) "**/*.japy"
        value) ∧
    final.triggerCharacters = [".", " ", "\n", "\t"] ∧
    (Tidy read.languageId ∧ Tidy read.filePattern) ∧
    (∀ again : Environment,
      again languageIdVariable = some (Utf8.ofString read.languageId) →
      again filePatternVariable = some (Utf8.ofString read.filePattern) →
        ofEnvironment again = read) ∧
    final.documentSelector = [⟨some final.languageId, none, some final.filePattern⟩] ∧
    final.documentSelector.map (·.json) =
      [.object [("language", .string final.languageId), ("pattern", .string final.filePattern)]] := by
  intro read final
  refine ⟨?_, ?_, ?_, tidy_ofEnvironment environment, ?_, rfl, rfl⟩
  · intro value
    exact languageId_eq_iff environment overrides
  · intro value
    exact filePattern_eq_iff environment overrides
  · exact triggerCharacters_foldl read overrides
  · intro again hlanguageId hfilePattern
    exact ofEnvironment_again hlanguageId hfilePattern

/-- An environment with blanks around one value, and octets that are no text for the other. -/
def paddedEnvironment : Environment := fun name =>
  if name = languageIdVariable then some (Utf8.ofString "\u3000japy-dev \t")
  else if name = filePatternVariable then some [0xFF]
  else none

/-- The environment that holds the texts of a configuration. -/
def writtenBack (c : Config) : Environment := fun name =>
  if name = languageIdVariable then some (Utf8.ofString c.languageId)
  else if name = filePatternVariable then some (Utf8.ofString c.filePattern)
  else none

/-- Overrides of the language identifier, the last of which gives blanks of its own. -/
def relabelings : List Override := [⟨some "first", none⟩, ⟨none, none⟩, ⟨some " last ", none⟩]

/-- Overrides are taken as they are, and padded values are not. -/
theorem ofEnvironment_precedence_padded :
    let read := ofEnvironment paddedEnvironment
    let final := relabelings.foldl withOverride read
    read.languageId = "japy-dev" ∧ final.languageId = " last " ∧
      final.filePattern = "**/*.japy" ∧ ofEnvironment (writtenBack read) = read := by
  intro read final
  obtain ⟨hlanguageId, hfilePattern, -, -, hagain, -, -⟩ :=
    ofEnvironment_precedence paddedEnvironment relabelings
  obtain ⟨hread, -⟩ := ofEnvironment_precedence paddedEnvironment []
  have hblank : ∀ c ∈ ['\u3000'], Text.isBlank c = true := List.all_eq_true.mp rfl
  have hblanks : ∀ c ∈ [' ', '\t'], Text.isBlank c = true := List.all_eq_true.mp rfl
  have htidy : Tidy "japy-dev" := tidy_of_no_blank rfl (by decide)
  have hnothing : GivesNothing (paddedEnvironment filePatternVariable) := by
    apply setting?_eq_none_iff.mp
    decide
  refine ⟨?_, ?_, ?_, ?_⟩
  · exact (hread "japy-dev").mpr
      (.fromVariable rfl ⟨htidy, ['\u3000'], [' ', '\t'], by decide, hblank, hblanks⟩)
  · exact (hlanguageId " last ").mpr (.overridden rfl)
  · exact (hfilePattern "**/*.japy").mpr (.byDefault rfl hnothing)
  · exact hagain (writtenBack read) rfl rfl

end KatakanaLsp.Config

namespace KatakanaLsp.Program

open CommandLine (Options)
open Config (Environment Settles languageIdVariable filePatternVariable defaultLanguageId
  defaultFilePattern languageId_eq_iff filePattern_eq_iff)

/-- The options of the program come before its environment, and that before the defaults. -/
theorem configOf_settled (o : Options) (environment : Environment) (value : String) :
    ((configOf o environment).languageId = value ↔
      Settles (o.value? .languageId).toList (environment languageIdVariable) defaultLanguageId
        value) ∧
    ((configOf o environment).filePattern = value ↔
      Settles (o.value? .filePattern).toList (environment filePatternVariable) defaultFilePattern
        value) := by
  have hgiven (given : Option String) : [given].filterMap id = given.toList := by
    cases given <;> rfl
  rw [← hgiven, ← hgiven]
  exact ⟨languageId_eq_iff environment [⟨o.value? .languageId, o.value? .filePattern⟩],
    filePattern_eq_iff environment [⟨o.value? .languageId, o.value? .filePattern⟩]⟩

end KatakanaLsp.Program
