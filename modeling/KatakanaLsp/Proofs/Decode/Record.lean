import KatakanaLsp.Decode.Shape
import KatakanaLsp.Proofs.Json.Canonical

/-!
# The fields of a record

A record comes as an object or as an array in the order of declaration. `Fields.given?` says which
value it gives a field either way, without reading anything. What the decoder makes of that value
does not depend on the other fields:

> `field?_of_read`: a field of the named form is what reading the value that was given for it
> gives; where nothing was given, it is absent.

An object must have each key once. Values in canonical form do.
-/

namespace KatakanaLsp.Decode

variable {buffered : Bool}

namespace Fields

/-- The keys in the order of declaration. -/
def keys : Fields → List String
  | .done => []
  | .field key _ _ rest => key :: rest.keys

/-- How a field may be left out, and its shape. -/
def find? (key : String) : Fields → Option (Presence × Shape)
  | .done => none
  | .field k presence shape rest => if k = key then some (presence, shape) else rest.find? key

/-- The value that a record gives a field: the one under its key, or the one in its place. -/
def given? (fields : Fields) (key : String) : Json → Option Json
  | .object given => given.lookup key
  | .array items => (fields.keys.zip items).lookup key
  | _ => none

end Fields

/-- Reads the value that is given for a field. An optional field may be given as null, and then it
is absent. -/
def readGiven (buffered : Bool) (presence : Presence) (shape : Shape) (v : Json) :
    Except DecodeError (Option Json) :=
  match presence, v with
  | .optional, .null => .ok none
  | _, v => (shape.read buffered v).map some

/-- A value of the named form is what reading the value gives that was given, if one was. -/
def ReadAs (buffered : Bool) (presence : Presence) (shape : Shape) (raw named : Option Json) :
    Prop :=
  match raw with
  | none => named = none
  | some v => readGiven buffered presence shape v = .ok named

/-- What is given is read by its shape, unless it is null for a field that may be absent. -/
theorem readGiven_of_given {presence : Presence} {v : Json}
    (h : presence = .optional → v = .null → False) (shape : Shape) :
    readGiven buffered presence shape v = (shape.read buffered v).map some := by
  unfold readGiven
  split
  · exact absurd rfl (h rfl)
  · rfl

/-! ## A record as an object -/

/-- Reading a value for a field with a key. -/
def readFor (buffered : Bool) (key : String) (presence : Presence) (shape : Shape) (v : Json) :
    Except DecodeError (Option (String × Json)) :=
  (readGiven buffered presence shape v).map fun w => w.map fun w => (key, w)

theorem readKey_field (k key : String) (presence : Presence) (shape : Shape) (rest : Fields)
    (v : Json) :
    (Fields.field k presence shape rest).readKey buffered key v =
      if k = key then readFor buffered key presence shape v else rest.readKey buffered key v := by
  conv => lhs; unfold Fields.readKey
  by_cases hk : k = key
  · rw [if_pos hk, if_pos hk, readFor]
    split
    · rfl
    next h =>
      rw [readGiven_of_given h]
      cases shape.read buffered v <;> rfl
  · rw [if_neg hk, if_neg hk]

/-- A field of an object is read by its presence and shape, or passed over. -/
theorem readKey_eq (fields : Fields) (key : String) (v : Json) :
    fields.readKey buffered key v =
      match fields.find? key with
      | none => .ok none
      | some (presence, shape) => readFor buffered key presence shape v := by
  match fields with
  | .done => rfl
  | .field k presence shape rest =>
    rw [readKey_field, Fields.find?]
    by_cases hk : k = key
    · rw [if_pos hk, if_pos hk]
    · rw [if_neg hk, if_neg hk]
      exact readKey_eq rest key v

/-- Reading for a key gives that key, if anything. -/
theorem key_of_readFor {key : String} {presence : Presence} {shape : Shape} {v : Json}
    {f : String × Json} (h : readFor buffered key presence shape v = .ok (some f)) : f.1 = key := by
  unfold readFor at h
  cases hread : readGiven buffered presence shape v with
  | error e => simp [hread, Except.map] at h
  | ok w =>
    cases w with
    | none => simp [hread, Except.map] at h
    | some w =>
      simp only [hread, Except.map, Option.map_some, Except.ok.injEq, Option.some.injEq] at h
      rw [← h]

/-- A field that is read keeps its key. -/
theorem key_of_readKey {fields : Fields} {key : String} {v : Json} {f : String × Json}
    (h : fields.readKey buffered key v = .ok (some f)) : f.1 = key := by
  rw [readKey_eq] at h
  split at h
  · cases h
  · exact key_of_readFor h

/-- Reading the fields of an object one by one. -/
def readAll (buffered : Bool) (fields : Fields) (given : List (String × Json)) :
    Except DecodeError (List (String × Json)) :=
  given.filterMapM fun f => fields.readKey buffered f.1 f.2

/-- The first field of an object is read, and then the others. -/
theorem readAll_cons {fields : Fields} {f : String × Json} {given values : List (String × Json)}
    (h : readAll buffered fields (f :: given) = .ok values) :
    ∃ first others, fields.readKey buffered f.1 f.2 = .ok first ∧
      readAll buffered fields given = .ok others ∧ values = first.toList ++ others := by
  rw [readAll, List.filterMapM_cons] at h
  cases hfirst : fields.readKey buffered f.1 f.2 with
  | error e => simp [hfirst, bind, Except.bind] at h
  | ok first =>
    cases hothers : readAll buffered fields given with
    | error e =>
      rw [readAll] at hothers
      cases first <;> simp [hfirst, hothers, bind, Except.bind] at h
    | ok others =>
      refine ⟨first, others, rfl, rfl, ?_⟩
      rw [readAll] at hothers
      cases first with
      | none => simpa [hfirst, hothers, bind, Except.bind] using h.symm
      | some f' => simpa [hfirst, hothers, bind, Except.bind, pure, Except.pure] using h.symm

/-- What is read for a key is what is found under it. -/
theorem lookup_of_readFor {key : String} {presence : Presence} {shape : Shape} {v : Json}
    {first : Option (String × Json)} (h : readFor buffered key presence shape v = .ok first)
    {others : List (String × Json)} (hothers : others.lookup key = none) :
    readGiven buffered presence shape v = .ok ((first.toList ++ others).lookup key) := by
  unfold readFor at h
  cases hread : readGiven buffered presence shape v with
  | error e => simp [hread, Except.map] at h
  | ok w =>
    obtain rfl : w.map (fun w => (key, w)) = first := by simpa [hread, Except.map] using h
    cases w with
    | none => simp [hothers]
    | some w => simp

/-- A field with another key is not found. -/
theorem lookup_cons_of_ne {f : String × Json} {key : String} (h : f.1 ≠ key)
    (others : List (String × Json)) : (f :: others).lookup key = others.lookup key := by
  obtain ⟨k, v⟩ := f
  have hne : (key == k) = false := beq_false_of_ne h.symm
  rw [List.lookup_cons, hne]

/-- What is read for another key does not matter. -/
theorem lookup_append_of_key_ne {key : String} {first : Option (String × Json)}
    (h : ∀ f, first = some f → f.1 ≠ key) (others : List (String × Json)) :
    (first.toList ++ others).lookup key = others.lookup key := by
  cases first with
  | none => rfl
  | some f => exact lookup_cons_of_ne (h f rfl) others

theorem lookup_eq_none_of_keys {key : String} {values : List (String × Json)} {keys : List String}
    (h : ∀ f ∈ values, f.1 ∈ keys) (hkey : key ∉ keys) : values.lookup key = none := by
  rw [List.lookup_eq_none_iff]
  intro f hf
  rw [bne_iff_ne]
  rintro rfl
  exact hkey (h f hf)

theorem keys_of_readAll {fields : Fields} {given values : List (String × Json)}
    (h : readAll buffered fields given = .ok values) : ∀ f ∈ values, f.1 ∈ given.map Prod.fst := by
  induction given generalizing values with
  | nil =>
    obtain rfl : [] = values := Except.ok.inj h
    exact nofun
  | cons g given ih =>
    obtain ⟨first, others, hfirst, hothers, rfl⟩ := readAll_cons h
    intro f hf
    rcases List.mem_append.mp hf with hhead | htail
    · obtain rfl := Option.mem_toList.mp hhead
      rw [key_of_readKey hfirst]
      exact List.mem_cons_self ..
    · exact List.mem_cons_of_mem _ (ih hothers f htail)

/-- A field of an object with distinct keys is read from the value under its key. -/
theorem lookup_of_readAll {fields : Fields} {key : String} {presence : Presence} {shape : Shape}
    (hfind : fields.find? key = some (presence, shape)) {given values : List (String × Json)}
    (h : readAll buffered fields given = .ok values) (hdistinct : (given.map Prod.fst).Nodup) :
    ReadAs buffered presence shape (given.lookup key) (values.lookup key) := by
  induction given generalizing values with
  | nil =>
    obtain rfl : [] = values := Except.ok.inj h
    exact rfl
  | cons g given ih =>
    obtain ⟨first, others, hfirst, hothers, rfl⟩ := readAll_cons h
    obtain ⟨hnot, hrest⟩ := List.nodup_cons.mp hdistinct
    by_cases hg : g.1 = key
    · subst hg
      have hlookup : (g :: given).lookup g.1 = some g.2 := List.lookup_cons_self
      rw [hlookup]
      rw [readKey_eq, hfind] at hfirst
      exact lookup_of_readFor hfirst (lookup_eq_none_of_keys (keys_of_readAll hothers) hnot)
    · rw [lookup_cons_of_ne hg, lookup_append_of_key_ne]
      · exact ih hothers hrest
      · rintro f rfl
        rw [key_of_readKey hfirst]
        exact hg

/-! ## A record as an array -/

/-- An item that is given is read for the first field, and then the others. -/
theorem readItems_of_given {presence : Presence} {v : Json}
    (h : presence = .optional → v = .null → False) (k : String) (shape : Shape) (rest : Fields)
    (whole : Nat × String × Nat) (items : List Json) :
    (Fields.field k presence shape rest).readItems buffered whole (v :: items) =
      (shape.read buffered v).bind fun w =>
        (rest.readItems buffered whole items).map fun others => (k, w) :: others := by
  rw [Fields.readItems]
  · cases shape.read buffered v <;> cases rest.readItems buffered whole items <;> rfl
  · exact h

/-- The first item is read for the first field, and then the others. -/
theorem readItems_field (k : String) (presence : Presence) (shape : Shape) (rest : Fields)
    (whole : Nat × String × Nat) (v : Json) (items : List Json) :
    (Fields.field k presence shape rest).readItems buffered whole (v :: items) =
      (readFor buffered k presence shape v).bind fun first =>
        (rest.readItems buffered whole items).map fun others => first.toList ++ others := by
  by_cases h : presence = .optional ∧ v = .null
  · obtain ⟨rfl, rfl⟩ := h
    rw [Fields.readItems]
    cases rest.readItems buffered whole items <;> rfl
  · have hgiven : presence = .optional → v = .null → False := fun hp hv => h ⟨hp, hv⟩
    rw [readItems_of_given hgiven, readFor, readGiven_of_given hgiven]
    cases shape.read buffered v <;> rfl

theorem readItems_cons {k : String} {presence : Presence} {shape : Shape} {rest : Fields}
    {whole : Nat × String × Nat} {v : Json} {items : List Json} {values : List (String × Json)}
    (h : (Fields.field k presence shape rest).readItems buffered whole (v :: items) = .ok values) :
    ∃ first others, readFor buffered k presence shape v = .ok first ∧
      rest.readItems buffered whole items = .ok others ∧ values = first.toList ++ others := by
  rw [readItems_field] at h
  cases hfirst : readFor buffered k presence shape v with
  | error e => simp [hfirst, Except.bind] at h
  | ok first =>
    cases hothers : rest.readItems buffered whole items with
    | error e => simp [hfirst, hothers, Except.bind, Except.map] at h
    | ok others =>
      refine ⟨first, others, rfl, rfl, ?_⟩
      simpa [hfirst, hothers, Except.bind, Except.map] using h.symm

/-- Without items, only fields that may be absent are left, and nothing is read. -/
theorem readItems_nil {fields : Fields} {whole : Nat × String × Nat}
    {values : List (String × Json)} (h : fields.readItems buffered whole [] = .ok values) :
    values = [] := by
  match fields with
  | .done =>
    unfold Fields.readItems at h
    exact (Except.ok.inj h).symm
  | .field k presence shape rest =>
    unfold Fields.readItems at h
    cases presence with
    | defaulted => exact readItems_nil h
    | required => cases h
    | optional => cases h

theorem keys_of_readItems {fields : Fields} {whole : Nat × String × Nat} {items : List Json}
    {values : List (String × Json)} (h : fields.readItems buffered whole items = .ok values) :
    ∀ f ∈ values, f.1 ∈ fields.keys := by
  match fields, items with
  | fields, [] =>
    obtain rfl := readItems_nil h
    exact nofun
  | .done, v :: items =>
    unfold Fields.readItems at h
    obtain rfl : [] = values := Except.ok.inj h
    exact nofun
  | .field k presence shape rest, v :: items =>
    obtain ⟨first, others, hfirst, hothers, rfl⟩ := readItems_cons h
    intro f hf
    rcases List.mem_append.mp hf with hhead | htail
    · obtain rfl := Option.mem_toList.mp hhead
      rw [key_of_readFor hfirst]
      exact List.mem_cons_self ..
    · exact List.mem_cons_of_mem _ (keys_of_readItems hothers f htail)

/-- A field of an array is read from the value in its place. -/
theorem lookup_of_readItems {fields : Fields} {key : String} {presence : Presence} {shape : Shape}
    (hfind : fields.find? key = some (presence, shape)) (hdistinct : fields.keys.Nodup)
    {whole : Nat × String × Nat} {items : List Json} {values : List (String × Json)}
    (h : fields.readItems buffered whole items = .ok values) :
    ReadAs buffered presence shape ((fields.keys.zip items).lookup key) (values.lookup key) := by
  match fields, items with
  | fields, [] =>
    obtain rfl := readItems_nil h
    rw [List.zip_nil_right]
    exact rfl
  | .done, v :: items => cases hfind
  | .field k p s rest, v :: items =>
    obtain ⟨first, others, hfirst, hothers, rfl⟩ := readItems_cons h
    obtain ⟨hnot, hrest⟩ := List.nodup_cons.mp hdistinct
    rw [Fields.keys, List.zip_cons_cons]
    by_cases hk : k = key
    · subst hk
      rw [Fields.find?, if_pos rfl] at hfind
      cases hfind
      rw [List.lookup_cons_self]
      exact lookup_of_readFor hfirst (lookup_eq_none_of_keys (keys_of_readItems hothers) hnot)
    · rw [Fields.find?, if_neg hk] at hfind
      rw [lookup_cons_of_ne hk, lookup_append_of_key_ne]
      · exact lookup_of_readItems hfind hrest hothers
      · rintro f rfl
        rw [key_of_readFor hfirst]
        exact hk

/-! ## A record either way -/

/-- The fields of a value in canonical form have distinct keys, and values in canonical form. -/
theorem distinct_of_canonical {given : List (String × Json)}
    (h : (Json.object given).canonical = .object given) :
    (given.map Prod.fst).Nodup ∧ ∀ f ∈ given, f.2.canonical = f.2 := by
  have hfields : Json.canonicalFields given = given := Json.object.inj h
  constructor
  · have hsorted := Json.sorted_canonicalFields given
    rw [hfields] at hsorted
    refine List.pairwise_map.mpr (hsorted.imp fun hlt heq => ?_)
    rw [heq] at hlt
    exact String.lt_irrefl _ hlt
  · intro f hf
    rw [← hfields] at hf
    obtain ⟨g, -, rfl⟩ := Json.exists_of_mem_canonicalFields hf
    exact Json.canonical_canonical g.2

theorem mem_of_lookup {values : List (String × Json)} {key : String} {v : Json}
    (h : values.lookup key = some v) : (key, v) ∈ values := by
  obtain ⟨before, behind, rfl, -⟩ := List.lookup_eq_some_iff.mp h
  exact List.mem_append_right _ (List.mem_cons_self ..)

/-- What a record gives a field is in canonical form if the record is. -/
theorem canonical_of_given? {fields : Fields} {key : String} {v raw : Json}
    (hv : v.canonical = v) (h : fields.given? key v = some raw) : raw.canonical = raw := by
  cases v with
  | object given => exact (distinct_of_canonical hv).2 _ (mem_of_lookup h)
  | array items =>
    have hitems : items.map Json.canonical = items := by
      rw [← Json.canonicalItems_eq]
      exact Json.array.inj hv
    have hraw : raw ∈ items := (List.of_mem_zip (mem_of_lookup h)).2
    rw [← hitems] at hraw
    obtain ⟨w, -, rfl⟩ := List.mem_map.mp hraw
    exact Json.canonical_canonical w
  | _ => cases h

theorem values_of_complete {fields : Fields} {values read : List (String × Json)}
    (h : complete fields values = .ok read) : read = values := by
  unfold complete at h
  split at h
  · cases h
  · exact (Except.ok.inj h).symm

/-- **A field of a record is what reading the value that was given for it gives.** Where nothing was
given, it is absent. -/
theorem field?_of_read {name : String} {fields : Fields} (hdistinct : fields.keys.Nodup)
    {key : String} {presence : Presence} {shape : Shape}
    (hfind : fields.find? key = some (presence, shape)) {v j : Json} (hv : v.canonical = v)
    (h : (Shape.record name fields).read buffered v = .ok j) :
    ReadAs buffered presence shape (fields.given? key v) (j.field? key) := by
  cases v with
  | object given =>
    have hread : (Shape.record name fields).read buffered (.object given) =
        (readAll buffered fields given).bind fun values =>
          (complete fields values).map .object := by
      conv => lhs; unfold Shape.read
      rfl
    rw [hread] at h
    cases hvalues : readAll buffered fields given with
    | error e => simp [hvalues, Except.bind] at h
    | ok values =>
      cases hcomplete : complete fields values with
      | error e => simp [hvalues, hcomplete, Except.bind, Except.map] at h
      | ok read =>
        obtain rfl := values_of_complete hcomplete
        obtain rfl : Json.object read = j := by
          simpa [hvalues, hcomplete, Except.bind, Except.map] using h
        exact lookup_of_readAll hfind hvalues (distinct_of_canonical hv).1
  | array items =>
    have hread : (Shape.record name fields).read buffered (.array items) =
        (fields.readItems buffered (items.length, name, fields.count) items).bind fun values =>
          if fields.count < items.length then
            .error (.tooManyItems items.length (if buffered then some fields.count else none))
          else .ok (.object values) := by
      conv => lhs; unfold Shape.read
      rfl
    rw [hread] at h
    cases hvalues : fields.readItems buffered (items.length, name, fields.count) items with
    | error e => simp [hvalues, Except.bind] at h
    | ok values =>
      have hlong : ¬ fields.count < items.length := by
        intro hlong
        simp [hvalues, Except.bind, hlong] at h
      obtain rfl : Json.object values = j := by
        simpa [hvalues, Except.bind, hlong] using h
      exact lookup_of_readItems hfind hdistinct hvalues
  | _ =>
    unfold Shape.read at h
    cases h

/-! ## Values below a record -/

/-- The fields of a record. -/
def Shape.fields : Shape → Fields
  | .record _ fields => fields
  | _ => .done

/-- A value of the named form is what reading a value in canonical form gives, if one was given. -/
structure ReadFrom (presence : Presence) (shape : Shape) (raw named : Option Json) : Prop where
  canonical : ∀ v, raw = some v → v.canonical = v
  read : ReadAs false presence shape raw named

/-- **What is given below a value is read from below it.** -/
theorem ReadFrom.field {presence : Presence} {name : String} {fields : Fields}
    {raw named : Option Json} (h : ReadFrom presence (.record name fields) raw named)
    (key : String) (hdistinct : fields.keys.Nodup) {presence' : Presence} {shape' : Shape}
    (hfind : fields.find? key = some (presence', shape')) :
    ReadFrom presence' shape' (raw.bind (fields.given? key)) (named.bind (·.field? key)) := by
  cases raw with
  | none =>
    obtain rfl : named = none := h.read
    exact ⟨nofun, rfl⟩
  | some v =>
    have hv := h.canonical v rfl
    refine ⟨fun w hw => canonical_of_given? hv hw, ?_⟩
    have hread : readGiven false presence (.record name fields) v = .ok named := h.read
    by_cases hnull : presence = .optional ∧ v = .null
    · -- null for an optional record: it is absent, and gives its fields nothing
      obtain ⟨rfl, rfl⟩ := hnull
      obtain rfl : none = named := Except.ok.inj hread
      exact rfl
    · have hgiven : readGiven false presence (.record name fields) v =
          ((Shape.record name fields).read false v).map some := by
        unfold readGiven
        split
        · exact absurd ⟨rfl, rfl⟩ hnull
        · rfl
      rw [hgiven] at hread
      cases hj : (Shape.record name fields).read false v with
      | error e => simp [hj, Except.map] at hread
      | ok j =>
        obtain rfl : some j = named := by simpa [hj, Except.map] using hread
        exact field?_of_read hdistinct hfind hv hj

/-- A flag that may be left out is read as the flag that was given. -/
theorem ReadFrom.flag {raw named : Option Json} (h : ReadFrom .optional .boolean raw named) :
    (named.bind Json.asBool?).getD false = true ↔ raw = some (.bool true) := by
  cases raw with
  | none =>
    obtain rfl : named = none := h.read
    simp
  | some v =>
    have hread : readGiven false .optional .boolean v = .ok named := h.read
    cases v with
    | null =>
      obtain rfl : none = named := Except.ok.inj hread
      simp
    | bool b =>
      obtain rfl : some (Json.bool b) = named := by
        simpa [readGiven, Shape.read, Except.map] using hread
      simp [Json.asBool?]
    | _ => simp [readGiven, Shape.read, Except.map] at hread

end KatakanaLsp.Decode
