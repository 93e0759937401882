import RadarCatalog.Proofs.Catalog.Records

/-!
# What is accepted as a catalog

A text is a catalog if it is a list of objects, each of them is a record, and all list the same keys.
The three conditions are looked at in this order, each for all objects, and the error is about the
first object that does not meet one.

* `Holds`: the objects of a text, with the fields of one key joined; `holds_iff` says that these are
  the objects that are read;
* `Record.Acceptable`, `Record.Defect`: what a record needs, and what is wrong first with fields that
  do not have it (`ofFields_eq_error`);
* `ofObjects_eq_error`, `schema_eq_error_iff`: the first object that is no record, and the first with
  other keys;
* `Regular`, `Refused`: what a catalog needs, and what is reported of the rest (`parse_eq_error_iff`);
* `parse_judges`: all of it.
-/

namespace RadarCatalog.Catalog

open RadarCatalog.Json

/-! ## 1. Objects of a text -/

/-- The fields of an object as they are read: the keys in the order of their first appearance, and
    under each key the last of its values. -/
structure Joins (written fs : Fields Value) : Prop where
  keys : Fields.keys fs = (Fields.keys written).eraseDups
  last : ∀ key, Fields.get? fs key = (Fields.get? written.reverse key).map Value.joined

/-- The text is a list of objects, not nested too deep, and these are their fields. -/
def Holds (text : String) (objects : List (Fields Value)) : Prop :=
  ∃ written : List (Fields Value),
    Token.scan text.toList = (Value.list (written.map .object)).tokens ∧
      (Value.list (written.map .object)).depth ≤ maxDepth ∧ List.Forall₂ Joins written objects

theorem joins_iff {written fs : Fields Value} :
    Joins written fs ↔ Fields.joined (joinedMembers written) = fs := by
  have hkeys : Fields.keys (Fields.joined (joinedMembers written)) =
      (Fields.keys written).eraseDups := by
    rw [Fields.keys_joined, joinedMembers_eq, Fields.keys_map]
  have hlast : ∀ key, Fields.get? (Fields.joined (joinedMembers written)) key =
      (Fields.get? written.reverse key).map Value.joined := by
    intro key
    rw [Fields.get?_joined, joinedMembers_eq, ← List.map_reverse, Fields.get?_map]
  constructor
  · intro h
    refine Fields.eq_of_get? (Fields.distinct_joined _) (hkeys.trans h.keys.symm) ?_
    exact fun key => (hlast key).trans (h.last key).symm
  · rintro rfl
    exact ⟨hkeys, hlast⟩

/-- **The objects of a text** are those that are read. -/
theorem holds_iff {text : String} {objects : List (Fields Value)} :
    Holds text objects ↔ readObjects text = .ok objects := by
  have hjoined : ∀ written : List (Fields Value), (Value.list (written.map .object)).joined =
      .list ((written.map fun fs => Fields.joined (joinedMembers fs)).map .object) := by
    intro written
    rw [Value.joined, joinedItems_eq, List.map_map, List.map_map]
    exact congrArg Value.list (List.map_congr_left fun fs _ => by
      simp only [Function.comp_apply, Value.joined])
  have hobjects : ∀ written : List (Fields Value), List.Forall₂ Joins written objects ↔
      written.map (fun fs => Fields.joined (joinedMembers fs)) = objects := by
    intro written
    rw [← List.forall₂_eq_eq_eq, List.forall₂_map_left_iff]
    exact ⟨fun h => h.imp fun _ _ => joins_iff.1, fun h => h.imp fun _ _ => joins_iff.2⟩
  rw [readObjects_eq_ok, read_eq_ok]
  constructor
  · rintro ⟨written, htokens, hdepth, hfields⟩
    refine ⟨_, htokens, Shape.admits_objects.2 ⟨written, rfl⟩, hdepth, ?_⟩
    rw [hjoined, (hobjects written).1 hfields]
  · rintro ⟨w, htokens, hadmits, hdepth, hw⟩
    obtain ⟨written, rfl⟩ := Shape.admits_objects.1 hadmits
    refine ⟨written, htokens, hdepth, (hobjects written).2 ?_⟩
    rw [hjoined] at hw
    exact List.map_injective_iff.2 (fun _ _ => Value.object.inj) (Value.list.inj hw)

/-! ## 2. Records -/

namespace Record

variable {fs : Fields Value}

/-- Every required key is there. -/
def Complete (fs : Fields Value) : Prop := ∀ key ∈ requiredKeys, key ∈ Fields.keys fs

/-- The value under `id` is a string. -/
def Named (fs : Fields Value) : Prop := ∃ id, Fields.get? fs "id" = some (.scalar (.string id))

/-- The value has no parts. -/
def Plain (f : String × Value) : Prop := ∃ s, f.2 = .scalar s

/-- The fields are those of a record. -/
structure Acceptable (fs : Fields Value) : Prop where
  complete : Complete fs
  named : Named fs
  plain : ∀ f ∈ fs, Plain f

/-- What is wrong with fields: the first required key that is missing; else the id; else the first
    value with parts. -/
inductive Defect (fs : Fields Value) : RecordError → Prop where
  | missingKey {before after : List String} {key : String}
      (first : requiredKeys = before ++ key :: after)
      (present : ∀ k ∈ before, k ∈ Fields.keys fs) (missing : key ∉ Fields.keys fs) :
      Defect fs (.missingKey key)
  | idNotString (complete : Complete fs) (unnamed : ¬ Named fs) : Defect fs .idNotString
  | notScalar {before after : Fields Value} {f : String × Value} (complete : Complete fs)
      (named : Named fs) (first : fs = before ++ f :: after) (plain : ∀ g ∈ before, Plain g)
      (parts : ¬ Plain f) : Defect fs (.notScalar f.1)

theorem scalarField_eq_error {f : String × Value} {e : RecordError} :
    scalarField f = .error e ↔ ¬ Plain f ∧ e = .notScalar f.1 := by
  obtain ⟨k, v⟩ := f
  cases v with
  | scalar s => exact ⟨nofun, fun h => absurd ⟨s, rfl⟩ h.1⟩
  | list vs =>
    constructor
    · rintro ⟨⟩
      exact ⟨fun ⟨s, hs⟩ => (by cases hs), rfl⟩
    · rintro ⟨_, rfl⟩
      rfl
  | object gs =>
    constructor
    · rintro ⟨⟩
      exact ⟨fun ⟨s, hs⟩ => (by cases hs), rfl⟩
    · rintro ⟨_, rfl⟩
      rfl

theorem exists_scalarField {f : String × Value} : (∃ g, scalarField f = .ok g) ↔ Plain f := by
  simp only [scalarField_eq_ok]
  constructor
  · rintro ⟨g, rfl⟩
    exact ⟨g.2, rfl⟩
  · rintro ⟨s, hs⟩
    exact ⟨(f.1, s), by rw [← hs]⟩

theorem complete_iff : Complete fs ↔
    (requiredKeys.find? fun key => !Fields.has fs key) = none := by
  simp only [Complete, List.find?_eq_none, Bool.not_eq_true', Bool.not_eq_false,
    Fields.has_iff_mem_keys]

/-- **Fields that are refused** have the defect that is reported. -/
theorem ofFields_eq_error {e : RecordError} : ofFields fs = .error e ↔ Defect fs e := by
  constructor
  · intro h
    unfold ofFields at h
    split at h
    · rename_i key hkey
      cases h
      obtain ⟨hmissing, before, after, hfirst, hpresent⟩ := List.find?_eq_some_iff_append.1 hkey
      simp only [Bool.not_eq_true', ← Bool.not_eq_true,
        Fields.has_iff_mem_keys, not_not] at hmissing hpresent
      exact .missingKey hfirst hpresent hmissing
    · rename_i hcomplete
      split at h
      · rename_i id hid
        obtain ⟨before, f, after, hfirst, hbefore, hf⟩ := mapM_eq_error.1 (map_eq_error.1 h)
        obtain ⟨hparts, rfl⟩ := scalarField_eq_error.1 hf
        simp only [exists_scalarField] at hbefore
        exact .notScalar (complete_iff.2 hcomplete) ⟨id, hid⟩ hfirst hbefore hparts
      · rename_i hunnamed
        cases h
        exact .idNotString (complete_iff.2 hcomplete) fun ⟨id, hid⟩ => hunnamed id hid
  · intro h
    unfold ofFields
    cases h with
    | @missingKey before after key first present missing =>
      have hfirst : (requiredKeys.find? fun key => !Fields.has fs key) = some key := by
        rw [List.find?_eq_some_iff_append]
        simp only [Bool.not_eq_true', ← Bool.not_eq_true,
          Fields.has_iff_mem_keys, not_not]
        exact ⟨missing, before, after, first, present⟩
      rw [hfirst]
    | idNotString complete unnamed =>
      rw [complete_iff.1 complete]
      simp only
      split
      · rename_i id hid
        exact absurd ⟨id, hid⟩ unnamed
      · rfl
    | @notScalar before after f complete named first plain parts =>
      obtain ⟨id, hid⟩ := named
      have herror : fs.mapM scalarField = .error (.notScalar f.1) := by
        simp only [mapM_eq_error, exists_scalarField, scalarField_eq_error]
        exact ⟨before, f, after, first, plain, parts, rfl⟩
      rw [complete_iff.1 complete, hid, herror]
      rfl

/-- What a record has in common with the fields that it is made of. -/
structure MadeOf (r : Record) (fs : Fields Value) : Prop where
  fields : r.jsonFields = fs
  id : Fields.get? fs "id" = some (.scalar (.string r.id))

/-- **Fields that are accepted** are those of the record. -/
theorem ofFields_eq_ok_iff {r : Record} : ofFields fs = .ok r ↔ Acceptable fs ∧ r.MadeOf fs := by
  rw [ofFields_eq_ok]
  constructor
  · rintro ⟨rfl, hrequired, hid⟩
    have hget : Fields.get? r.jsonFields "id" = some (.scalar (.string r.id)) := by
      rw [get?_jsonFields, hid]
      rfl
    refine ⟨⟨?_, ⟨r.id, hget⟩, ?_⟩, ⟨rfl, hget⟩⟩
    · intro key hkey
      rw [← Fields.has_iff_mem_keys, has_jsonFields]
      exact hrequired key hkey
    · exact List.forall_mem_map.2 fun f _ => ⟨f.2, rfl⟩
  · rintro ⟨hfs, rfl, hid⟩
    refine ⟨rfl, ?_, ?_⟩
    · intro key hkey
      rw [← has_jsonFields, Fields.has_iff_mem_keys]
      exact hfs.complete key hkey
    · rw [get?_jsonFields] at hid
      obtain ⟨s, hs, e⟩ := Option.map_eq_some_iff.1 hid
      cases e
      exact hs

theorem exists_ofFields : (∃ r, ofFields fs = .ok r) ↔ Acceptable fs := by
  constructor
  · rintro ⟨r, hr⟩
    exact (ofFields_eq_ok_iff.1 hr).1
  · intro h
    cases hr : ofFields fs with
    | ok r => exact ⟨r, rfl⟩
    | error e =>
      -- each defect is the lack of something that acceptable fields have
      cases ofFields_eq_error.1 hr with
      | missingKey first _ missing =>
        exact absurd (h.complete _ (first ▸ List.mem_append_right _ List.mem_cons_self)) missing
      | idNotString _ unnamed => exact absurd h.named unnamed
      | notScalar _ _ first _ parts =>
        exact absurd (h.plain _ (first ▸ List.mem_append_right _ List.mem_cons_self)) parts

end Record

/-! ## 3. Catalogs -/

/-- The first object that is no record. -/
theorem ofObjects_eq_error {objects : List (Fields Value)} {e : CatalogError} :
    ofObjects objects = .error e ↔ ∃ before fs after d, objects = before ++ fs :: after ∧
      (∀ gs ∈ before, Record.Acceptable gs) ∧ Record.Defect fs d ∧
        e = .invalidRecord before.length d := by
  rw [ofObjects, map_eq_error, mapM_zipIdx_eq_error]
  simp only [Record.exists_ofFields, Record.ofFields_eq_error, Nat.zero_add]

theorem exists_ofObjects {objects : List (Fields Value)} :
    (∃ c, ofObjects objects = .ok c) ↔ ∀ fs ∈ objects, Record.Acceptable fs := by
  simp only [ofObjects_eq_ok, ← Record.exists_ofFields]
  constructor
  · rintro ⟨c, h⟩
    exact exists_of_forall₂ h
  · intro h
    obtain ⟨rs, hrs⟩ := exists_mapM h
    exact ⟨⟨rs⟩, mapM_eq_ok.1 hrs⟩

theorem records_of_ofObjects {objects : List (Fields Value)} {c : Catalog}
    (h : ofObjects objects = .ok c) :
    List.Forall₂ (fun fs r => Record.Acceptable fs ∧ r.MadeOf fs) objects c.records :=
  (ofObjects_eq_ok.1 h).imp fun _ _ => Record.ofFields_eq_ok_iff.1

/-- The objects of a catalog list the keys that its records do. -/
theorem keys_of_ofObjects {objects : List (Fields Value)} {c : Catalog}
    (h : ofObjects objects = .ok c) : objects.map Fields.keys = c.records.map Record.keys := by
  rw [← List.forall₂_eq_eq_eq, List.forall₂_map_left_iff, List.forall₂_map_right_iff]
  refine (records_of_ofObjects h).imp fun fs r hr => ?_
  rw [← hr.2.fields, Record.keys_jsonFields]

/-- The first record with other keys than the first one. -/
theorem schema_eq_error {c : Catalog} {e : CatalogError} :
    c.schema = .error e ↔ ∃ keys before found after,
      c.records.map Record.keys = keys :: (before ++ found :: after) ∧
        (∀ ks ∈ before, ks = keys) ∧ found ≠ keys ∧
          e = .inconsistentSchema (before.length + 1) keys found := by
  obtain ⟨records⟩ := c
  cases records with
  | nil => exact ⟨nofun, fun ⟨_, _, _, _, h, _⟩ => (by cases h)⟩
  | cons first rest =>
    have hfirst : ∀ r i, firstMismatch first.keys (rest.zipIdx 1) = some (r, i) ↔
        ∃ before after, rest = before ++ r :: after ∧ (∀ b ∈ before, b.keys = first.keys) ∧
          r.keys ≠ first.keys ∧ i = before.length + 1 := by
      intro r i
      have hsearch := @find?_zipIdx_iff Record (fun r => decide (r.keys ≠ first.keys)) r i rest 1
      rw [firstMismatch, hsearch]
      simp only [ne_eq, decide_not, Bool.not_eq_false', Bool.not_eq_true', decide_eq_true_eq,
        decide_eq_false_iff_not, Nat.add_comm 1]
    simp only [schema, List.zipIdx_cons, Nat.zero_add, List.map_cons, List.cons.injEq]
    constructor
    · intro h
      split at h
      · cases h
      · rename_i r i hr
        cases h
        obtain ⟨before, after, rfl, hbefore, hfound, rfl⟩ := (hfirst r i).1 hr
        refine ⟨first.keys, before.map Record.keys, r.keys, after.map Record.keys, ⟨rfl, ?_⟩,
          List.forall_mem_map.2 hbefore, hfound, ?_⟩
        · rw [List.map_append, List.map_cons]
        · rw [List.length_map]
    · rintro ⟨_, _, found, _, ⟨rfl, hrest⟩, hbefore, hfound, rfl⟩
      obtain ⟨before, after', rfl, rfl, hafter⟩ := List.map_eq_append_iff.1 hrest
      obtain ⟨r, after, rfl, rfl, _⟩ := List.map_eq_cons_iff.1 hafter
      have hr := (hfirst r (before.length + 1)).2
        ⟨before, after, rfl, List.forall_mem_map.1 hbefore, hfound, rfl⟩
      rw [hr, List.length_map]

/-- The first object with other keys than the first one, where all objects are records. -/
theorem schema_eq_error_iff {objects : List (Fields Value)} {c : Catalog}
    (h : ofObjects objects = .ok c) {e : CatalogError} :
    c.schema = .error e ↔ ∃ first before fs after, objects = first :: (before ++ fs :: after) ∧
      (∀ gs ∈ before, Fields.keys gs = Fields.keys first) ∧ Fields.keys fs ≠ Fields.keys first ∧
        e = .inconsistentSchema (before.length + 1) (Fields.keys first) (Fields.keys fs) := by
  rw [schema_eq_error, ← keys_of_ofObjects h]
  constructor
  · rintro ⟨_, _, _, _, hkeys, hsame, hother, rfl⟩
    obtain ⟨first, rest, rfl, rfl, hrest⟩ := List.map_eq_cons_iff.1 hkeys
    obtain ⟨before, others, rfl, rfl, hothers⟩ := List.map_eq_append_iff.1 hrest
    obtain ⟨fs, after, rfl, rfl, _⟩ := List.map_eq_cons_iff.1 hothers
    refine ⟨first, before, fs, after, rfl, List.forall_mem_map.1 hsame, hother, ?_⟩
    rw [List.length_map]
  · rintro ⟨first, before, fs, after, rfl, hsame, hother, rfl⟩
    refine ⟨_, before.map Fields.keys, _, after.map Fields.keys, ?_, List.forall_mem_map.2 hsame,
      hother, ?_⟩
    · rw [List.map_cons, List.map_append, List.map_cons]
    · rw [List.length_map]

theorem consistent_iff_sameKeys {objects : List (Fields Value)} {c : Catalog}
    (h : ofObjects objects = .ok c) : c.Consistent ↔
      ∀ fs ∈ objects, ∀ gs ∈ objects, Fields.keys fs = Fields.keys gs := by
  have hkeys := keys_of_ofObjects h
  constructor
  · rintro ⟨keys, hc⟩
    have hobjects : ∀ ks ∈ objects.map Fields.keys, ks = keys :=
      hkeys ▸ List.forall_mem_map.2 hc
    rw [List.forall_mem_map] at hobjects
    intro fs hfs gs hgs
    rw [hobjects fs hfs, hobjects gs hgs]
  · intro hsame
    cases objects with
    | nil =>
      rw [List.map_nil] at hkeys
      refine ⟨[], fun r hr => ?_⟩
      rw [List.map_eq_nil_iff.1 hkeys.symm] at hr
      cases hr
    | cons first rest =>
      have hfirst : ∀ ks ∈ c.records.map Record.keys, ks = Fields.keys first :=
        hkeys ▸ List.forall_mem_map.2 fun fs hfs => hsame fs hfs first List.mem_cons_self
      exact ⟨Fields.keys first, fun r hr => hfirst _ (List.mem_map_of_mem hr)⟩

/-! ## 4. Texts -/

/-- The objects of a catalog: all of them are records, and all list the same keys. -/
structure Regular (objects : List (Fields Value)) : Prop where
  acceptable : ∀ fs ∈ objects, Record.Acceptable fs
  sameKeys : ∀ fs ∈ objects, ∀ gs ∈ objects, Fields.keys fs = Fields.keys gs

/-- What is reported of a text that is no catalog: that it is no list of objects; else the first
    object that is no record, with its defect; else the first object whose keys are not those of the
    first one. -/
inductive Refused (text : String) : CatalogError → Prop where
  | json {e : Json.Error} (none : ¬ ∃ objects, Holds text objects)
      (read : readObjects text = .error e) : Refused text (.json e)
  | invalidRecord {before after : List (Fields Value)} {fs : Fields Value} {d : RecordError}
      (holds : Holds text (before ++ fs :: after)) (first : ∀ gs ∈ before, Record.Acceptable gs)
      (defect : Record.Defect fs d) : Refused text (.invalidRecord before.length d)
  | inconsistentSchema {before after : List (Fields Value)} {first fs : Fields Value}
      (holds : Holds text (first :: (before ++ fs :: after)))
      (acceptable : ∀ gs ∈ first :: (before ++ fs :: after), Record.Acceptable gs)
      (same : ∀ gs ∈ before, Fields.keys gs = Fields.keys first)
      (other : Fields.keys fs ≠ Fields.keys first) :
      Refused text (.inconsistentSchema (before.length + 1) (Fields.keys first) (Fields.keys fs))

theorem parse_eq_ok {text : String} {c : Catalog} : parse text = .ok c ↔
    ∃ objects, Holds text objects ∧ ofObjects objects = .ok c ∧ c.Consistent := by
  simp only [parse, parseRecords, bind_eq_ok, consistent_iff, holds_iff]
  constructor
  · rintro ⟨c', hc, keys, hkeys, h⟩
    cases h
    split at hc
    · rename_i objects hobjects
      exact ⟨objects, hobjects, hc, keys, hkeys⟩
    · cases hc
  · rintro ⟨objects, hobjects, hc, keys, hkeys⟩
    rw [hobjects]
    exact ⟨c, hc, keys, hkeys, rfl⟩

/-- The three places at which reading a catalog can fail. -/
theorem parse_eq_error {text : String} {e : CatalogError} : parse text = .error e ↔
    (∃ j, readObjects text = .error j ∧ e = .json j) ∨
      ∃ objects, readObjects text = .ok objects ∧
        (ofObjects objects = .error e ∨ ∃ c, ofObjects objects = .ok c ∧ c.schema = .error e) := by
  have hschema : ∀ c : Catalog, (do let _ ← c.schema; return c : Except CatalogError Catalog) =
      .error e ↔ c.schema = .error e := by
    intro c
    rw [bind_eq_error]
    exact ⟨fun h => h.elim id fun ⟨_, _, h⟩ => (by cases h), .inl⟩
  rw [parse, bind_eq_error]
  simp only [hschema, parseRecords]
  cases readObjects text with
  | error j =>
    constructor
    · rintro (h | ⟨_, h, _⟩)
      · cases h
        exact .inl ⟨j, rfl, rfl⟩
      · cases h
    · rintro (⟨_, h, rfl⟩ | ⟨_, h, _⟩)
      · cases h
        exact .inl rfl
      · cases h
  | ok objects =>
    constructor
    · exact fun h => .inr ⟨objects, rfl, h⟩
    · rintro (⟨_, h, _⟩ | ⟨_, h, hobjects⟩)
      · cases h
      · cases h
        exact hobjects

/-- **A text that is refused** is so for the reason that is reported. -/
theorem parse_eq_error_iff {text : String} {e : CatalogError} :
    parse text = .error e ↔ Refused text e := by
  rw [parse_eq_error]
  constructor
  · rintro (⟨j, hread, rfl⟩ | ⟨objects, hobjects, hrefused | ⟨c, hmade, hschema⟩⟩)
    · refine .json (fun ⟨objects, h⟩ => ?_) hread
      rw [holds_iff.1 h] at hread
      cases hread
    · obtain ⟨before, fs, after, d, rfl, hfirst, hdefect, rfl⟩ := ofObjects_eq_error.1 hrefused
      exact .invalidRecord (holds_iff.2 hobjects) hfirst hdefect
    · obtain ⟨first, before, fs, after, rfl, hsame, hother, rfl⟩ :=
        (schema_eq_error_iff hmade).1 hschema
      exact .inconsistentSchema (holds_iff.2 hobjects) (exists_ofObjects.1 ⟨c, hmade⟩) hsame hother
  · intro h
    cases h with
    | json _ read => exact .inl ⟨_, read, rfl⟩
    | invalidRecord holds first defect =>
      exact .inr ⟨_, holds_iff.1 holds,
        .inl (ofObjects_eq_error.2 ⟨_, _, _, _, rfl, first, defect, rfl⟩)⟩
    | inconsistentSchema holds acceptable same other =>
      obtain ⟨c, hmade⟩ := exists_ofObjects.2 acceptable
      exact .inr ⟨_, holds_iff.1 holds, .inr ⟨c, hmade,
        (schema_eq_error_iff hmade).2 ⟨_, _, _, _, rfl, same, other, rfl⟩⟩⟩

/-- **A text that is accepted** is a list of records with the same keys. -/
theorem exists_parse {text : String} :
    (∃ c, parse text = .ok c) ↔ ∃ objects, Holds text objects ∧ Regular objects := by
  simp only [parse_eq_ok]
  constructor
  · rintro ⟨c, objects, hobjects, hmade, hconsistent⟩
    exact ⟨objects, hobjects, exists_ofObjects.1 ⟨c, hmade⟩,
      (consistent_iff_sameKeys hmade).1 hconsistent⟩
  · rintro ⟨objects, hobjects, hregular⟩
    obtain ⟨c, hmade⟩ := exists_ofObjects.2 hregular.acceptable
    exact ⟨c, objects, hobjects, hmade, (consistent_iff_sameKeys hmade).2 hregular.sameKeys⟩

theorem parse_json_iff {text : String} :
    (∃ e, parse text = .error (.json e)) ↔ ¬ ∃ objects, Holds text objects := by
  constructor
  · rintro ⟨e, h⟩
    cases parse_eq_error_iff.1 h with
    | json none _ => exact none
  · intro none
    cases hread : readObjects text with
    | error e => exact ⟨e, parse_eq_error_iff.2 (.json none hread)⟩
    | ok objects => exact absurd ⟨objects, holds_iff.2 hread⟩ none

/-- **What is accepted as a catalog, and what is reported of the rest.** A text is accepted exactly
    if it is a list of objects that are records with the same keys, and they are the records of the
    catalog. A text that is no list of objects fails as such, and every other text with the first
    object that is no record, or else with the first whose keys are not those of the first one. -/
theorem parse_judges (text : String) :
    ((∃ c, parse text = .ok c) ↔ ∃ objects, Holds text objects ∧ Regular objects) ∧
      (∀ c, parse text = .ok c → ∃ objects, Holds text objects ∧
        List.Forall₂ (fun fs r => Record.MadeOf r fs) objects c.records) ∧
      ((∃ e, parse text = .error (.json e)) ↔ ¬ ∃ objects, Holds text objects) ∧
      ∀ e, parse text = .error e ↔ Refused text e := by
  refine ⟨exists_parse, ?_, parse_json_iff, fun _ => parse_eq_error_iff⟩
  intro c hc
  obtain ⟨objects, hobjects, hmade, _⟩ := parse_eq_ok.1 hc
  exact ⟨objects, hobjects, (records_of_ofObjects hmade).imp fun _ _ h => h.2⟩

end RadarCatalog.Catalog
