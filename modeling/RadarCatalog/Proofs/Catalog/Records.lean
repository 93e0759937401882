import RadarCatalog.Catalog.Basic
import RadarCatalog.Proofs.Fields
import RadarCatalog.Proofs.Json.ReadValues
import RadarCatalog.Proofs.Outcome

/-!
# Accepted records

`Record.Accepted` is where a record comes from: `Record.ofFields` made it of the fields of a JSON
object. `Record.Valid` is what a record is then known to be, and `accepted_iff_valid` says that
nothing is lost between the two: a valid record is made of its own JSON fields.

* `Record.Valid.ofFields_jsonFields`, `ofObjects_jsonFields`: valid records are accepted again;
* `readObjects_eq_ok`, `valid_of_ofObjects`, `valid_of_parseRecords`: a text that is read is a list of
  objects, and the records of these are valid;
* `consistent_iff`: a catalog has a schema when all its records list the same keys.
-/

namespace RadarCatalog.Catalog

open RadarCatalog.Json

/-! ## 1. One record -/

namespace Record

/-- The record was made of fields that list each key once, as those of a JSON object do. -/
def Accepted (r : Record) : Prop := ∃ fs : Fields Value, Fields.Distinct fs ∧ ofFields fs = .ok r

/-- The record has the required keys, each key once, and its id under `id`. -/
structure Valid (r : Record) : Prop where
  id : r.get? "id" = some (.string r.id)
  required : ∀ key ∈ requiredKeys, Fields.has r.fields key = true
  distinct : Fields.Distinct r.fields

theorem scalarField_eq_ok {f : String × Value} {g : String × Scalar} :
    scalarField f = .ok g ↔ f = (g.1, .scalar g.2) := by
  obtain ⟨k, v⟩ := f
  cases v with
  | scalar s =>
    constructor
    · intro h
      cases h
      rfl
    · intro h
      obtain ⟨rfl, h⟩ := Prod.mk.inj h
      cases h
      rfl
  | list vs => exact ⟨fun h => (by cases h), fun h => (by cases (Prod.mk.inj h).2)⟩
  | object fs => exact ⟨fun h => (by cases h), fun h => (by cases (Prod.mk.inj h).2)⟩

theorem mapM_scalarField_eq_ok {fs : Fields Value} {gs : Fields Scalar} :
    fs.mapM scalarField = .ok gs ↔ fs = gs.map fun g => (g.1, .scalar g.2) := by
  rw [mapM_eq_ok]
  constructor
  · intro h
    induction h with
    | nil => rfl
    | cons hf _ ih => rw [List.map_cons, ← scalarField_eq_ok.1 hf, ← ih]
  · rintro rfl
    induction gs with
    | nil => exact .nil
    | cons g gs ih => exact .cons (scalarField_eq_ok.2 rfl) ih

theorem get?_jsonFields (r : Record) (key : String) :
    Fields.get? r.jsonFields key = (r.get? key).map .scalar :=
  Fields.get?_map Value.scalar key r.fields

theorem has_jsonFields (r : Record) (key : String) :
    Fields.has r.jsonFields key = Fields.has r.fields key :=
  Fields.has_map Value.scalar r.fields key

theorem keys_jsonFields (r : Record) : Fields.keys r.jsonFields = r.keys :=
  Fields.keys_map Value.scalar r.fields

/-- The fields that a record is made of are its own, with the required keys and the id. -/
theorem ofFields_eq_ok {fs : Fields Value} {r : Record} :
    ofFields fs = .ok r ↔
      fs = r.jsonFields ∧ (∀ key ∈ requiredKeys, Fields.has r.fields key = true) ∧
        r.get? "id" = some (.string r.id) := by
  constructor
  · intro h
    unfold ofFields at h
    split at h
    · cases h
    · rename_i hmissing
      split at h
      · rename_i id hid
        obtain ⟨gs, hgs, rfl⟩ := map_eq_ok.1 h
        have hfs := mapM_scalarField_eq_ok.1 hgs
        refine ⟨hfs, ?_, ?_⟩
        · intro key hkey
          have := List.find?_eq_none.1 hmissing key hkey
          rw [hfs, Fields.has_map] at this
          simpa using this
        · rw [hfs, Fields.get?_map] at hid
          obtain ⟨s, hs, e⟩ := Option.map_eq_some_iff.1 hid
          cases e
          exact hs
      · cases h
  · intro h
    obtain ⟨rfl, hrequired, hid⟩ := h
    have hnone : (requiredKeys.find? fun key => !Fields.has r.jsonFields key) = none := by
      rw [List.find?_eq_none]
      intro key hkey
      rw [has_jsonFields, hrequired key hkey]
      simp
    unfold ofFields
    rw [hnone, get?_jsonFields, hid]
    exact map_eq_ok.2 ⟨r.fields, mapM_scalarField_eq_ok.2 rfl, rfl⟩

/-- **A valid record is accepted again**, as it is, from its own JSON fields. -/
theorem Valid.ofFields_jsonFields {r : Record} (h : r.Valid) : ofFields r.jsonFields = .ok r :=
  ofFields_eq_ok.2 ⟨rfl, h.required, h.id⟩

/-- **A record is accepted exactly when it is valid.** -/
theorem accepted_iff_valid {r : Record} : r.Accepted ↔ r.Valid := by
  constructor
  · intro h
    obtain ⟨fs, hd, h⟩ := h
    obtain ⟨rfl, hrequired, hid⟩ := ofFields_eq_ok.1 h
    refine ⟨hid, hrequired, ?_⟩
    rw [Fields.Distinct, keys_jsonFields] at hd
    exact hd
  · intro h
    refine ⟨r.jsonFields, ?_, h.ofFields_jsonFields⟩
    rw [Fields.Distinct, keys_jsonFields]
    exact h.distinct

end Record

/-! ## 2. All records of a catalog -/

/-- Every record of the catalog is valid. -/
def Valid (c : Catalog) : Prop := ∀ r ∈ c.records, r.Valid

/-- A catalog is made of objects when each record is made of the object in its place. -/
theorem ofObjects_eq_ok {objects : List (Fields Value)} {c : Catalog} :
    ofObjects objects = .ok c ↔
      List.Forall₂ (fun fs r => Record.ofFields fs = .ok r) objects c.records := by
  unfold ofObjects
  rw [map_eq_ok, ← mapM_zipIdx_eq_ok]
  constructor
  · intro h
    obtain ⟨rs, h, rfl⟩ := h
    exact h
  · intro h
    exact ⟨c.records, h, rfl⟩

/-- **Valid records are accepted again** from their own JSON fields. -/
theorem ofObjects_jsonFields {c : Catalog} (h : c.Valid) :
    ofObjects (c.records.map Record.jsonFields) = .ok c := by
  rw [ofObjects_eq_ok, List.forall₂_map_left_iff, List.forall₂_same]
  exact fun r hr => (h r hr).ofFields_jsonFields

/-- Objects come from a text that is a list of them. -/
theorem readObjects_eq_ok {text : String} {objects : List (Fields Value)} :
    readObjects text = .ok objects ↔
      Json.read (.listOf .object) text = .ok (.list (objects.map .object)) := by
  have hfields : ∀ objects : List (Fields Value),
      (Value.list (objects.map .object)).items.map Value.fields = objects := by
    intro objects
    rw [Value.items, List.map_map]
    exact List.map_id' objects
  unfold readObjects
  rw [map_eq_ok]
  constructor
  · rintro ⟨v, hv, rfl⟩
    obtain ⟨objects, rfl⟩ := Shape.admits_objects.1 (read_admits hv)
    rw [hv, hfields]
  · intro h
    exact ⟨_, h, hfields objects⟩

theorem distinct_of_readObjects {text : String} {objects : List (Fields Value)}
    (h : readObjects text = .ok objects) : ∀ fs ∈ objects, Fields.Distinct fs := by
  have hp := read_proper (readObjects_eq_ok.1 h)
  simp only [Value.Proper, properItems_iff, List.forall_mem_map] at hp
  exact fun fs hfs => (hp fs hfs).1

/-- **The records of objects** that list each key once are valid. -/
theorem valid_of_ofObjects {objects : List (Fields Value)} {c : Catalog}
    (hd : ∀ fs ∈ objects, Fields.Distinct fs) (h : ofObjects objects = .ok c) : c.Valid := by
  have hall := (List.forall₂_and_left objects c.records).2 ⟨hd, ofObjects_eq_ok.1 h⟩
  intro r hr
  obtain ⟨fs, hd, hfs⟩ := exists_of_forall₂ hall.flip r hr
  exact Record.accepted_iff_valid.1 ⟨fs, hd, hfs⟩

/-- **The records of a text** are valid. -/
theorem valid_of_parseRecords {text : String} {c : Catalog} (h : parseRecords text = .ok c) :
    c.Valid := by
  unfold parseRecords at h
  split at h
  · rename_i objects hobjects
    exact valid_of_ofObjects (distinct_of_readObjects hobjects) h
  · cases h

/-! ## 3. Consistency -/

/-- The first item of a numbered list with some property. -/
theorem find?_zipIdx_iff {α : Type} {p : α → Bool} {x : α} {i : Nat} :
    ∀ {l : List α} {start : Nat}, ((l.zipIdx start).find? fun y => p y.1) = some (x, i) ↔
      ∃ before after, l = before ++ x :: after ∧ (∀ y ∈ before, p y = false) ∧ p x = true ∧
        i = start + before.length
  | [], start => by
    constructor
    · nofun
    · rintro ⟨before, after, h, _⟩
      exact absurd h (by simp)
  | a :: l, start => by
    rw [List.zipIdx_cons, List.find?_cons]
    cases ha : p a with
    | true =>
      constructor
      · rintro ⟨⟩
        exact ⟨[], l, rfl, nofun, ha, rfl⟩
      · rintro ⟨before, after, h, hbefore, _, rfl⟩
        cases before with
        | nil =>
          cases h
          rfl
        | cons b before =>
          cases h
          rw [hbefore a List.mem_cons_self] at ha
          cases ha
    | false =>
      simp only [find?_zipIdx_iff]
      constructor
      · rintro ⟨before, after, rfl, hbefore, hx, rfl⟩
        refine ⟨a :: before, after, rfl, List.forall_mem_cons.2 ⟨ha, hbefore⟩, hx, ?_⟩
        rw [List.length_cons, Nat.add_assoc, Nat.add_comm 1]
      · rintro ⟨before, after, h, hbefore, hx, rfl⟩
        cases before with
        | nil =>
          cases h
          rw [ha] at hx
          cases hx
        | cons b before =>
          cases h
          refine ⟨before, after, rfl, (List.forall_mem_cons.1 hbefore).2, hx, ?_⟩
          rw [List.length_cons, Nat.add_assoc, Nat.add_comm 1]

/-- All records list these keys. -/
def ListsKeys (keys : List String) (c : Catalog) : Prop := ∀ r ∈ c.records, r.keys = keys

/-- A consistent catalog: its schema is the key list of every record. -/
theorem schema_eq_ok {c : Catalog} {keys : List String} (h : c.schema = .ok keys) :
    c.ListsKeys keys := by
  obtain ⟨records⟩ := c
  cases records with
  | nil => exact fun r hr => absurd hr List.not_mem_nil
  | cons first rest =>
    simp only [schema, List.zipIdx_cons] at h
    split at h
    · rename_i hnone
      cases h
      intro r hr
      rcases List.mem_cons.1 hr with rfl | hr
      · rfl
      · obtain ⟨i, hi⟩ := List.mem_iff_getElem?.1 hr
        have := List.find?_eq_none.1 hnone (r, 1 + i) (by
          rw [List.mk_mem_zipIdx_iff_le_and_getElem?_sub]
          exact ⟨Nat.le_add_right 1 i, by rw [Nat.add_sub_cancel_left, hi]⟩)
        simpa using this
    · cases h

/-- The records agree on some list of keys. -/
def Consistent (c : Catalog) : Prop := ∃ keys, c.ListsKeys keys

/-- **The schema exists exactly for consistent catalogs.** -/
theorem consistent_iff {c : Catalog} : c.Consistent ↔ ∃ keys, c.schema = .ok keys := by
  constructor
  · intro h
    obtain ⟨keys, h⟩ := h
    obtain ⟨records⟩ := c
    cases records with
    | nil => exact ⟨[], rfl⟩
    | cons first rest =>
      have hfirst : first.keys = keys := h first List.mem_cons_self
      have hnone : firstMismatch keys (rest.zipIdx 1) = none := by
        rw [firstMismatch, List.find?_eq_none]
        intro p hp
        have := h p.1 (List.mem_cons_of_mem _ (List.fst_mem_of_mem_zipIdx hp))
        simp [this]
      refine ⟨keys, ?_⟩
      simp only [schema, List.zipIdx_cons, Nat.zero_add, hnone, hfirst]
  · intro h
    obtain ⟨keys, h⟩ := h
    exact ⟨keys, schema_eq_ok h⟩

/-- An inconsistent catalog is the only failure of the schema. -/
theorem isInconsistentSchema_of_schema {c : Catalog} {e : CatalogError}
    (h : c.schema = .error e) : e.isInconsistentSchema = true := by
  unfold schema at h
  split at h
  · cases h
  · split at h
    · cases h
    · cases h
      rfl

/-- **A text that is accepted** holds a valid and consistent catalog. -/
theorem sound_of_parse {text : String} {c : Catalog} (h : parse text = .ok c) :
    c.Valid ∧ c.Consistent := by
  obtain ⟨c', hrecords, hrest⟩ := bind_eq_ok.1 h
  obtain ⟨keys, hkeys, hpure⟩ := bind_eq_ok.1 hrest
  cases hpure
  exact ⟨valid_of_parseRecords hrecords, consistent_iff.2 ⟨keys, hkeys⟩⟩

end RadarCatalog.Catalog
