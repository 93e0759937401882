import RadarCatalog.Catalog.Verify
import RadarCatalog.Proofs.Catalog.Records
import RadarCatalog.Proofs.Json.SameValue

/-!
# Records and catalogs of the same layout

Records of the same layout are those that become equal when every zero loses its sign
(`sameLayout_iff`). For records that were accepted this is the same as equal keys in equal order
and the same value under each key, a relation that does not pair the fields by their places
(`sameLayout_iff_sameAs`).

* `SameLayouts`, `SameAs`: the two relations on catalogs, equal on valid ones
  (`sameLayouts_iff_sameAs`);
* `firstDifference_eq_none`, `departsAt_of_firstDifference`: the comparison of two catalogs of one
  size finds the first place at which they differ, if there is one.
-/

namespace RadarCatalog.Catalog

open RadarCatalog.Json

/-! ## 1. Two records -/

namespace Record

/-- The record, where no zero has a sign. -/
def unsigned (r : Record) : Record where
  id := r.id
  fields := r.fields.map fun f => (f.1, f.2.unsigned)

theorem keys_unsigned (r : Record) : r.unsigned.keys = r.keys :=
  Fields.keys_map Scalar.unsigned r.fields

theorem get?_unsigned (r : Record) (key : String) :
    r.unsigned.get? key = (r.get? key).map Scalar.unsigned :=
  Fields.get?_map Scalar.unsigned key r.fields

/-- Fields that are compared place by place. -/
theorem map_unsigned_eq_iff : ∀ {fs gs : Fields Scalar},
    fs.map (fun f => (f.1, f.2.unsigned)) = gs.map (fun f => (f.1, f.2.unsigned)) ↔
      Fields.keys fs = Fields.keys gs ∧
        ((Fields.values fs).zip (Fields.values gs)).all (fun p => p.1.sameValue p.2) = true
  | [], [] => ⟨fun _ => ⟨rfl, rfl⟩, fun _ => rfl⟩
  | [], _ :: _ | _ :: _, [] => ⟨nofun, fun h => (by cases h.1)⟩
  | (k, s) :: fs, (k', s') :: gs => by
    simp only [Fields.keys, Fields.values, List.map_cons, List.zip_cons_cons, List.all_cons,
      List.cons.injEq, Prod.mk.injEq, Bool.and_eq_true, Scalar.sameValue_iff]
    have ih := @map_unsigned_eq_iff fs gs
    simp only [Fields.keys, Fields.values] at ih
    rw [ih]
    tauto

/-- **Records of the same layout** are equal but for the signs of zeros. -/
theorem sameLayout_iff {a b : Record} : a.sameLayout b = true ↔ a.unsigned = b.unsigned := by
  simp only [sameLayout, Bool.and_eq_true, decide_eq_true_eq, unsigned, mk.injEq,
    map_unsigned_eq_iff, and_assoc]
  rfl

theorem sameLayout_self (r : Record) : r.sameLayout r = true := sameLayout_iff.2 rfl

/-- Equal keys in equal order, and the same value under each of them. -/
structure SameAs (a b : Record) : Prop where
  keys : a.keys = b.keys
  values : ∀ key, Option.Rel (fun s t => s.sameValue t = true) (a.get? key) (b.get? key)

/-- **Among valid records**, the values may as well be looked up by their keys; the ids are
    compared with them. -/
theorem sameLayout_iff_sameAs {a b : Record} (ha : a.Valid) (hb : b.Valid) :
    a.sameLayout b = true ↔ a.SameAs b := by
  rw [sameLayout_iff]
  constructor
  · intro h
    refine ⟨?_, ?_⟩
    · rw [← keys_unsigned a, h, keys_unsigned]
    · intro key
      rw [Scalar.rel_sameValue_iff, ← get?_unsigned, h, get?_unsigned]
  · intro h
    have hget : ∀ key, a.unsigned.get? key = b.unsigned.get? key := by
      intro key
      rw [get?_unsigned, get?_unsigned, ← Scalar.rel_sameValue_iff]
      exact h.values key
    have hid : a.id = b.id := by
      have hvalue := hget "id"
      rw [get?_unsigned, get?_unsigned, ha.id, hb.id] at hvalue
      exact Scalar.string.inj (Option.some.inj hvalue)
    have hdistinct : Fields.Distinct a.unsigned.fields := by
      show a.unsigned.keys.Nodup
      rw [keys_unsigned]
      exact ha.distinct
    have hkeys : a.unsigned.keys = b.unsigned.keys := by
      rw [keys_unsigned, keys_unsigned, h.keys]
    have hfields : a.unsigned.fields = b.unsigned.fields :=
      Fields.eq_of_get? hdistinct hkeys hget
    rw [unsigned, hid]
    exact congrArg (Record.mk b.id) hfields

end Record

/-! ## 2. Two catalogs -/

/-- The records of two catalogs have the same layouts, place by place. -/
def SameLayouts (a b : Catalog) : Prop :=
  List.Forall₂ (fun r r' => r.sameLayout r' = true) a.records b.records

/-- The records of two catalogs list equal keys with the same values, place by place. -/
def SameAs (a b : Catalog) : Prop := List.Forall₂ Record.SameAs a.records b.records

/-- At this place the two catalogs hold different records. -/
def DepartsAt (a b : Catalog) (i : Nat) : Prop :=
  ∃ r r', a.records[i]? = some r ∧ b.records[i]? = some r' ∧ ¬ r.SameAs r'

theorem sameLayouts_refl (c : Catalog) : c.SameLayouts c :=
  List.forall₂_same.2 fun r _ => Record.sameLayout_self r

/-- A function of records that respects their layout has equal values on such catalogs. -/
theorem SameLayouts.map_eq {α : Type} {a b : Catalog} (h : a.SameLayouts b) {f : Record → α}
    (hf : ∀ {r r' : Record}, r.unsigned = r'.unsigned → f r = f r') :
    a.records.map f = b.records.map f := by
  rw [← List.forall₂_eq_eq_eq, List.forall₂_map_left_iff, List.forall₂_map_right_iff]
  exact h.imp fun _ _ hr => hf (Record.sameLayout_iff.1 hr)

/-- The first item of a list with some property, found with its position. -/
theorem find?_zipIdx_eq_some {α : Type} {l : List α} {p : α → Bool} {x : α} {i : Nat}
    (h : (l.zipIdx.find? fun y => p y.1) = some (x, i)) :
    l[i]? = some x ∧ p x = true ∧ ∀ j < i, ∀ y, l[j]? = some y → p y = false := by
  obtain ⟨before, after, rfl, hbefore, hx, hi⟩ := find?_zipIdx_iff.1 h
  rw [Nat.zero_add] at hi
  subst hi
  refine ⟨by simp, hx, ?_⟩
  intro j hj y hy
  rw [List.getElem?_append_left hj] at hy
  exact hbefore y (List.mem_of_getElem? hy)

section Comparison

variable {read expected : Catalog}

/-- Catalogs of one size without a difference. -/
theorem firstDifference_eq_none (hsize : read.size = expected.size) :
    firstDifference read expected = none ↔ read.SameLayouts expected := by
  unfold firstDifference SameLayouts
  rw [Option.map_eq_none_iff, List.find?_eq_none, List.forall₂_iff_zip]
  simp only [Bool.not_eq_true', Bool.not_eq_false]
  constructor
  · intro h
    refine ⟨hsize, ?_⟩
    intro r r' hmem
    obtain ⟨i, hi⟩ := List.mem_iff_getElem?.1 hmem
    exact h ((r, r'), i) (List.mk_mem_zipIdx_iff_getElem?.2 hi)
  · intro h p hp
    exact h.2 (List.fst_mem_of_mem_zipIdx hp)

variable (hread : read.Valid) (hexpected : expected.Valid)
include hread hexpected

theorem sameLayouts_iff_sameAs : read.SameLayouts expected ↔ read.SameAs expected := by
  unfold SameLayouts SameAs
  rw [List.forall₂_iff_zip, List.forall₂_iff_zip]
  have hpair : ∀ {r r' : Record}, (r, r') ∈ read.records.zip expected.records →
      (r.sameLayout r' = true ↔ r.SameAs r') := by
    intro r r' hmem
    obtain ⟨hr, hr'⟩ := List.of_mem_zip hmem
    exact Record.sameLayout_iff_sameAs (hread r hr) (hexpected r' hr')
  constructor
  · intro h
    exact ⟨h.1, fun hmem => (hpair hmem).1 (h.2 hmem)⟩
  · intro h
    exact ⟨h.1, fun hmem => (hpair hmem).2 (h.2 hmem)⟩

/-- The difference that is found is the first one. -/
theorem departsAt_of_firstDifference {i : Nat} {r : Record}
    (h : firstDifference read expected = some (i, r)) :
    expected.records[i]? = some r ∧ read.DepartsAt expected i ∧
      ∀ j < i, ¬ read.DepartsAt expected j := by
  obtain ⟨⟨⟨a, b⟩, k⟩, hfind, he⟩ := Option.map_eq_some_iff.1 h
  obtain ⟨rfl, rfl⟩ : k = i ∧ b = r := Prod.mk.inj he
  obtain ⟨hpair, hdiffers, hbefore⟩ :=
    find?_zipIdx_eq_some (p := fun q : Record × Record => !q.1.sameLayout q.2) hfind
  -- fields are compared by their places, but `SameAs` looks them up by their keys
  have hsame : ∀ {j : Nat} {r r' : Record}, read.records[j]? = some r →
      expected.records[j]? = some r' → (r.sameLayout r' = true ↔ r.SameAs r') := by
    intro j r r' hr hr'
    exact Record.sameLayout_iff_sameAs (hread r (List.mem_of_getElem? hr))
      (hexpected r' (List.mem_of_getElem? hr'))
  obtain ⟨ha, hb⟩ := List.getElem?_zip_eq_some.1 hpair
  refine ⟨hb, ⟨a, b, ha, hb, ?_⟩, ?_⟩
  · rw [← hsame ha hb]
    simpa using hdiffers
  · rintro j hj ⟨r, r', hr, hr', hnot⟩
    have hequal := hbefore j hj (r, r') (List.getElem?_zip_eq_some.2 ⟨hr, hr'⟩)
    exact hnot ((hsame hr hr').1 (by simpa using hequal))

end Comparison

end RadarCatalog.Catalog
