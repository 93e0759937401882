import RadarCatalog.Proofs.Json.Reading
import RadarCatalog.Proofs.Registry.Payloads

/-!
# Variants of station values

A station value and the parts of it are wire records, of which only the wanted fields are decoded.
A variant of such a value lists the keys of its objects in another order, and has other fields
beside the wanted ones, at any depth at which a wire record stands.

* `Variant`: what can be done to a value without touching a wanted field;
* `decodeRecordOne_eq_ok`, `decodeRecordTwo_eq_ok`, `decodeStation_eq_ok`: what a record is decoded
  to is a matter of what stands in the places of its wanted fields;
* `alike_of_variant`: variants decode to the same, or neither of them decodes;
* `decodeStations_of_variants`: so lists of variants decode to the same reports, or both fail at the
  same station.
-/

namespace RadarCatalog.Registry

open RadarCatalog.Json

/-! ## 1. Wire records and their variants -/

/-- The kinds of wire records. -/
inductive Wire where
  | station
  | identifier
  | header
  | location
  | elevation
  | platform

/-- What stands in a wanted field: a plain value, a wire record or a list of wire records. -/
inductive Part where
  | plain
  | one (w : Wire)
  | many (w : Wire)

/-- The wanted fields of a wire record, in the order in which they are declared. -/
def Wire.fields : Wire → Fields Part
  | .station =>
    [("identifiers", .many .identifier), ("header", .one .header), ("location", .one .location),
      ("platforms", .many .platform)]
  | .identifier => [("idType", .plain), ("id", .plain)]
  | .header => [("latitude_dec", .plain), ("longitude_dec", .plain)]
  | .location => [("elevations", .many .elevation)]
  | .elevation => [("elevationType", .plain), ("elevationFeet", .plain)]
  | .platform => [("platform", .plain)]

/-- The second value is made of the first by changes to the objects that are decoded as wire
    records: their keys take another order, and fields that are not wanted come or go. -/
inductive Variant : Part → Value → Value → Prop where
  /-- The keys of an object in another order. -/
  | reorder {w : Wire} {fs gs : Fields Value} (perm : fs.Perm gs) :
      Variant (.one w) (.object fs) (.object gs)
  /-- One more field, which is not wanted, with any value. -/
  | extend {w : Wire} {fs gs : Fields Value} {key : String} {v : Value}
      (foreign : key ∉ Fields.keys w.fields) (new : key ∉ Fields.keys (fs ++ gs))
      (value : v.Proper) : Variant (.one w) (.object (fs ++ gs)) (.object (fs ++ (key, v) :: gs))
  /-- A change inside a wanted field of an object. -/
  | field {w : Wire} {fs gs : Fields Value} {key : String} {p : Part} {v v' : Value}
      (wanted : w.fields.get? key = some p) (part : Variant p v v') :
      Variant (.one w) (.object (fs ++ (key, v) :: gs)) (.object (fs ++ (key, v') :: gs))
  /-- A change inside a wire record that is given as the list of its fields. -/
  | place {w : Wire} {vs ws : List Value} {key : String} {p : Part} {v v' : Value}
      (wanted : w.fields[vs.length]? = some (key, p)) (part : Variant p v v') :
      Variant (.one w) (.list (vs ++ v :: ws)) (.list (vs ++ v' :: ws))
  /-- A change inside an item of a list of wire records. -/
  | item {w : Wire} {vs ws : List Value} {v v' : Value} (item : Variant (.one w) v v') :
      Variant (.many w) (.list (vs ++ v :: ws)) (.list (vs ++ v' :: ws))
  | refl {p : Part} (v : Value) : Variant p v v
  | symm {p : Part} {v v' : Value} (h : Variant p v v') : Variant p v' v
  | trans {p : Part} {v v' v'' : Value} (h : Variant p v v') (h' : Variant p v' v'') :
      Variant p v v''

theorem proper_object_perm {fs gs : Fields Value} (h : fs.Perm gs) :
    (Value.object fs).Proper ↔ (Value.object gs).Proper := by
  simp only [Value.Proper, properMembers_iff, Fields.distinct_perm h, h.mem_iff]

/-- One field in front of others, as far as keys and properness go. -/
theorem proper_object_middle {fs gs : Fields Value} {key : String} {v : Value} :
    (Value.object (fs ++ (key, v) :: gs)).Proper ↔
      key ∉ Fields.keys (fs ++ gs) ∧ v.Proper ∧ (Value.object (fs ++ gs)).Proper := by
  rw [proper_object_perm List.perm_middle]
  simp only [Value.Proper, properMembers, Fields.Distinct, Fields.keys, List.map_cons,
    List.nodup_cons]
  tauto

theorem proper_list_middle {vs ws : List Value} {v : Value} :
    (Value.list (vs ++ v :: ws)).Proper ↔ v.Proper ∧ (Value.list (vs ++ ws)).Proper := by
  simp only [Value.Proper, properItems_iff, List.forall_mem_append, List.forall_mem_cons]
  tauto

theorem getElem?_middle (vs ws : List Value) (v : Value) :
    (vs ++ v :: ws)[vs.length]? = some v := by
  rw [List.getElem?_append_right (Nat.le_refl _), Nat.sub_self, List.getElem?_cons_zero]

/-- Beside the item in the middle a list does not depend on it. -/
theorem getElem?_middle_of_ne {vs ws : List Value} {v v' : Value} {i : Nat} (h : i ≠ vs.length) :
    (vs ++ v :: ws)[i]? = (vs ++ v' :: ws)[i]? := by
  rcases Nat.lt_or_gt_of_ne h with hlt | hgt
  · rw [List.getElem?_append_left hlt, List.getElem?_append_left hlt]
  · obtain ⟨k, rfl⟩ : ∃ k, i = vs.length + (k + 1) := ⟨i - vs.length - 1, by omega⟩
    simp only [List.getElem?_append_right (Nat.le_add_right _ _), Nat.add_sub_cancel_left,
      List.getElem?_cons_succ]

/-- A variant lists each key once when the value does. -/
theorem Variant.proper_iff {p : Part} {v v' : Value} (h : Variant p v v') :
    v.Proper ↔ v'.Proper := by
  induction h with
  | reorder perm => exact proper_object_perm perm
  | extend foreign new value =>
    rw [proper_object_middle]
    exact ⟨fun h => ⟨new, value, h⟩, fun h => h.2.2⟩
  | field wanted part ih => rw [proper_object_middle, proper_object_middle, ih]
  | place wanted part ih | item part ih => rw [proper_list_middle, proper_list_middle, ih]
  | refl v => rfl
  | symm h ih => exact ih.symm
  | trans h h' ih ih' => exact ih.trans ih'

/-! ## 2. What stands in the places of a record -/

/-- How a value offers the fields of a record: what stands under a name and at a position, and
    whether there is nothing more than the record has room for. -/
structure Offer where
  find : String → Nat → Option Value
  complete : Prop

/-- An object offers its fields by name and a list by position. -/
def WireRecord.offer (record : WireRecord) : Value → Offer
  | .object fs => ⟨fun name _ => Fields.get? fs name, True⟩
  | .list vs => ⟨fun _ position => vs[position]?, vs.length ≤ record.arity⟩
  | .scalar _ => ⟨fun _ _ => none, False⟩

section Slots

variable {α β γ : Type} {a : α}

/-- What a slot takes of the value in its place, if there is one. -/
def Slot.Takes (slot : Slot α) (o : Option Value) (a : α) : Prop :=
  match o with
  | some v => slot.decode v = .ok a
  | none => slot.absent = some a

/-- What stands in a source under a name and at a position. -/
def Source.find : Source → String → Nat → Option Value
  | .named fs, name, _ => Fields.get? fs name
  | .listed vs, _, position => vs[position]?

theorem Slot.get_eq_ok {slot : Slot α} {record : WireRecord} {position : Nat} {source : Source} :
    slot.get record position source = .ok a ↔
      slot.Takes (source.find slot.name position) a := by
  obtain ⟨name, decode, absent⟩ := slot
  unfold Slot.get Slot.Takes Source.find
  cases source with
  | named fs =>
    cases hget : fs.get? name with
    | some v => simp only [hget]
    | none => cases absent <;> simp [hget]
  | listed vs =>
    cases hget : vs[position]? with
    | some v => simp only [hget]
    | none => cases absent <;> simp [hget]

/-- The check of a slot that takes the value in its place. -/
theorem Slot.check_of_takes {slot : Slot α} {o : Option Value} (h : slot.Takes o a) :
    ∀ v, o = some v → slot.check.2 v = .ok () := by
  rintro v rfl
  exact map_eq_ok.2 ⟨a, h, rfl⟩

end Slots

section Sources

variable {record : WireRecord} {checks : List (String × Decoder Unit)} {v : Value}

theorem forM_checkField_eq_ok : ∀ {fs : Fields Value},
    fs.forM (checkField checks) = .ok () ↔ ∀ f ∈ fs, checkField checks f = .ok ()
  | [] => by simp [pure, Except.pure]
  | f :: fs => by
    have ih := @forM_checkField_eq_ok fs
    rw [List.forM_eq_forM] at ih ⊢
    rw [List.forM_cons, bind_eq_ok, List.forall_mem_cons, ← ih]
    exact ⟨fun ⟨_, hf, hfs⟩ => ⟨hf, hfs⟩, fun ⟨hf, hfs⟩ => ⟨(), hf, hfs⟩⟩

/-- The source of a value offers what the value offers. -/
theorem offer_of_source {source : Source} (h : record.source checks v = .ok source) :
    source.find = (record.offer v).find ∧
      (record.finish source = .ok () ↔ (record.offer v).complete) := by
  cases v with
  | scalar s => cases h
  | object fs =>
    obtain ⟨_, _, h⟩ := bind_eq_ok.1 h
    cases h
    exact ⟨rfl, fun _ => trivial, fun _ => rfl⟩
  | list vs =>
    cases h
    refine ⟨rfl, ?_⟩
    simp only [WireRecord.finish, WireRecord.offer]
    split
    · rename_i hlong
      exact ⟨nofun, fun hfits => absurd hfits (Nat.not_le.2 hlong)⟩
    · rename_i hfits
      exact ⟨fun _ => Nat.le_of_not_lt hfits, fun _ => rfl⟩

/-- A value whose wanted fields pass their checks has a source. -/
theorem exists_source (hv : v.Proper) (hcomplete : (record.offer v).complete)
    (hchecks : ∀ (i : Nat) (c : String × Decoder Unit), checks[i]? = some c →
      ∀ u, (record.offer v).find c.1 i = some u → c.2 u = .ok ()) :
    ∃ source, record.source checks v = .ok source := by
  cases v with
  | scalar s => exact hcomplete.elim
  | list vs => exact ⟨.listed vs, rfl⟩
  | object fs =>
    refine ⟨.named fs, bind_eq_ok.2 ⟨(), forM_checkField_eq_ok.2 ?_, rfl⟩⟩
    intro f hf
    unfold checkField
    cases hlookup : checks.lookup f.1 with
    | none => rfl
    | some check =>
      -- each key is listed once, so the field is the one that is found under its key
      obtain ⟨before, after, rfl, _⟩ := List.lookup_eq_some_iff.1 hlookup
      simp only [Value.Proper] at hv
      exact hchecks before.length (f.1, check) (by simp) f.2 (Fields.get?_of_mem hv.1 hf)

end Sources

/-! ## 3. What a record is decoded to -/

section Records

variable {α β γ : Type} {record : WireRecord} {a : Slot α} {b : Slot β} {r : γ} {v : Value}

theorem takes_of_decodeRecordOne {build : α → γ} (h : decodeRecordOne record a build v = .ok r) :
    (record.offer v).complete ∧ ∃ x, a.Takes ((record.offer v).find a.name 0) x ∧ r = build x := by
  unfold decodeRecordOne at h
  simp only [bind_eq_ok, Slot.get_eq_ok] at h
  obtain ⟨source, hsource, x, hx, _, hfinish, hr⟩ := h
  obtain ⟨hfind, hcomplete⟩ := offer_of_source hsource
  cases hr
  rw [hfind] at hx
  exact ⟨hcomplete.1 hfinish, x, hx, rfl⟩

/-- **A record with one wanted field** is decoded by what stands in its place. -/
theorem decodeRecordOne_eq_ok {build : α → γ} (hv : v.Proper) :
    decodeRecordOne record a build v = .ok r ↔ (record.offer v).complete ∧
      ∃ x, a.Takes ((record.offer v).find a.name 0) x ∧ r = build x := by
  refine ⟨takes_of_decodeRecordOne, ?_⟩
  rintro ⟨hcomplete, x, hx, rfl⟩
  obtain ⟨source, hsource⟩ : ∃ source, record.source [a.check] v = .ok source := by
    refine exists_source hv hcomplete ?_
    rintro (_ | i) c hc
    · cases hc
      exact Slot.check_of_takes hx
    · cases hc
  obtain ⟨hfind, hfinish⟩ := offer_of_source hsource
  unfold decodeRecordOne
  simp only [bind_eq_ok, Slot.get_eq_ok]
  rw [← hfind] at hx
  exact ⟨source, hsource, x, hx, (), hfinish.2 hcomplete, rfl⟩

theorem takes_of_decodeRecordTwo {build : α → β → γ}
    (h : decodeRecordTwo record a b build v = .ok r) : (record.offer v).complete ∧
      ∃ x y, a.Takes ((record.offer v).find a.name 0) x ∧
        b.Takes ((record.offer v).find b.name 1) y ∧ r = build x y := by
  unfold decodeRecordTwo at h
  simp only [bind_eq_ok, Slot.get_eq_ok] at h
  obtain ⟨source, hsource, x, hx, y, hy, _, hfinish, hr⟩ := h
  obtain ⟨hfind, hcomplete⟩ := offer_of_source hsource
  cases hr
  rw [hfind] at hx hy
  exact ⟨hcomplete.1 hfinish, x, y, hx, hy, rfl⟩

/-- **A record with two wanted fields** is decoded by what stands in their places. -/
theorem decodeRecordTwo_eq_ok {build : α → β → γ} (hv : v.Proper) :
    decodeRecordTwo record a b build v = .ok r ↔ (record.offer v).complete ∧
      ∃ x y, a.Takes ((record.offer v).find a.name 0) x ∧
        b.Takes ((record.offer v).find b.name 1) y ∧ r = build x y := by
  refine ⟨takes_of_decodeRecordTwo, ?_⟩
  rintro ⟨hcomplete, x, y, hx, hy, rfl⟩
  obtain ⟨source, hsource⟩ : ∃ source, record.source [a.check, b.check] v = .ok source := by
    refine exists_source hv hcomplete ?_
    rintro (_ | _ | i) c hc
    · cases hc
      exact Slot.check_of_takes hx
    · cases hc
      exact Slot.check_of_takes hy
    · cases hc
  obtain ⟨hfind, hfinish⟩ := offer_of_source hsource
  unfold decodeRecordTwo
  simp only [bind_eq_ok, Slot.get_eq_ok]
  rw [← hfind] at hx hy
  exact ⟨source, hsource, x, hx, y, hy, (), hfinish.2 hcomplete, rfl⟩

theorem takes_of_decodeStation {r : StationReport} (h : decodeStation v = .ok r) :
    let offer := WireRecord.offer ⟨"HomrStation", 4⟩ v
    offer.complete ∧ identifiersSlot.Takes (offer.find "identifiers" 0) r.identifiers ∧
      headerSlot.Takes (offer.find "header" 1) (r.latitude, r.longitude) ∧
      locationSlot.Takes (offer.find "location" 2) r.elevations ∧
      platformsSlot.Takes (offer.find "platforms" 3) r.platforms := by
  unfold decodeStation at h
  simp only [bind_eq_ok, Slot.get_eq_ok] at h
  obtain ⟨source, hsource, is, hi, header, hh, es, he, ps, hp, _, hfinish, hr⟩ := h
  obtain ⟨hfind, hcomplete⟩ := offer_of_source hsource
  cases hr
  rw [hfind] at hi hh he hp
  exact ⟨hcomplete.1 hfinish, hi, hh, he, hp⟩

/-- **A station** is decoded by what stands in the places of its four wanted fields. -/
theorem decodeStation_eq_ok {r : StationReport} (hv : v.Proper) :
    decodeStation v = .ok r ↔
      let offer := WireRecord.offer ⟨"HomrStation", 4⟩ v
      offer.complete ∧ identifiersSlot.Takes (offer.find "identifiers" 0) r.identifiers ∧
        headerSlot.Takes (offer.find "header" 1) (r.latitude, r.longitude) ∧
        locationSlot.Takes (offer.find "location" 2) r.elevations ∧
        platformsSlot.Takes (offer.find "platforms" 3) r.platforms := by
  refine ⟨takes_of_decodeStation, ?_⟩
  rintro ⟨hcomplete, hi, hh, he, hp⟩
  obtain ⟨source, hsource⟩ : ∃ source, WireRecord.source ⟨"HomrStation", 4⟩
      [identifiersSlot.check, headerSlot.check, locationSlot.check, platformsSlot.check] v =
        .ok source := by
    refine exists_source hv hcomplete ?_
    rintro (_ | _ | _ | _ | i) c hc
    · cases hc
      exact Slot.check_of_takes hi
    · cases hc
      exact Slot.check_of_takes hh
    · cases hc
      exact Slot.check_of_takes he
    · cases hc
      exact Slot.check_of_takes hp
    · cases hc
  obtain ⟨hfind, hfinish⟩ := offer_of_source hsource
  unfold decodeStation
  simp only [bind_eq_ok, Slot.get_eq_ok]
  rw [← hfind] at hi hh he hp
  exact ⟨source, hsource, _, hi, _, hh, _, he, _, hp, (), hfinish.2 hcomplete, rfl⟩

end Records

/-! ## 4. Variants decode alike -/

section Alike

variable {α β : Type}

/-- Decoding gives the same for both values, or fails for both. -/
def Alike (d : Decoder α) (v v' : Value) : Prop := ∀ a, d v = .ok a ↔ d v' = .ok a

theorem Slot.takes_congr {slot : Slot α} {o o' : Option Value}
    (h : Option.Rel (Alike slot.decode) o o') (a : α) : slot.Takes o a ↔ slot.Takes o' a := by
  cases h with
  | none => rfl
  | some h => exact h a

theorem Slot.takes_congr_plain {slot : Slot α} {o o' : Option Value} (h : Option.Rel Eq o o')
    (a : α) : slot.Takes o a ↔ slot.Takes o' a := by
  cases h with
  | none => rfl
  | some h => rw [h]

/-- Lists whose items decode alike. -/
theorem forall₂_alike {d : Decoder α} {vs ws : List Value} (h : List.Forall₂ (Alike d) vs ws)
    (as : List α) : List.Forall₂ (fun v a => d v = .ok a) vs as ↔
      List.Forall₂ (fun w a => d w = .ok a) ws as := by
  induction h generalizing as with
  | nil => rfl
  | cons hv _ ih =>
    rw [List.forall₂_cons_left_iff, List.forall₂_cons_left_iff]
    simp only [hv _, ih]

theorem alike_list {d : Decoder α} {vs ws : List Value} (h : List.Forall₂ (Alike d) vs ws) :
    Alike (decodeList d) (.list vs) (.list ws) := by
  intro as
  simp only [decodeList, mapM_eq_ok]
  exact forall₂_alike h as

/-- What a wire record is decoded to. -/
def Wire.Report : Wire → Type
  | .station => StationReport
  | .identifier | .elevation => Tagged
  | .header => String × String
  | .location => List Tagged
  | .platform => String

/-- How a wire record is decoded. -/
def Wire.decode : (w : Wire) → Decoder w.Report
  | .station => decodeStation
  | .identifier => decodeIdentifier
  | .header => decodeHeader
  | .location => decodeLocation
  | .elevation => decodeElevation
  | .platform => decodePlatform

/-- Values that may stand for each other in a wanted field. -/
def Part.Alike : Part → Value → Value → Prop
  | .plain => Eq
  | .one w => Registry.Alike w.decode
  | .many w => Registry.Alike (decodeList w.decode)

/-- The name of a wire record and how many fields it declares. -/
def Wire.record : Wire → WireRecord
  | .station => ⟨"HomrStation", 4⟩
  | .identifier => ⟨"HomrIdentifier", 2⟩
  | .header => ⟨"HomrHeader", 2⟩
  | .location => ⟨"HomrLocation", 1⟩
  | .elevation => ⟨"HomrElevation", 2⟩
  | .platform => ⟨"HomrPlatform", 1⟩

section Congruence

variable {γ : Type} {v v' : Value} (hv : v.Proper) (hv' : v'.Proper)
include hv hv'

theorem alike_recordOne {record : WireRecord} {a : Slot α} {build : α → γ}
    (hcomplete : (record.offer v).complete ↔ (record.offer v').complete)
    (ha : ∀ x, a.Takes ((record.offer v).find a.name 0) x ↔
      a.Takes ((record.offer v').find a.name 0) x) :
    Alike (decodeRecordOne record a build) v v' := by
  intro r
  simp only [decodeRecordOne_eq_ok hv, decodeRecordOne_eq_ok hv', hcomplete, ha]

theorem alike_recordTwo {record : WireRecord} {a : Slot α} {b : Slot β} {build : α → β → γ}
    (hcomplete : (record.offer v).complete ↔ (record.offer v').complete)
    (ha : ∀ x, a.Takes ((record.offer v).find a.name 0) x ↔
      a.Takes ((record.offer v').find a.name 0) x)
    (hb : ∀ y, b.Takes ((record.offer v).find b.name 1) y ↔
      b.Takes ((record.offer v').find b.name 1) y) :
    Alike (decodeRecordTwo record a b build) v v' := by
  intro r
  simp only [decodeRecordTwo_eq_ok hv, decodeRecordTwo_eq_ok hv', hcomplete, ha, hb]

/-- **Only the places of the wanted fields** count for what a wire record is decoded to. -/
theorem alike_of_offer {w : Wire}
    (hcomplete : (w.record.offer v).complete ↔ (w.record.offer v').complete)
    (h : ∀ (i : Nat) (key : String) (p : Part), w.fields[i]? = some (key, p) →
      Option.Rel p.Alike ((w.record.offer v).find key i) ((w.record.offer v').find key i)) :
    Alike w.decode v v' := by
  cases w with
  | station =>
    have hi := @Slot.takes_congr _ identifiersSlot _ _ (h 0 _ _ rfl)
    have hh := @Slot.takes_congr _ headerSlot _ _ (h 1 _ _ rfl)
    have he := @Slot.takes_congr _ locationSlot _ _ (h 2 _ _ rfl)
    have hp := @Slot.takes_congr _ platformsSlot _ _ (h 3 _ _ rfl)
    have hstation : Alike decodeStation v v' := by
      intro r
      simp only [Wire.record] at hcomplete hi hh he hp
      simp only [decodeStation_eq_ok hv, decodeStation_eq_ok hv', hcomplete, hi, hh, he, hp]
    exact hstation
  | identifier | header | elevation =>
    exact alike_recordTwo hv hv' hcomplete (Slot.takes_congr_plain (h 0 _ _ rfl))
      (Slot.takes_congr_plain (h 1 _ _ rfl))
  | location => exact alike_recordOne hv hv' hcomplete (Slot.takes_congr (h 0 _ _ rfl))
  | platform => exact alike_recordOne hv hv' hcomplete (Slot.takes_congr_plain (h 0 _ _ rfl))

end Congruence

end Alike

namespace Part

theorem alike_refl (p : Part) (v : Value) : p.Alike v v := by
  cases p with
  | plain => rfl
  | one w | many w => exact fun _ => Iff.rfl

theorem alike_symm {p : Part} {v v' : Value} (h : p.Alike v v') : p.Alike v' v := by
  cases p with
  | plain => exact h.symm
  | one w | many w => exact fun a => (h a).symm

theorem alike_trans {p : Part} {v v' v'' : Value} (h : p.Alike v v') (h' : p.Alike v' v'') :
    p.Alike v v'' := by
  cases p with
  | plain => exact h.trans h'
  | one w | many w => exact fun a => (h a).trans (h' a)

theorem rel_of_eq {p : Part} {o o' : Option Value} (h : o = o') : Option.Rel p.Alike o o' := by
  subst h
  cases o with
  | none => exact .none
  | some v => exact .some (p.alike_refl v)

end Part

theorem Wire.distinct_fields (w : Wire) : Fields.Distinct w.fields := by
  cases w <;> decide

/-- **Variants decode alike**, by induction on the changes that were made. -/
theorem alike_of_variant {p : Part} {v v' : Value} (h : Variant p v v') (hv : v.Proper) :
    p.Alike v v' := by
  induction h with
  | @reorder w fs gs perm =>
    have hdistinct : Fields.Distinct fs := by
      simp only [Value.Proper] at hv
      exact hv.1
    have hv' := (@Variant.reorder w fs gs perm).proper_iff.1 hv
    refine alike_of_offer hv hv' Iff.rfl ?_
    intro i key p _
    exact Part.rel_of_eq (Fields.get?_perm hdistinct perm key)
  | @extend w fs gs key v foreign new value =>
    have hv' := (Variant.extend foreign new value).proper_iff.1 hv
    refine alike_of_offer hv hv' Iff.rfl ?_
    intro i key' p hp
    have hne : ¬ key = key' := by
      rintro rfl
      exact foreign (List.mem_map_of_mem (f := Prod.fst) (List.mem_of_getElem? hp))
    refine Part.rel_of_eq (Eq.symm ?_)
    show Fields.get? (fs ++ (key, v) :: gs) key' = Fields.get? (fs ++ gs) key'
    simp only [Fields.get?_append, Fields.get?, hne, if_false]
  | @field w fs gs key p v v' wanted part ih =>
    have hv' := (Variant.field wanted part).proper_iff.1 hv
    refine alike_of_offer hv hv' Iff.rfl ?_
    intro i key' p' hp'
    have habsent : key ∉ Fields.keys fs := by
      simp only [Value.Proper] at hv
      exact Fields.absent_of_distinct hv.1
    show Option.Rel p'.Alike (Fields.get? (fs ++ (key, v) :: gs) key')
      (Fields.get? (fs ++ (key, v') :: gs) key')
    by_cases hkey : key = key'
    · subst hkey
      -- the field is wanted under one name only, so it is the part that was changed
      obtain rfl : p = p' := by
        have hpart := Fields.get?_of_mem w.distinct_fields (List.mem_of_getElem? hp')
        rw [wanted] at hpart
        exact Option.some.inj hpart
      simp only [Fields.get?_append, Fields.get?_eq_none habsent, Fields.get?, if_true,
        Option.none_or]
      exact .some (ih (proper_object_middle.1 hv).2.1)
    · refine Part.rel_of_eq ?_
      simp only [Fields.get?_append, Fields.get?, hkey, if_false]
  | @place w vs ws key p v v' wanted part ih =>
    have hv' := (@Variant.place w vs ws key p v v' wanted part).proper_iff.1 hv
    refine alike_of_offer hv hv' ?_ ?_
    · simp only [WireRecord.offer, List.length_append, List.length_cons]
    intro i key' p' hp'
    show Option.Rel p'.Alike (vs ++ v :: ws)[i]? (vs ++ v' :: ws)[i]?
    by_cases hi : i = vs.length
    · subst hi
      rw [wanted] at hp'
      cases hp'
      rw [getElem?_middle, getElem?_middle]
      exact .some (ih (proper_list_middle.1 hv).1)
    · exact Part.rel_of_eq (getElem?_middle_of_ne hi)
  | @item w vs ws v v' item ih =>
    have hsame : ∀ us : List Value, List.Forall₂ (Alike w.decode) us us :=
      fun us => List.forall₂_same.2 fun u _ => Part.alike_refl (.one w) u
    exact alike_list (List.rel_append (hsame vs)
      (.cons (ih (proper_list_middle.1 hv).1) (hsame ws)))
  | refl v => exact Part.alike_refl _ v
  | symm h ih => exact Part.alike_symm (ih (h.proper_iff.2 hv))
  | trans h h' ih ih' => exact Part.alike_trans (ih hv) (ih' (h.proper_iff.1 hv))

/-! ## 5. Lists of stations -/

theorem decodeStations_eq_error {stations : List Value} {e : SnapshotError} :
    decodeStations stations = .error e ↔ ∃ before v after cause,
      stations = before ++ v :: after ∧ (∀ u ∈ before, ∃ r, decodeStation u = .ok r) ∧
        decodeStation v = .error cause ∧ e = ⟨before.length, cause⟩ := by
  have hfirst := @mapM_zipIdx_eq_error _ _ _ _ decodeStation SnapshotError.mk e stations 0
  simp only [Nat.zero_add] at hfirst
  exact hfirst

/-- One station alone decodes to its report. -/
theorem decodeStations_single_eq_ok {v : Value} {r : StationReport} :
    decodeStations [v] = .ok [r] ↔ decodeStation v = .ok r := by
  rw [decodeStations_eq_ok]
  simp

/-- One station alone fails as the first one. -/
theorem decodeStations_single_eq_error {v : Value} {cause : DecodeError} :
    decodeStations [v] = .error ⟨0, cause⟩ ↔ decodeStation v = .error cause := by
  rw [decodeStations_eq_error]
  constructor
  · rintro ⟨before, u, after, cause', hsplit, _, hu, he⟩
    obtain ⟨hlength, rfl⟩ := SnapshotError.mk.inj he
    obtain rfl : before = [] := List.eq_nil_of_length_eq_zero hlength.symm
    obtain ⟨rfl, _⟩ := List.cons.inj hsplit
    exact hu
  · intro h
    exact ⟨[], v, [], cause, rfl, nofun, h, rfl⟩

/-- **Decoding reads the wanted fields only.** Of station values and variants of them, either both
    decode, to the same reports, each of them that of its station alone; or both fail at the same
    station, the first one that does not decode on its own. -/
theorem decodeStations_of_variants {stations variants : List Value}
    (hproper : ∀ v ∈ stations, v.Proper)
    (hvariants : List.Forall₂ (Variant (.one .station)) stations variants) :
    (∃ reports, decodeStations stations = .ok reports ∧ decodeStations variants = .ok reports ∧
        List.Forall₂ (fun v r => decodeStations [v] = .ok [r]) stations reports) ∨
      ∃ before v after cause cause', stations = before ++ v :: after ∧
        (∀ u ∈ before, ∃ r, decodeStations [u] = .ok [r]) ∧
        decodeStations [v] = .error ⟨0, cause⟩ ∧
        decodeStations stations = .error ⟨before.length, cause⟩ ∧
        decodeStations variants = .error ⟨before.length, cause'⟩ := by
  simp only [decodeStations_single_eq_ok, decodeStations_single_eq_error]
  have halike : List.Forall₂ (Alike decodeStation) stations variants := by
    have hboth := (List.forall₂_and_left stations variants).2 ⟨hproper, hvariants⟩
    exact hboth.imp fun v v' h => alike_of_variant h.2 h.1
  cases hdecode : decodeStations stations with
  | ok reports =>
    have hreports := decodeStations_eq_ok.1 hdecode
    have hvariants := (forall₂_alike halike reports).1 hreports
    exact .inl ⟨reports, rfl, decodeStations_eq_ok.2 hvariants, hreports⟩
  | error e =>
    obtain ⟨before, v, after, cause, rfl, hbefore, hv, rfl⟩ := decodeStations_eq_error.1 hdecode
    obtain ⟨before', v', after', rfl, hfirst, hv'⟩ := exists_split_of_forall₂ halike
    obtain ⟨cause', hcause'⟩ : ∃ cause', decodeStation v' = .error cause' := by
      cases hdecode' : decodeStation v' with
      | error cause' => exact ⟨cause', rfl⟩
      | ok r =>
        rw [← hv' r, hv] at hdecode'
        cases hdecode'
    have hbefore' : ∀ u ∈ before', ∃ r, decodeStation u = .ok r := by
      have hboth := (List.forall₂_and_left before before').2 ⟨hbefore, hfirst⟩
      intro u' hu'
      obtain ⟨u, ⟨r, hr⟩, hu⟩ := exists_of_forall₂ hboth.flip u' hu'
      exact ⟨r, (hu r).1 hr⟩
    refine .inr ⟨before, v, after, cause, cause', rfl, hbefore, hv, rfl, ?_⟩
    rw [decodeStations_eq_error, hfirst.length_eq]
    exact ⟨before', v', after', cause', rfl, hbefore', hcause', rfl⟩

/-- The wanted fields of an identifier. -/
def plainIdentifier : Fields Value :=
  [("idType", .scalar (.string "ICAO")), ("id", .scalar (.string "KTLX"))]

/-- A station value with one identifier, and further fields. -/
def stationValue (identifier further : Fields Value) : Value :=
  .object ([("identifiers", .list [.object identifier]),
    ("header", .object [("latitude_dec", .scalar (.string "35.33")),
      ("longitude_dec", .scalar (.string "-97.28"))])] ++ further)

/-- Fields of a station two of which are of a wrong kind. -/
def brokenFields : Fields Value :=
  [("header", .scalar .null), ("identifiers", .scalar (.bool true))]

/-- The identifier in another order and with a field more, a field more of the station, and behind
    it a station that fails with another message in another order. -/
theorem decodeStations_of_variants_example :
    decodeStations [stationValue plainIdentifier [], .object brokenFields] =
        .error ⟨1, .wrongKind (.scalar .null) "struct HomrHeader"⟩ ∧
      ∃ cause, decodeStations
        [stationValue (plainIdentifier.reverse ++ [("name", .list [])]) [("note", .scalar .null)],
          .object brokenFields.reverse] = .error ⟨1, cause⟩ := by
  have hfirst : decodeStations [stationValue plainIdentifier [], .object brokenFields] =
      .error ⟨1, .wrongKind (.scalar .null) "struct HomrHeader"⟩ := rfl
  refine ⟨hfirst, ?_⟩
  have hproper : ∀ v ∈ [stationValue plainIdentifier [], .object brokenFields], v.Proper := by
    simp [stationValue, plainIdentifier, brokenFields, Value.Proper, properItems, properMembers,
      Fields.Distinct, Fields.keys]
  have hidentifier : Variant (.one .identifier) (.object plainIdentifier)
      (.object (plainIdentifier.reverse ++ [("name", .list [])])) := by
    have hname : Variant (.one .identifier) (.object (plainIdentifier.reverse ++ []))
        (.object (plainIdentifier.reverse ++ [("name", .list [])])) :=
      .extend (by decide) (by decide) (by simp [Value.Proper, properItems])
    exact .trans (.reorder (List.reverse_perm plainIdentifier).symm) hname
  have hstation : Variant (.one .station) (stationValue plainIdentifier [])
      (stationValue (plainIdentifier.reverse ++ [("name", .list [])])
        [("note", .scalar .null)]) := by
    have hinside : Variant (.one .station) (stationValue plainIdentifier [])
        (stationValue (plainIdentifier.reverse ++ [("name", .list [])]) []) :=
      @Variant.field .station [] _ "identifiers" _ _ _ rfl (@Variant.item _ [] [] _ _ hidentifier)
    exact hinside.trans (@Variant.extend .station _ [] "note" (.scalar .null) (by decide)
      (by decide) (by simp only [Value.Proper]))
  have hbroken : Variant (.one .station) (.object brokenFields) (.object brokenFields.reverse) :=
    .reorder (List.reverse_perm brokenFields).symm
  obtain ⟨_, hok, _⟩ | ⟨before, _, _, _, cause, _, _, _, herror, hvariants⟩ :=
    decodeStations_of_variants hproper (.cons hstation (.cons hbroken .nil))
  · rw [hfirst] at hok
    cases hok
  · rw [hfirst] at herror
    obtain ⟨hplace, _⟩ := SnapshotError.mk.inj (Except.error.inj herror)
    rw [← hplace] at hvariants
    exact ⟨cause, hvariants⟩

end RadarCatalog.Registry
