import RadarCatalog.Proofs.Registry.WireVariants
import RadarCatalog.Update.Revision

/-!
# Numbers between quotes

A text field of a wire record takes a string or a number, and keeps the number's JSON text. So a
number in such a field may as well stand there as the string of its text: the decoder does not tell
the two apart, in success and in failure, and neither does what follows it.

* `Wire.texts` are the text fields, `Quoted` is the replacement of numbers in them, at any depth;
* `Differ` relates two records that differ in the value of one field, and `decode_of_differ` says
  that they decode to the same, errors included, if the decoder of that field does not tell the two
  values apart;
* `same_of_quoted`: so replaced numbers change nothing;
* `decodeStations_of_quoted`, `canonicalOf_of_quoted`: nor do they in lists of stations.
-/

namespace RadarCatalog.Registry

open RadarCatalog.Json

/-! ## 1. The replacement -/

/-- The fields of a wire record that hold a text or a number. -/
def Wire.texts : Wire → List String
  | .identifier => ["id"]
  | .header => ["latitude_dec", "longitude_dec"]
  | .elevation => ["elevationFeet"]
  | .station | .location | .platform => []

/-- A number as a value. -/
def numberValue (n : Number) : Value := .scalar (.number n)

/-- The string of a number's text as a value. -/
def quotedValue (n : Number) : Value := .scalar (.string (String.ofList n.text))

/-- The value of a source. -/
def Source.toValue : Source → Value
  | .named fs => .object fs
  | .listed vs => .list vs

/-- The second source has another value in one place, which is a field with the key or the item at
    the position. -/
inductive Differ (key : String) (position : Nat) (u u' : Value) : Source → Source → Prop where
  | named (fs gs : Fields Value) :
      Differ key position u u' (.named (fs ++ (key, u) :: gs)) (.named (fs ++ (key, u') :: gs))
  | listed (vs ws : List Value) (place : vs.length = position) :
      Differ key position u u' (.listed (vs ++ u :: ws)) (.listed (vs ++ u' :: ws))

/-- The second value is made of the first by putting numbers in text fields between quotes. -/
inductive Quoted : Part → Value → Value → Prop where
  /-- A number in a text field becomes the string of its text. -/
  | number {w : Wire} {position : Nat} {key : String} {n : Number} {s s' : Source}
      (wanted : w.fields[position]? = some (key, .plain)) (text : key ∈ w.texts)
      (record : Differ key position (numberValue n) (quotedValue n) s s') :
      Quoted (.one w) s.toValue s'.toValue
  /-- Numbers inside a wanted field. -/
  | field {w : Wire} {position : Nat} {key : String} {p : Part} {u u' : Value} {s s' : Source}
      (wanted : w.fields[position]? = some (key, p)) (part : Quoted p u u')
      (record : Differ key position u u' s s') : Quoted (.one w) s.toValue s'.toValue
  /-- Numbers inside an item of a list of wire records. -/
  | item {w : Wire} {vs ws : List Value} {v v' : Value} (item : Quoted (.one w) v v') :
      Quoted (.many w) (.list (vs ++ v :: ws)) (.list (vs ++ v' :: ws))
  | refl {p : Part} (v : Value) : Quoted p v v
  | trans {p : Part} {v v' v'' : Value} (h : Quoted p v v') (h' : Quoted p v' v'') :
      Quoted p v v''

/-! ## 2. Records that differ in one field -/

section Records

variable {α β γ : Type} {record : WireRecord} {checks : List (String × Decoder Unit)}
  {key : String} {position : Nat} {u u' : Value} {s s' : Source}

/-- The value of a source has that source, if its fields pass their checks. -/
theorem source_toValue (s : Source) : record.source checks s.toValue =
    match s with
    | .named fs => fs.forM (checkField checks) >>= fun _ => .ok (.named fs)
    | .listed vs => .ok (.listed vs) := by
  cases s with
  | named fs => rfl
  | listed vs => rfl

theorem checkField_congr (h : ∀ c ∈ checks, c.1 = key → c.2 u = c.2 u') :
    checkField checks (key, u) = checkField checks (key, u') := by
  unfold checkField
  cases hlookup : checks.lookup key with
  | none => rfl
  | some check =>
    obtain ⟨before, after, rfl, _⟩ := List.lookup_eq_some_iff.1 hlookup
    exact h (key, check) (List.mem_append_right _ List.mem_cons_self) rfl

/-- Both values have a source, each its own, or both fail with the same error. -/
theorem source_of_differ (record : WireRecord) (hdiffer : Differ key position u u' s s')
    (h : ∀ c ∈ checks, c.1 = key → c.2 u = c.2 u') :
    (record.source checks s.toValue = .ok s ∧ record.source checks s'.toValue = .ok s') ∨
      ∃ e, record.source checks s.toValue = .error e ∧
        record.source checks s'.toValue = .error e := by
  rw [source_toValue, source_toValue]
  cases hdiffer with
  | listed vs ws place => exact .inl ⟨rfl, rfl⟩
  | named fs gs =>
    have hsame : (fs ++ (key, u) :: gs).forM (checkField checks) =
        (fs ++ (key, u') :: gs).forM (checkField checks) := by
      simp only [List.forM_eq_forM, List.forM_append, List.forM_cons, checkField_congr h]
    simp only [hsame]
    cases (fs ++ (key, u') :: gs).forM (checkField checks) with
    | ok _ => exact .inl ⟨rfl, rfl⟩
    | error e => exact .inr ⟨e, rfl, rfl⟩

/-- The slot at a position, if it is the one of the place that differs, does not tell the two values
    apart. -/
def Slot.Blind (slot : Slot α) (i : Nat) (key : String) (position : Nat) (u u' : Value) : Prop :=
  slot.name = key ∨ i = position → slot.decode u = slot.decode u'

theorem Slot.Blind.check {slot : Slot α} {i : Nat} (h : slot.Blind i key position u u')
    (hkey : slot.check.1 = key) : slot.check.2 u = slot.check.2 u' := by
  simp only [Slot.check, h (.inl hkey)]

/-- A blind slot gives the same of both records. -/
theorem Slot.Blind.get {slot : Slot α} {i : Nat} (h : slot.Blind i key position u u')
    (hdiffer : Differ key position u u' s s') : slot.get record i s = slot.get record i s' := by
  unfold Slot.get
  cases hdiffer with
  | named fs gs =>
    simp only [Fields.get?_append, Fields.get?]
    by_cases hkey : key = slot.name
    · have hdecode := h (.inl hkey.symm)
      cases Fields.get? fs slot.name with
      | some v => rfl
      | none => simp only [hkey, if_true, Option.none_or, hdecode]
    · simp only [hkey, if_false]
  | listed vs ws place =>
    by_cases hi : i = vs.length
    · have hdecode := h (.inr (hi.trans place))
      simp only [hi, getElem?_middle, hdecode]
    · have hother : (vs ++ u :: ws)[i]? = (vs ++ u' :: ws)[i]? := getElem?_middle_of_ne hi
      simp only [hother]

theorem finish_of_differ (hdiffer : Differ key position u u' s s') :
    record.finish s = record.finish s' := by
  cases hdiffer with
  | named fs gs => rfl
  | listed vs ws place => simp only [WireRecord.finish, List.length_append, List.length_cons]

/-- A decoder that goes on from the source of a record, and does not tell the two records apart. -/
theorem bind_source_of_differ {k : Source → Except DecodeError γ}
    (hdiffer : Differ key position u u' s s') (hchecks : ∀ c ∈ checks, c.1 = key → c.2 u = c.2 u')
    (hk : k s = k s') :
    (record.source checks s.toValue >>= k) = (record.source checks s'.toValue >>= k) := by
  obtain ⟨hs, hs'⟩ | ⟨e, hs, hs'⟩ := source_of_differ record hdiffer hchecks
  · rw [hs, hs']
    exact hk
  · rw [hs, hs']

theorem decodeRecordOne_of_differ {a : Slot α} {build : α → γ}
    (hdiffer : Differ key position u u' s s') (ha : a.Blind 0 key position u u') :
    decodeRecordOne record a build s.toValue = decodeRecordOne record a build s'.toValue := by
  refine bind_source_of_differ hdiffer ?_ ?_
  · rw [List.forall_mem_singleton]
    exact ha.check
  · simp only [ha.get hdiffer, finish_of_differ hdiffer]

theorem decodeRecordTwo_of_differ {a : Slot α} {b : Slot β} {build : α → β → γ}
    (hdiffer : Differ key position u u' s s') (ha : a.Blind 0 key position u u')
    (hb : b.Blind 1 key position u u') :
    decodeRecordTwo record a b build s.toValue = decodeRecordTwo record a b build s'.toValue := by
  refine bind_source_of_differ hdiffer ?_ ?_
  · rw [List.forall_mem_cons, List.forall_mem_singleton]
    exact ⟨ha.check, hb.check⟩
  · simp only [ha.get hdiffer, hb.get hdiffer, finish_of_differ hdiffer]

theorem decodeStation_of_differ (hdiffer : Differ key position u u' s s')
    (hi : identifiersSlot.Blind 0 key position u u') (hh : headerSlot.Blind 1 key position u u')
    (he : locationSlot.Blind 2 key position u u') (hp : platformsSlot.Blind 3 key position u u') :
    decodeStation s.toValue = decodeStation s'.toValue := by
  refine bind_source_of_differ hdiffer ?_ ?_
  · rw [List.forall_mem_cons, List.forall_mem_cons, List.forall_mem_cons,
      List.forall_mem_singleton]
    exact ⟨hi.check, hh.check, he.check, hp.check⟩
  · simp only [hi.get hdiffer, hh.get hdiffer, he.get hdiffer, hp.get hdiffer,
      finish_of_differ hdiffer]

end Records

/-! ## 3. Decoding with quotes -/

/-- The decoder of a part does not tell the two values apart. -/
def Part.Same : Part → Value → Value → Prop
  | .plain, u, u' => u = u'
  | .one w, u, u' => w.decode u = w.decode u'
  | .many w, u, u' => decodeList w.decode u = decodeList w.decode u'

theorem Part.same_refl (p : Part) (v : Value) : p.Same v v := by
  cases p with
  | plain | one w | many w => rfl

theorem Part.same_trans {p : Part} {v v' v'' : Value} (h : p.Same v v') (h' : p.Same v' v'') :
    p.Same v v'' := by
  cases p with
  | plain | one w | many w => exact Eq.trans h h'

/-- No decoder of texts tells the two values apart. -/
structure SameText (u u' : Value) : Prop where
  text : decodeText u = decodeText u'
  textOrNull : decodeTextOrNull u = decodeTextOrNull u'

theorem sameText_quoted (n : Number) : SameText (numberValue n) (quotedValue n) := ⟨rfl, rfl⟩

/-- The decoder of a wanted field does not tell the two values apart. -/
def Wire.Same (w : Wire) (key : String) (p : Part) (u u' : Value) : Prop :=
  p.Same u u' ∨ key ∈ w.texts ∧ SameText u u'

section Wires

variable {w : Wire} {key : String} {position : Nat} {p : Part} {u u' : Value} {s s' : Source}

/-- A field that is not one of the text fields. -/
theorem Wire.Same.part (h : w.Same key p u u') (hkey : key ∉ w.texts) : p.Same u u' :=
  h.resolve_right fun htext => hkey htext.1

/-- A text field. -/
theorem Wire.Same.text (h : w.Same key .plain u u') : SameText u u' := by
  obtain heq | ⟨_, htext⟩ := h
  · cases heq
    exact ⟨rfl, rfl⟩
  · exact htext

/-- A wire record declares each field once. -/
theorem Wire.position_unique {i j : Nat} {q : Part} (hi : w.fields[i]? = some (key, q))
    (hj : w.fields[j]? = some (key, p)) : i = j := by
  have hkey : ∀ {k : Nat} {r : Part}, w.fields[k]? = some (key, r) →
      (Fields.keys w.fields)[k]? = some key := by
    intro k r hk
    rw [Fields.keys, List.getElem?_map, hk, Option.map_some]
  obtain ⟨hlt, _⟩ := List.getElem?_eq_some_iff.1 (hkey hi)
  exact (List.getElem?_inj hlt w.distinct_fields).1 ((hkey hi).trans (hkey hj).symm)

/-- **The value of one field** counts as far as its decoder tells. -/
theorem decode_of_differ (wanted : w.fields[position]? = some (key, p))
    (hdiffer : Differ key position u u' s s') (hsame : w.Same key p u u') :
    w.decode s.toValue = w.decode s'.toValue := by
  -- a slot reads the place that differs only if it is the one of that place
  have hplace : ∀ (i : Nat) (name : String) (q : Part), w.fields[i]? = some (name, q) →
      name = key ∨ i = position → w.Same name q u u' := by
    intro i name q hfield hor
    obtain rfl : i = position := by
      obtain rfl | hi := hor
      · exact w.position_unique hfield wanted
      · exact hi
    rw [wanted] at hfield
    cases hfield
    exact hsame
  cases w with
  | station =>
    have hi := hplace 0 _ _ rfl
    have hh := hplace 1 _ _ rfl
    have he := hplace 2 _ _ rfl
    have hp := hplace 3 _ _ rfl
    exact decodeStation_of_differ hdiffer (fun h => (hi h).part List.not_mem_nil)
      (fun h => (hh h).part List.not_mem_nil) (fun h => (he h).part List.not_mem_nil)
      (fun h => (hp h).part List.not_mem_nil)
  | identifier =>
    have hidType := hplace 0 _ _ rfl
    have hid := hplace 1 _ _ rfl
    exact decodeRecordTwo_of_differ hdiffer
      (fun h => congrArg decodeString ((hidType h).part (by decide))) (fun h => (hid h).text.text)
  | header =>
    have hlatitude := hplace 0 _ _ rfl
    have hlongitude := hplace 1 _ _ rfl
    exact decodeRecordTwo_of_differ hdiffer (fun h => (hlatitude h).text.text)
      (fun h => (hlongitude h).text.text)
  | location =>
    have helevations := hplace 0 _ _ rfl
    exact decodeRecordOne_of_differ hdiffer (fun h => (helevations h).part List.not_mem_nil)
  | elevation =>
    have htype := hplace 0 _ _ rfl
    have hfeet := hplace 1 _ _ rfl
    exact decodeRecordTwo_of_differ hdiffer
      (fun h => congrArg decodeString ((htype h).part (by decide)))
      (fun h => (hfeet h).text.textOrNull)
  | platform =>
    have hplatform := hplace 0 _ _ rfl
    exact decodeRecordOne_of_differ hdiffer
      (fun h => congrArg decodeString ((hplatform h).part List.not_mem_nil))

end Wires

/-- **Quotes around a number** change nothing of what is decoded, nor whether it is. -/
theorem same_of_quoted {p : Part} {v v' : Value} (h : Quoted p v v') : p.Same v v' := by
  induction h with
  | @number w position key n s s' wanted text record =>
    exact decode_of_differ wanted record (.inr ⟨text, sameText_quoted n⟩)
  | field wanted part record ih => exact decode_of_differ wanted record (.inl ih)
  | @item w vs ws v v' item ih =>
    show (vs ++ v :: ws).mapM w.decode = (vs ++ v' :: ws).mapM w.decode
    have hsame : w.decode v = w.decode v' := ih
    rw [List.mapM_append, List.mapM_append, List.mapM_cons, List.mapM_cons, hsame]
  | refl v => exact Part.same_refl _ v
  | trans h h' ih ih' => exact Part.same_trans ih ih'

/-! ## 4. Lists of stations -/

/-- **Numbers between quotes** make no difference to a list of stations, in success and failure. -/
theorem decodeStations_of_quoted {stations quoted : List Value}
    (h : List.Forall₂ (Quoted (.one .station)) stations quoted) :
    decodeStations quoted = decodeStations stations := by
  have hsame : stations.map decodeStation = quoted.map decodeStation := by
    rw [← List.forall₂_eq_eq_eq, List.forall₂_map_left_iff, List.forall₂_map_right_iff]
    exact h.imp fun _ _ => same_of_quoted
  have hdecode : ∀ vs : List Value, decodeStations vs =
      (vs.map decodeStation).zipIdx.mapM fun r => r.1.mapError (SnapshotError.mk r.2) := by
    intro vs
    rw [List.zipIdx_map, List.mapM_map]
    rfl
  rw [hdecode, hdecode, hsame]

/-- Nor do they to the canonical stations. -/
theorem canonicalOf_of_quoted {stations quoted : List Value}
    (h : List.Forall₂ (Quoted (.one .station)) stations quoted) (p : Policy) :
    Update.canonicalOf p quoted = Update.canonicalOf p stations := by
  simp only [Update.canonicalOf, decodeStations_of_quoted h]

end RadarCatalog.Registry
