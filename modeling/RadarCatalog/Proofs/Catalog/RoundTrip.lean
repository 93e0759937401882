import RadarCatalog.Proofs.Catalog.Layouts
import RadarCatalog.Proofs.Catalog.SameLayouts

/-!
# A rendered catalog is read back

The text of a catalog whose records were accepted reads as this very catalog: the same records with
the same keys in the same order, and every value the same datum (an integer stays an integer, and a
binary64 number keeps all its bits). So rendering what was read gives the same text again.

* `parseRecords_render`, `parse_render`: reading a rendered text;
* `render_round_trip`: the two together with the failures, for both layouts;
* `verify_render`: the verification of a rendered text never fails.
-/

namespace RadarCatalog.Catalog

open RadarCatalog.Json

/-! ## 1. The JSON list of a catalog -/

section List

variable {c : Catalog} (h : c.Valid)
include h

theorem proper_toJson : c.toJson.Proper := by
  simp only [toJson, Value.Proper, properItems_iff, List.mem_map]
  rintro v ⟨r, hr, rfl⟩
  have hd : Fields.Distinct r.jsonFields := by
    rw [Fields.Distinct, Record.keys_jsonFields]
    exact (h r hr).distinct
  simp only [Record.toJson, Value.Proper, properMembers_iff]
  refine ⟨hd, ?_⟩
  intro f hf
  obtain ⟨g, _, rfl⟩ := List.mem_map.1 hf
  simp only [Value.Proper]

omit h in
theorem depth_toJson (c : Catalog) : c.toJson.depth ≤ maxDepth := by
  have hrecords : depthItems (c.records.map Record.toJson) ≤ 1 := by
    rw [depthItems_le]
    intro v hv
    obtain ⟨r, _, rfl⟩ := List.mem_map.1 hv
    have hmembers : depthMembers r.jsonFields ≤ 0 := by
      rw [depthMembers_le]
      intro f hf
      obtain ⟨g, _, rfl⟩ := List.mem_map.1 hf
      simp only [Value.depth, Nat.le_refl]
    simp only [Record.toJson, Value.depth]
    omega
  simp only [toJson, Value.depth, maxDepth]
  omega

/-- The objects of a text with the tokens of a catalog. -/
theorem readObjects_of_scan {text : String} (ht : Token.scan text.toList = c.toJson.tokens) :
    readObjects text = .ok (c.records.map Record.jsonFields) := by
  have hshape : (Shape.listOf .object).Admits c.toJson := by
    intro v hv
    obtain ⟨r, _, rfl⟩ := List.mem_map.1 hv
    exact trivial
  have hread := read_of_scan ht hshape (proper_toJson h) (depth_toJson c)
  refine map_eq_ok.2 ⟨c.toJson, hread, ?_⟩
  simp only [toJson, Value.items, List.map_map]
  rfl

/-! ## 2. Reading a rendered text -/

/-- **A rendered text holds the records** it was made of. -/
theorem parseRecords_render {f : Format} {text : String} (ht : c.render f = .ok text) :
    parseRecords text = .ok c := by
  unfold parseRecords
  rw [readObjects_of_scan h (scan_render ht)]
  exact ofObjects_jsonFields h

/-- **A rendered text is read as the catalog** it was made of. -/
theorem parse_render {f : Format} {text : String} (ht : c.render f = .ok text) :
    parse text = .ok c := by
  have hschema := ht
  rw [render_eq] at hschema
  obtain ⟨keys, hkeys, _⟩ := map_eq_ok.1 hschema
  exact bind_eq_ok.2 ⟨c, parseRecords_render h ht, bind_eq_ok.2 ⟨keys, hkeys, rfl⟩⟩

end List

/-- A consistent catalog has a text in every layout. -/
theorem exists_render {c : Catalog} (h : c.Consistent) (f : Format) :
    ∃ text, c.render f = .ok text := by
  obtain ⟨keys, hkeys⟩ := consistent_iff.1 h
  rw [render_eq]
  exact ⟨_, map_eq_ok.2 ⟨keys, hkeys, rfl⟩⟩

/-! ## 3. Both directions -/

/-- **Both layouts are undone by the one parser.** A text exists exactly when there is a schema, and
    without one every layout fails with the error of the schema; a text is read as the catalog
    itself, so it renders again to what the catalog renders to. -/
theorem render_round_trip (c : Catalog) (f : Format) (h : ∀ r ∈ c.records, r.Accepted) :
    ((∃ text, c.render f = .ok text) ↔ ∃ keys, c.schema = .ok keys) ∧
      (∀ e, c.schema = .error e →
        e.isInconsistentSchema = true ∧ ∀ g : Format, c.render g = .error e) ∧
      (∀ text, c.render f = .ok text →
        parse text = .ok c ∧
          ∀ g : Format, (parse text >>= fun c' => c'.render g) = c.render g) := by
  have hvalid : c.Valid := fun r hr => Record.accepted_iff_valid.1 (h r hr)
  refine ⟨?_, ?_, ?_⟩
  · rw [render_eq]
    constructor
    · intro h
      obtain ⟨text, ht⟩ := h
      obtain ⟨keys, hkeys, _⟩ := map_eq_ok.1 ht
      exact ⟨keys, hkeys⟩
    · intro h
      obtain ⟨keys, hkeys⟩ := h
      exact ⟨_, map_eq_ok.2 ⟨keys, hkeys, rfl⟩⟩
  · intro e he
    refine ⟨isInconsistentSchema_of_schema he, ?_⟩
    intro g
    rw [render_eq, he]
    rfl
  · intro text ht
    have hparse := parse_render hvalid ht
    refine ⟨hparse, ?_⟩
    intro g
    rw [hparse]
    rfl

/-- A record with a name beyond ASCII, a negative zero and an integer. -/
def exampleRecord : Record where
  id := "Zürich 🛰"
  fields :=
    [("type", .string "wind"), ("id", .string "Zürich 🛰"), ("lat", .number (.real (.zero true))),
      ("lon", .number (.integer ⟨8, by decide, by decide⟩)), ("note", .null)]

theorem exampleRecord_valid : exampleRecord.Valid := ⟨rfl, by decide, by decide⟩

/-- The round trip of two records in the aligned layout. -/
theorem render_round_trip_example : ∃ text,
    Catalog.render ⟨[exampleRecord, exampleRecord]⟩ .aligned = .ok text ∧
      parse text = .ok ⟨[exampleRecord, exampleRecord]⟩ := by
  have haccepted : ∀ r ∈ [exampleRecord, exampleRecord], r.Accepted := by
    intro r hr
    obtain rfl : r = exampleRecord := by simpa using hr
    exact Record.accepted_iff_valid.2 exampleRecord_valid
  obtain ⟨hiff, _, hparse⟩ :=
    render_round_trip ⟨[exampleRecord, exampleRecord]⟩ .aligned haccepted
  obtain ⟨text, ht⟩ := hiff.2 ⟨exampleRecord.keys, by decide⟩
  exact ⟨text, ht, (hparse text ht).1⟩

/-! ## 4. Verification -/

/-- **A rendered text passes its verification.** -/
theorem verify_render {c : Catalog} (h : c.Valid) {f : Format} {text : String}
    (ht : c.render f = .ok text) : verify text c = .ok () := by
  unfold verify
  rw [parseRecords_render h ht]
  simp only [ne_eq, not_true_eq_false, if_false,
    (firstDifference_eq_none rfl).2 c.sameLayouts_refl]

end RadarCatalog.Catalog
