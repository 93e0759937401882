import Mathlib.Data.Set.Card
import RadarCatalog.Catalog.AllowList
import RadarCatalog.Proofs.Text.CsvRows

/-!
# The stations that an allow-list text allows

Whatever way an allow-list is written, it allows the first fields of the rows behind the header that
have two fields, of which the second is the sentinel.
-/

namespace RadarCatalog.Catalog.AllowList

open RadarCatalog.Csv

/-- The size counts the stations that are allowed. -/
theorem size_eq_ncard (a : AllowList) : a.size = {id | a.contains id = true}.ncard := by
  have hmem : {id | a.contains id = true} = (a.ids.toList.toFinset : Set String) := by
    ext id
    rw [Set.mem_ofPred_eq, Finset.mem_coe, List.mem_toFinset, Std.HashSet.mem_toList, contains,
      Std.HashSet.contains_iff_mem]
  have hnodup : a.ids.toList.Nodup :=
    (Std.HashSet.distinct_toList (m := a.ids)).imp fun h => by simpa using h
  rw [hmem, Set.ncard_coe_finset, List.toFinset_card_of_nodup hnodup, Std.HashSet.length_toList]
  rfl

theorem allowedBy_eq_some {sentinel id : String} {row : List String} :
    allowedBy sentinel row = some id ↔ row = [id, sentinel] := by
  unfold allowedBy
  split
  · rename_i id' source
    split
    · rename_i hsource
      simp [hsource]
    · rename_i hsource
      simp [hsource]
  · rename_i hrow
    refine ⟨nofun, ?_⟩
    rintro rfl
    exact absurd rfl (hrow _ _)

/-- **A text allows the stations of its rows** behind the header that have the sentinel. -/
theorem contains_parse {sentinel text id : String} :
    (parse sentinel text).contains id = true ↔ [id, sentinel] ∈ (rows text).drop 1 := by
  simp only [parse, contains_ofList, decide_eq_true_eq, List.mem_filterMap, allowedBy_eq_some]
  exact ⟨fun ⟨_, hmem, hrow⟩ => hrow ▸ hmem, fun hmem => ⟨_, hmem, rfl⟩⟩

/-- **An allow-list allows the stations that it was written for.** However the header and the rows
    are written, a station is allowed exactly if some row behind the header is the station and the
    sentinel, and the size is the number of such stations. -/
theorem parse_of_tableText {header : List String} {table : List (List String)} {cs : List Char}
    {text : String} (sentinel : String) (h : TableText (header :: table) cs)
    (hmark : ∀ field ∈ header, mark ∉ field.toList)
    (htext : text.toList = cs ∨ text.toList = mark :: cs) :
    (∀ id, (parse sentinel text).contains id = true ↔ [id, sentinel] ∈ table) ∧
      (parse sentinel text).size = {id | [id, sentinel] ∈ table}.ncard := by
  have hrows : rows text = header :: table := by
    refine rows_of_tableText h ?_ htext
    rintro fields ⟨⟩
    exact hmark
  have hcontains : ∀ id, (parse sentinel text).contains id = true ↔ [id, sentinel] ∈ table := by
    intro id
    rw [contains_parse, hrows, List.drop_one, List.tail_cons]
  refine ⟨hcontains, ?_⟩
  rw [size_eq_ncard]
  simp only [hcontains]

/-- A mark, an empty line, fields with quotes and without, the three row ends, and rows of other
    lengths. -/
theorem parse_of_tableText_example :
    (parse "H" "\uFEFF\nid,by\r\n\"a,\"\"b\",H\r\"\"\n").contains "a,\"b" = true ∧
      (parse "H" "\uFEFF\nid,by\r\n\"a,\"\"b\",H\r\"\"\n").size = 1 := by
  have htable : TableText (["id", "by"] :: [["a,\"b", "H"], [""]])
      (['\n'] ++ (("id".toList ++ ',' :: "by".toList) ++ (['\r', '\n'] ++
        (('"' :: (doubled "a,\"b".toList ++ ['"']) ++ ',' :: "H".toList) ++ (['\r'] ++
          (('"' :: (doubled "".toList ++ ['"'])) ++ (['\n'] ++ []))))))) :=
    .blank .feed (.row (.cons (.bare (by decide)) (.last (.bare (by decide)))) (by decide) .both
      (.row (.cons .quoted (.last (.bare (by decide)))) (by decide) .carriageReturn
        (.row (.last .quoted) (by decide) .feed .nil)))
  obtain ⟨hcontains, hsize⟩ := @parse_of_tableText ["id", "by"] _ _
    "\uFEFF\nid,by\r\n\"a,\"\"b\",H\r\"\"\n" "H" htable (by decide) (.inr (by decide))
  refine ⟨(hcontains _).2 (by decide), ?_⟩
  rw [hsize, Set.ncard_eq_one]
  exact ⟨"a,\"b", by ext id; simp⟩

end RadarCatalog.Catalog.AllowList
