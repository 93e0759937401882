import RadarCatalog.Text.Csv
import Std.Data.HashSet

/-!
# Allow-lists

The ids of the stations that a merge may move. An allow-list text has a header row, then rows of a
station id and the source of its updates; a row counts when it has just these two fields and the
source is the sentinel, letter for letter. `contains_ofList` says which stations are allowed.
-/

namespace RadarCatalog.Catalog

/-- A set of station ids. -/
structure AllowList where
  ids : Std.HashSet String

namespace AllowList

/-- The list that allows nothing. -/
def empty : AllowList := ⟨∅⟩

instance : Inhabited AllowList := ⟨empty⟩

/-- Allows one more station. -/
def insert (a : AllowList) (id : String) : AllowList := ⟨a.ids.insert id⟩

/-- The station is allowed. -/
def contains (a : AllowList) (id : String) : Bool := a.ids.contains id

/-- How many stations are allowed. -/
def size (a : AllowList) : Nat := a.ids.size

/-- The list that allows some stations. -/
def ofList (ids : List String) : AllowList := ids.foldl insert empty

theorem contains_insert (a : AllowList) (id other : String) :
    (a.insert id).contains other = (id == other || a.contains other) :=
  Std.HashSet.contains_insert

/-- The list that allows some stations allows these and no others. -/
theorem contains_ofList (ids : List String) (id : String) :
    (ofList ids).contains id = decide (id ∈ ids) := by
  suffices h : ∀ a : AllowList,
      (ids.foldl insert a).contains id = (decide (id ∈ ids) || a.contains id) by
    have he : empty.contains id = false := Std.HashSet.contains_empty
    rw [ofList, h, he, Bool.or_false]
  induction ids with
  | nil => simp
  | cons x ids ih =>
    intro a
    rw [List.foldl_cons, ih, contains_insert]
    by_cases e : x = id
    · subst e
      simp
    · simp [beq_false_of_ne e, Ne.symm e]

/-- The id that a row allows. -/
def allowedBy (sentinel : String) : List String → Option String
  | [id, source] => if source = sentinel then some id else none
  | _ => none

/-- The list of a text. -/
def parse (sentinel text : String) : AllowList :=
  ofList (((Csv.rows text).drop 1).filterMap (allowedBy sentinel))

end AllowList

end RadarCatalog.Catalog
