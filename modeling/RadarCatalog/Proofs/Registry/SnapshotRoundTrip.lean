import RadarCatalog.Proofs.Json.ReadValues
import RadarCatalog.Proofs.Outcome
import RadarCatalog.Registry.Snapshot

/-!
# A snapshot is read back

Station values are arbitrary JSON, kept as they were sent. Whatever way they came in, from a snapshot
or in responses of the registry, they list each key once and are no deeper than the reader allows, so
the text of a snapshot is read as the very values that it was made of.

* `Storable` are these two conditions, `Obtained` are the ways in which values come in;
* `readSnapshot_snapshotText`: a text of storable values is read back;
* `Obtained.storable`: all values that come in are storable.
-/

namespace RadarCatalog.Registry

open RadarCatalog.Json

/-! ## 1. Writing and reading -/

/-- The text of a snapshot is the tokens of its list. -/
theorem scan_snapshotText (stations : List Value) :
    Token.scan (snapshotText stations).toList = (Value.list stations).tokens := by
  have hread := reads_pretty spelling_plain 4 (Value.list stations)
  rw [List.flatMap_singleton'] at hread
  have hall := hread.append_emits (Emits.single '\n' [] rfl) (ends_cons (by decide))
    (List.cons_ne_nil _ _)
  rw [List.append_nil] at hall
  rw [snapshotText, String.toList_ofList]
  exact hall.reads.scan

/-- Values that a reader of their text gives back: no key twice in an object, and no container too
    deep. -/
structure Storable (stations : List Value) : Prop where
  proper : (Value.list stations).Proper
  depth : (Value.list stations).depth ≤ maxDepth

/-- **A snapshot of storable values is read back.** -/
theorem readSnapshot_snapshotText {stations : List Value} (h : Storable stations) :
    readSnapshot (snapshotText stations) = .ok stations := by
  have hshape : (Shape.listOf .any).Admits (.list stations) := fun _ _ => trivial
  have hread := read_of_scan (scan_snapshotText stations) hshape h.proper h.depth
  exact map_eq_ok.2 ⟨_, hread, rfl⟩

/-! ## 2. Storable values -/

theorem storable_nil : Storable [] where
  proper := by simp only [Value.Proper, properItems]
  depth := by simp only [Value.depth, depthItems, maxDepth]; omega

theorem storable_items {v : Value} (hp : v.Proper) (hd : v.depth ≤ maxDepth) :
    Storable v.items := by
  cases v with
  | scalar s => exact storable_nil
  | list vs => exact ⟨hp, hd⟩
  | object fs => exact storable_nil

theorem Storable.append {first second : List Value} (h : Storable first) (h' : Storable second) :
    Storable (first ++ second) where
  proper := by
    have hp := h.proper
    have hp' := h'.proper
    simp only [Value.Proper, properItems_iff] at hp hp' ⊢
    intro v hv
    rcases List.mem_append.1 hv with hv | hv
    · exact hp v hv
    · exact hp' v hv
  depth := by
    have hd := h.depth
    have hd' := h'.depth
    have hitems : depthItems (first ++ second) ≤ max (depthItems first) (depthItems second) := by
      rw [depthItems_le]
      intro v hv
      rcases List.mem_append.1 hv with hv | hv
      · exact le_max_of_le_left ((depthItems_le first).1 (Nat.le_refl _) v hv)
      · exact le_max_of_le_right ((depthItems_le second).1 (Nat.le_refl _) v hv)
    simp only [Value.depth] at hd hd' ⊢
    omega

/-- A value under a key is as proper as the object, and less deep. -/
theorem proper_of_get? {fs : Fields Value} {key : String} {v : Value}
    (h : Fields.get? fs key = some v) (hp : (Value.object fs).Proper) : v.Proper := by
  simp only [Value.Proper, properMembers_iff] at hp
  exact hp.2 _ (Fields.mem_of_get? h)

theorem depth_of_get? {fs : Fields Value} {key : String} {v : Value} {n : Nat}
    (h : Fields.get? fs key = some v) (hd : (Value.object fs).depth ≤ n) : v.depth ≤ n := by
  have hv : v.depth ≤ depthMembers fs :=
    (depthMembers_le fs).1 (Nat.le_refl _) _ (Fields.mem_of_get? h)
  simp only [Value.depth] at hd
  omega

/-- The stations of a response stand under two keys. -/
theorem storable_of_response {body : Value} {stations : List Value}
    (h : stationsOfResponse body = .ok stations) (hp : body.Proper) (hd : body.depth ≤ maxDepth) :
    Storable stations := by
  unfold stationsOfResponse at h
  split at h
  · rename_i root
    split at h
    · rename_i collection hcollection
      have hp := proper_of_get? hcollection hp
      have hd := depth_of_get? hcollection hd
      split at h
      · rename_i found hfound
        cases h
        exact ⟨proper_of_get? hfound hp, depth_of_get? hfound hd⟩
      · cases h
        exact storable_nil
      · cases h
        exact storable_nil
      · cases h
    · cases h
  · cases h

/-! ## 3. Values that come in -/

/-- How station values come in: from a snapshot, in a response, or in several one after the
    other. -/
inductive Obtained : List Value → Prop where
  | snapshot {text : String} {stations : List Value} (read : readSnapshot text = .ok stations) :
      Obtained stations
  | response {text : String} {body : Value} {stations : List Value}
      (read : Json.read .any text = .ok body) (found : stationsOfResponse body = .ok stations) :
      Obtained stations
  | append {first second : List Value} (one : Obtained first) (other : Obtained second) :
      Obtained (first ++ second)

/-- **All values that come in are storable.** -/
theorem Obtained.storable {stations : List Value} (h : Obtained stations) : Storable stations := by
  induction h with
  | snapshot read =>
    obtain ⟨v, hv, rfl⟩ := map_eq_ok.1 read
    exact storable_items (read_proper hv) (read_depth hv)
  | response read found => exact storable_of_response found (read_proper read) (read_depth read)
  | append one other ih ih' => exact ih.append ih'

end RadarCatalog.Registry
