import Mathlib.Data.Finset.Card
import RadarCatalog.Proofs.Registry.Stations

/-!
# The first station of an id stays

Stations are filled by insertions, one after the other, and each insertion answers whether it took
the station. Both together are a map in which the first value of a key wins and the keys keep the
order in which they came.

* `insertEach` makes the insertions and lists the answers, `accepted` are the stations that were
  answered with yes;
* `getElem?_insertEach`: an answer depends on the stations before it alone;
* `toList_insertEach`: the entries are the accepted stations, in order;
* `FirstWins` is what is known of entries, index and answers after the insertions, and
  `firstWins_insertEach` that it holds of any insertions whatever.
-/

namespace RadarCatalog.Registry.Stations

/-! ## 1. Insertions with their answers -/

/-- Inserts stations in order, and lists what each insertion answers. -/
def insertEach (s : Stations) : List Station → List Bool × Stations
  | [] => ([], s)
  | station :: stations =>
    let (taken, s') := s.insert station
    let (answers, s'') := s'.insertEach stations
    (taken :: answers, s'')

/-- The stations that were answered with yes. -/
def accepted (stations : List Station) (answers : List Bool) : List Station :=
  ((stations.zip answers).filter Prod.snd).map Prod.fst

theorem accepted_cons (station : Station) (stations : List Station) (taken : Bool)
    (answers : List Bool) : accepted (station :: stations) (taken :: answers) =
      (if taken then [station] else []) ++ accepted stations answers := by
  cases taken <;> rfl

theorem insertEach_snd : ∀ (stations : List Station) (s : Stations),
    (s.insertEach stations).2 = s.insertAll stations
  | [], _ => rfl
  | station :: stations, s => insertEach_snd stations (s.insert station).2

theorem length_insertEach : ∀ (stations : List Station) (s : Stations),
    (s.insertEach stations).1.length = stations.length
  | [], _ => rfl
  | station :: stations, s => congrArg Nat.succ (length_insertEach stations (s.insert station).2)

/-- **An answer** is the one that the station gets from those before it. -/
theorem getElem?_insertEach : ∀ (stations : List Station) (s : Stations) (i : Nat),
    (s.insertEach stations).1[i]? =
      stations[i]?.map fun station => ((s.insertAll (stations.take i)).insert station).1
  | [], _, _ => rfl
  | _ :: _, _, 0 => rfl
  | station :: stations, s, i + 1 => getElem?_insertEach stations (s.insert station).2 i

/-- **The entries** are those that were there and the accepted ones behind them. -/
theorem toList_insertEach : ∀ (stations : List Station) (s : Stations),
    (s.insertEach stations).2.toList = s.toList ++ accepted stations (s.insertEach stations).1
  | [], s => (List.append_nil s.toList).symm
  | station :: stations, s => by
    have hrest := toList_insertEach stations (s.insert station).2
    show ((s.insert station).2.insertEach stations).2.toList =
      s.toList ++ accepted (station :: stations)
        ((s.insert station).1 :: ((s.insert station).2.insertEach stations).1)
    rw [hrest, accepted_cons, toList_insert, insert_fst]
    by_cases h : s.contains station.id = true
    · simp [h]
    · simp [h]

/-! ## 2. What an id is answered -/

/-- An id is taken after some insertions exactly when it was among them. -/
theorem contains_insertAll (stations : List Station) (id : String) :
    (empty.insertAll stations).contains id = true ↔ ∃ station ∈ stations, station.id = id := by
  rw [(coherent_insertAll stations).contains_iff, ids_insertAll, List.mem_eraseDups, List.mem_map]

/-- **A station is accepted** exactly when none before it has its id. -/
theorem accepted_iff {stations : List Station} {i : Nat} {station : Station}
    (h : stations[i]? = some station) : (empty.insertEach stations).1[i]? = some true ↔
      ∀ earlier ∈ stations.take i, earlier.id ≠ station.id := by
  have hcontains := contains_insertAll (stations.take i) station.id
  rw [getElem?_insertEach, h, Option.map_some, Option.some.injEq, insert_fst, Bool.not_eq_true',
    ← Bool.not_eq_true, hcontains]
  simp only [not_exists, not_and, ne_eq]

/-- **The number of entries** is that of the different ids. -/
theorem size_insertAll (stations : List Station) :
    (empty.insertAll stations).size = (stations.map Station.id).toFinset.card := by
  have hids : (empty.insertAll stations).ids.toFinset = (stations.map Station.id).toFinset := by
    ext id
    rw [ids_insertAll, List.mem_toFinset, List.mem_toFinset, List.mem_eraseDups]
  rw [← hids, List.toFinset_card_of_nodup (coherent_insertAll stations).nodup_ids, ids, toList,
    List.length_map, Array.length_toList, size]

/-- An insertion that is refused changes nothing. -/
theorem insert_of_refused {s : Stations} {station : Station} (h : (s.insert station).1 = false) :
    (s.insert station).2 = s := by
  rw [insert_fst, Bool.not_eq_false'] at h
  rw [insert, if_pos h]

/-! ## 3. The map -/

/-- What is known after some insertions that had these answers. -/
structure FirstWins (stations : List Station) (answers : List Bool) (s : Stations) : Prop where
  index : ∀ (id : String) (i : Nat),
    s.index[id]? = some i ↔ ∃ station, s.entries[i]? = some station ∧ station.id = id
  distinct : s.ids.Nodup
  order : s.ids = (stations.map Station.id).eraseDups
  answered : answers.length = stations.length
  first : ∀ (i : Nat) (station : Station), stations[i]? = some station →
    (answers[i]? = some true ↔ ∀ earlier ∈ stations.take i, earlier.id ≠ station.id)
  entries : s.toList = accepted stations answers
  get : ∀ id, s.get? id = stations.find? fun station => station.id = id
  contains : ∀ id, s.contains id = (s.get? id).isSome
  size : s.size = (stations.map Station.id).toFinset.card
  refused : ∀ station, (s.insert station).1 = false ↔ ∃ earlier ∈ stations, earlier.id = station.id
  unchanged : ∀ station, (s.insert station).1 = false → (s.insert station).2 = s

/-- **The first station of an id stays.** Whatever stations are inserted, the index leads to the
    positions of the entries, the entries are the stations whose ids were new, in their order, and
    each id is answered with the first station that has it. -/
theorem firstWins_insertEach (stations : List Station) :
    FirstWins stations (empty.insertEach stations).1 (empty.insertEach stations).2 := by
  have hcoherent := coherent_insertAll stations
  have hentries := toList_insertEach stations empty
  rw [insertEach_snd] at hentries ⊢
  exact
    { index := hcoherent.index
      distinct := hcoherent.nodup_ids
      order := ids_insertAll stations
      answered := length_insertEach stations empty
      first := fun _ _ => accepted_iff
      entries := hentries
      get := get?_insertAll stations
      contains := by
        intro id
        rw [Bool.eq_iff_iff, contains_insertAll, get?_insertAll, List.find?_isSome]
        simp only [decide_eq_true_eq]
      size := size_insertAll stations
      refused := by
        intro station
        rw [insert_fst, Bool.not_eq_false', contains_insertAll]
      unchanged := fun _ => insert_of_refused }

end RadarCatalog.Registry.Stations
