import Mathlib.Data.List.Basic
import RadarCatalog.Proofs.Outcome
import RadarCatalog.Registry.Priority

/-!
# Selection by a nested search

A priority chooses in one pass over the candidates, with a rank for each category. The same choice
without ranks: go through the categories, the best first, and take the first candidate that has the
category.

* `rank_cons`: the ranks of a list with one category more in front;
* `best_ofList`: the pass finds what the nested search finds;
* `Chosen` says which candidate that is, and by its place which one of several equal ones;
* `best_is_chosen`: the pass finds the candidate that is to be chosen, and consults no other one.
-/

namespace RadarCatalog.Registry

variable {α : Type}

/-- The earliest candidate of the earliest category that a candidate has. -/
def firstRanked (categories : List String) (category : α → String) (items : List α) : Option α :=
  categories.findSome? fun c => items.find? fun item => category item = c

namespace Priority

/-! ## 1. Ranks -/

/-- The ranks that a list adds to others, its places counted from some place on. -/
theorem getElem?_foldl_insertIfNew (n : Nat) (category : String) :
    ∀ (categories : List String) (start : Nat) (ranks : Std.HashMap String Nat),
      ((categories.zipIdx start).foldl
          (fun ranks c => ranks.insertIfNew c.1 (n - c.2)) ranks)[category]? =
        ranks[category]?.or ((categories.idxOf? category).map fun i => n - (start + i))
  | [], start, ranks => by
    rw [List.zipIdx_nil, List.foldl_nil, List.idxOf?_nil, Option.map_none, Option.or_none]
  | c :: categories, start, ranks => by
    rw [List.zipIdx_cons, List.foldl_cons, getElem?_foldl_insertIfNew n category categories,
      Std.HashMap.getElem?_insertIfNew, List.idxOf?_cons]
    have hshift : ∀ i, n - (start + 1 + i) = n - (start + (i + 1)) := by
      intro i
      rw [Nat.add_assoc, Nat.add_comm 1 i]
    by_cases h : c = category
    · subst h
      cases hc : ranks[c]? with
      | none =>
        have hfree : ¬ c ∈ ranks := by
          rw [Std.HashMap.mem_iff_isSome_getElem?, hc]
          simp
        simp [hfree]
      | some k =>
        have htaken : c ∈ ranks := by
          rw [Std.HashMap.mem_iff_isSome_getElem?, hc]
          rfl
        simp [htaken]
    · simp [h, hshift, Function.comp_def]

theorem rank_ofList (categories : List String) (category : String) :
    (ofList categories).rank category =
      (categories.idxOf? category).map (categories.length - ·) := by
  rw [rank, ofList, getElem?_foldl_insertIfNew, Std.HashMap.getElem?_empty, Option.none_or]
  simp only [Nat.zero_add]

/-- A category in front has the highest rank and leaves the others theirs. -/
theorem rank_cons (c : String) (categories : List String) (category : String) :
    (ofList (c :: categories)).rank category =
      if c = category then some (categories.length + 1)
      else (ofList categories).rank category := by
  rw [rank_ofList, rank_ofList, List.idxOf?_cons]
  by_cases h : c = category
  · simp [h]
  · simp only [h, beq_iff_eq, if_false, Option.map_map]
    congr 1
    funext i
    simp

theorem rank_le {categories : List String} {category : String} {k : Nat}
    (h : (ofList categories).rank category = some k) : k ≤ categories.length := by
  rw [rank_ofList] at h
  obtain ⟨i, _, rfl⟩ := Option.map_eq_some_iff.1 h
  exact Nat.sub_le _ _

/-! ## 2. One pass -/

variable {category : α → String} {items : List α}

theorem keepBetter_congr {p q : Priority} {item : α}
    (h : p.rank (category item) = q.rank (category item)) (best : Option (Nat × α)) :
    p.keepBetter category best item = q.keepBetter category best item := by
  simp only [keepBetter, h]

theorem foldl_keepBetter_congr {p q : Priority} : ∀ {items : List α} {best : Option (Nat × α)},
    (∀ item ∈ items, p.rank (category item) = q.rank (category item)) →
      items.foldl (p.keepBetter category) best = items.foldl (q.keepBetter category) best
  | [], _, _ => rfl
  | item :: items, best, h => by
    rw [List.foldl_cons, List.foldl_cons, keepBetter_congr (h item List.mem_cons_self)]
    exact foldl_keepBetter_congr fun i hi => h i (List.mem_cons_of_mem _ hi)

/-- A candidate of the highest rank stays to the end. -/
theorem foldl_keepBetter_of_highest {p : Priority} {n : Nat} {x : α} : ∀ {items : List α},
    (∀ item ∈ items, ∀ k, p.rank (category item) = some k → k ≤ n) →
      items.foldl (p.keepBetter category) (some (n, x)) = some (n, x)
  | [], _ => rfl
  | item :: items, h => by
    have hkeep : p.keepBetter category (some (n, x)) item = some (n, x) := by
      unfold keepBetter
      cases hk : p.rank (category item) with
      | none => rfl
      | some k =>
        have hle := h item List.mem_cons_self k hk
        simp only [Nat.not_lt.2 hle, if_false]
    rw [List.foldl_cons, hkeep]
    exact foldl_keepBetter_of_highest fun i hi => h i (List.mem_cons_of_mem _ hi)

/-- The best so far is of no higher rank than the candidates. -/
theorem keepBetter_le {p : Priority} {n : Nat} {item : α} {best : Option (Nat × α)}
    (hbest : ∀ b ∈ best, b.1 ≤ n) (hitem : ∀ k, p.rank (category item) = some k → k ≤ n) :
    ∀ b ∈ p.keepBetter category best item, b.1 ≤ n := by
  intro b hb
  unfold keepBetter at hb
  cases hk : p.rank (category item) with
  | none =>
    rw [hk] at hb
    exact hbest b hb
  | some k =>
    have hle := hitem k hk
    rw [hk] at hb
    cases best with
    | none =>
      cases hb
      exact hle
    | some b' =>
      simp only at hb
      split at hb
      · cases hb
        exact hle
      · exact hbest b hb

/-- Where a candidate has the first category, the first such candidate is kept. -/
theorem foldl_keepBetter_first {c : String} {categories : List String} {x : α} :
    ∀ {items : List α} {best : Option (Nat × α)}, (∀ b ∈ best, b.1 ≤ categories.length) →
      (items.find? fun item => category item = c) = some x →
      items.foldl ((ofList (c :: categories)).keepBetter category) best =
        some (categories.length + 1, x)
  | [], _, _, hx => by cases hx
  | item :: items, best, hbest, hx => by
    have hrank := rank_cons c categories (category item)
    rw [List.find?_cons] at hx
    rw [List.foldl_cons]
    by_cases hc : category item = c
    · -- the best so far is of a later category
      have hkeep : (ofList (c :: categories)).keepBetter category best item =
          some (categories.length + 1, item) := by
        rw [if_pos hc.symm] at hrank
        unfold keepBetter
        rw [hrank]
        cases best with
        | none => rfl
        | some b =>
          have hlt : b.1 < categories.length + 1 := Nat.lt_succ_of_le (hbest b rfl)
          simp only [hlt, if_true]
      simp only [hc, decide_true, Option.some.injEq] at hx
      rw [hkeep, hx]
      exact foldl_keepBetter_of_highest fun _ _ _ hk => rank_le hk
    · simp only [hc, decide_false] at hx
      rw [if_neg (Ne.symm hc)] at hrank
      refine foldl_keepBetter_first (keepBetter_le hbest ?_) hx
      intro k hk
      rw [hrank] at hk
      exact rank_le hk

/-- **One pass with ranks chooses as the nested search does.** -/
theorem best_ofList (category : α → String) (items : List α) : ∀ categories : List String,
    (ofList categories).best category items = firstRanked categories category items
  | [] => by
    have hrank : ∀ c, (ofList []).rank c = none := fun c => by rw [rank_ofList]; rfl
    have hnone : ∀ items : List α, items.foldl ((ofList []).keepBetter category) none = none := by
      intro items
      induction items with
      | nil => rfl
      | cons item items ih =>
        have hkeep : (ofList []).keepBetter category none item = none := by
          unfold keepBetter
          rw [hrank]
        rw [List.foldl_cons, hkeep, ih]
    rw [best, hnone]
    rfl
  | c :: categories => by
    rw [firstRanked, List.findSome?_cons]
    cases hx : items.find? fun item => category item = c with
    | some x =>
      rw [best, foldl_keepBetter_first (fun b hb => by cases hb) hx]
      rfl
    | none =>
      have hranks : ∀ item ∈ items, (ofList (c :: categories)).rank (category item) =
          (ofList categories).rank (category item) := by
        intro item hitem
        have hne : category item ≠ c := by simpa using List.find?_eq_none.1 hx item hitem
        rw [rank_cons, if_neg (Ne.symm hne)]
      rw [best, foldl_keepBetter_congr hranks]
      exact best_ofList category items categories

/-! ## 3. Which candidate it is -/

end Priority

/-- The candidate at a place is the one to choose: its category is listed, none that is listed
    earlier occurs among the candidates, and no candidate in front of it has the same one. -/
structure Chosen (categories : List String) (category : α → String) (items : List α) (place : Nat)
    (item : α) : Prop where
  stands : items[place]? = some item
  listed : category item ∈ categories
  best : ∀ other ∈ items, category other ∈ categories →
    categories.idxOf (category item) ≤ categories.idxOf (category other)
  first : ∀ earlier other, earlier < place → items[earlier]? = some other →
    category other ≠ category item

section Choice

variable {categories : List String} {category : α → String} {items : List α}

/-- **There is one candidate to choose.** -/
theorem Chosen.unique {place place' : Nat} {item item' : α}
    (h : Chosen categories category items place item)
    (h' : Chosen categories category items place' item') : place = place' ∧ item = item' := by
  have hmem : item ∈ items := List.mem_of_getElem? h.stands
  have hmem' : item' ∈ items := List.mem_of_getElem? h'.stands
  have hidx : categories.idxOf (category item) = categories.idxOf (category item') :=
    Nat.le_antisymm (h.best item' hmem' h'.listed) (h'.best item hmem h.listed)
  have hcategory : category item = category item' := (List.idxOf_inj h.listed).1 hidx
  obtain rfl : place = place' := by
    rcases Nat.lt_trichotomy place place' with hlt | heq | hgt
    · exact absurd hcategory (h'.first place item hlt h.stands)
    · exact heq
    · exact absurd hcategory.symm (h.first place' item' hgt h'.stands)
  exact ⟨rfl, Option.some.inj (h.stands.symm.trans h'.stands)⟩

/-- What the nested search finds is to be chosen. -/
theorem exists_chosen_of_firstRanked {item : α}
    (h : firstRanked categories category items = some item) :
    ∃ place, Chosen categories category items place item := by
  obtain ⟨better, c, worse, rfl, hfind, hbetter⟩ := List.findSome?_eq_some_iff.1 h
  obtain ⟨hitem, place, hplace, hget, hearlier⟩ := List.find?_eq_some_iff_getElem.1 hfind
  obtain rfl : category item = c := by simpa using hitem
  -- a category in front of this one is that of no candidate
  have habsent : ∀ other ∈ items, category other ∉ better := by
    intro other hother hmem
    have hnone := List.find?_eq_none.1 (hbetter _ hmem) other hother
    simp at hnone
  refine ⟨place, ?_, List.mem_append_right _ List.mem_cons_self, ?_, ?_⟩
  · rw [List.getElem?_eq_getElem hplace, hget]
  · intro other hother _
    have hitem : item ∈ items := hget ▸ List.getElem_mem hplace
    rw [List.idxOf_append_of_notMem (habsent item hitem), List.idxOf_cons_self,
      List.idxOf_append_of_notMem (habsent other hother)]
    exact Nat.add_le_add_left (Nat.zero_le _) _
  · intro earlier other hlt hother
    obtain ⟨hbound, rfl⟩ := List.getElem?_eq_some_iff.1 hother
    simpa using hearlier earlier hlt

theorem firstRanked_eq_none_iff :
    firstRanked categories category items = none ↔ ∀ item ∈ items, category item ∉ categories := by
  simp only [firstRanked, List.findSome?_eq_none_iff, List.find?_eq_none, decide_eq_true_eq]
  constructor
  · intro h item hitem hlisted
    exact h _ hlisted item hitem rfl
  · rintro h c hc item hitem rfl
    exact h item hitem hc

theorem firstRanked_eq_some_iff {item : α} : firstRanked categories category items = some item ↔
    ∃ place, Chosen categories category items place item := by
  refine ⟨exists_chosen_of_firstRanked, ?_⟩
  intro h
  obtain ⟨place, h⟩ := h
  cases hfound : firstRanked categories category items with
  | none =>
    have hmem := List.mem_of_getElem? h.stands
    exact absurd h.listed (firstRanked_eq_none_iff.1 hfound item hmem)
  | some item' =>
    obtain ⟨place', h'⟩ := exists_chosen_of_firstRanked hfound
    rw [(h.unique h').2]

/-- A numbered candidate is to be chosen when the candidate at its number is. -/
theorem chosen_zipIdx_iff {place number : Nat} {item : α} :
    Chosen categories (fun c : α × Nat => category c.1) items.zipIdx place (item, number) ↔
      place = number ∧ Chosen categories category items place item := by
  have hget : ∀ (i : Nat) (c : α × Nat),
      items.zipIdx[i]? = some c ↔ items[i]? = some c.1 ∧ c.2 = i := by
    intro i c
    rw [List.getElem?_zipIdx, Nat.zero_add]
    cases items[i]? <;> simp [Prod.ext_iff, eq_comm]
  have hmem : ∀ c ∈ items.zipIdx, c.1 ∈ items := by
    intro c hc
    exact List.fst_mem_of_mem_zipIdx hc
  constructor
  · intro h
    obtain ⟨hstands, rfl⟩ := (hget _ _).1 h.stands
    refine ⟨rfl, hstands, h.listed, ?_, ?_⟩
    · intro other hother hlisted
      obtain ⟨i, hi⟩ := List.mem_iff_getElem?.1 hother
      exact h.best (other, i) (List.mem_of_getElem? ((hget i (other, i)).2 ⟨hi, rfl⟩)) hlisted
    · intro earlier other hlt hother
      exact h.first earlier (other, earlier) hlt ((hget _ _).2 ⟨hother, rfl⟩)
  · rintro ⟨rfl, h⟩
    refine ⟨(hget _ _).2 ⟨h.stands, rfl⟩, h.listed, ?_, ?_⟩
    · intro other hother
      exact h.best other.1 (hmem other hother)
    · intro earlier other hlt hother
      exact h.first earlier other.1 hlt ((hget _ _).1 hother).1

end Choice

/-- **The choice of a priority.** Of numbered candidates it is the one that is to be chosen, with
    its place; without numbers it is the same candidate. There is none exactly when no candidate has
    a listed category, and then nothing is drawn from any; otherwise what is drawn from the choice
    is all that is drawn, so that nothing else can fail. -/
theorem Priority.best_is_chosen (categories : List String) (category : α → String)
    (items : List α) :
    (∀ place item, (ofList categories).best (fun c : α × Nat => category c.1) items.zipIdx =
        some (item, place) ↔ Chosen categories category items place item) ∧
      (∀ item, (ofList categories).best category items = some item ↔
        ∃ place, Chosen categories category items place item) ∧
      ((ofList categories).best category items = none ↔
        ∀ item ∈ items, category item ∉ categories) ∧
      (∀ (m : Type → Type) [Monad m] (β : Type) (extract : α → m β),
        ((∀ item ∈ items, category item ∉ categories) →
          (ofList categories).bestWith category extract items = pure none) ∧
        ∀ place item, Chosen categories category items place item →
          (ofList categories).bestWith category extract items = some <$> extract item) ∧
      ∀ (ε β : Type) (extract : α → Except ε β) (e : ε),
        (ofList categories).bestWith category extract items = .error e ↔
          ∃ place item, Chosen categories category items place item ∧ extract item = .error e := by
  have hchosen : ∀ {place : Nat} {item : α}, Chosen categories category items place item →
      firstRanked categories category items = some item :=
    fun h => firstRanked_eq_some_iff.2 ⟨_, h⟩
  simp only [best_ofList, bestWith]
  refine ⟨?_, fun _ => firstRanked_eq_some_iff, firstRanked_eq_none_iff, ?_, ?_⟩
  · intro place item
    rw [firstRanked_eq_some_iff]
    simp only [chosen_zipIdx_iff, exists_eq_left]
  · intro m _ β extract
    constructor
    · intro hnone
      rw [firstRanked_eq_none_iff.2 hnone]
    · intro place item h
      rw [hchosen h]
  · intro ε β extract e
    cases hfound : firstRanked categories category items with
    | none =>
      refine ⟨nofun, ?_⟩
      rintro ⟨place, item, h, _⟩
      rw [hchosen h] at hfound
      cases hfound
    | some item =>
      obtain ⟨place, h⟩ := firstRanked_eq_some_iff.1 hfound
      have herror : (some <$> extract item) = .error e ↔ extract item = .error e := map_eq_error
      rw [herror]
      refine ⟨fun he => ⟨place, item, h, he⟩, ?_⟩
      rintro ⟨place', item', h', he⟩
      rwa [(h.unique h').2]

end RadarCatalog.Registry
