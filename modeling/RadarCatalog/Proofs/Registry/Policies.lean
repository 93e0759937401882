import Mathlib.Data.List.Nodup
import Mathlib.Data.List.TakeWhile
import RadarCatalog.Proofs.Registry.Selection
import RadarCatalog.Registry.Policy

/-!
# Accepted policies and their ranks

The check of a list goes through its entries and remembers those that it has seen. Said without a
memory: a list is sound when it is not empty, no entry is blank and none stands there twice; of any
other list the defect is that of its first defective entry.

* `SoundList` and `Defective` are these two descriptions, `defectOf_eq_none_iff` and
  `defectOf_eq_some_iff` say that the check decides by them;
* `check_eq_ok_iff`, `check_eq_error_iff`: a policy is accepted or refused for its identifiers in
  the first place;
* `ranked_of_nodup`: the ranks of a sound list go down by one from its length to one, and no two
  categories share one.
-/

namespace RadarCatalog.Registry

namespace Policy

/-! ## 1. Defective lists -/

/-- Nothing is left of the category when the blanks at its ends are taken off. -/
def IsBlank (category : String) : Prop := Text.trim category.toList = []

/-- What is asked of a list. -/
structure SoundList (categories : List String) : Prop where
  nonempty : categories ≠ []
  worded : ∀ category ∈ categories, ¬ IsBlank category
  nodup : categories.Nodup

/-- What is wrong with an entry behind some others: it is blank, or else it is one of them. -/
inductive Faulty (earlier : List String) (category : String) : Defect → Prop where
  | blank (blank : IsBlank category) : Faulty earlier category .blankCategory
  | repeated (worded : ¬ IsBlank category) (seen : category ∈ earlier) :
      Faulty earlier category (.repeated category)

/-- What is wrong with a list: it is empty, or an entry is at fault and none before it is. -/
inductive Defective (categories : List String) : Defect → Prop where
  | empty (empty : categories = []) : Defective categories .empty
  | entry {before after : List String} {category : String} {d : Defect}
      (split : categories = before ++ category :: after)
      (worded : ∀ earlier ∈ before, ¬ IsBlank earlier) (nodup : before.Nodup)
      (faulty : Faulty before category d) : Defective categories d

theorem trim_eq_nil_iff {cs : List Char} : Text.trim cs = [] ↔ cs.all Text.isBlank = true := by
  rw [Text.trim, List.reverse_eq_nil_iff, List.dropWhile_eq_nil_iff, List.all_eq_true]
  simp only [List.mem_reverse]
  constructor
  · intro h
    -- what is left at the front would start with a character that is not blank
    cases hrest : cs.dropWhile Text.isBlank with
    | nil => exact List.dropWhile_eq_nil_iff.1 hrest
    | cons c rest =>
      have hblank := h c (hrest ▸ List.mem_cons_self)
      have hhead := List.head?_dropWhile_not Text.isBlank cs
      rw [hrest] at hhead
      simp [hblank] at hhead
  · intro h c hc
    exact h c ((List.dropWhile_sublist _).mem hc)

theorem isBlankText_iff {category : String} :
    Text.isBlankText category = true ↔ IsBlank category := trim_eq_nil_iff.symm

section Entry

variable {earlier : List String} {category : String} {d : Defect}

/-- An entry is at fault, or it is neither blank nor a repetition. -/
theorem faulty_or_not (earlier : List String) (category : String) :
    (∃ d, Faulty earlier category d) ∨ ¬ IsBlank category ∧ category ∉ earlier := by
  by_cases hblank : IsBlank category
  · exact .inl ⟨_, .blank hblank⟩
  · by_cases hseen : category ∈ earlier
    · exact .inl ⟨_, .repeated hblank hseen⟩
    · exact .inr ⟨hblank, hseen⟩

theorem Faulty.not_fine (h : Faulty earlier category d) :
    ¬ (¬ IsBlank category ∧ category ∉ earlier) := by
  cases h with
  | blank blank => exact fun hfine => hfine.1 blank
  | repeated _ seen => exact fun hfine => hfine.2 seen

/-- What is wrong with an entry is a matter of which ones are before it. -/
theorem Faulty.mono {earlier' : List String} (h : Faulty earlier category d)
    (hsub : ∀ c ∈ earlier, c ∈ earlier') : Faulty earlier' category d := by
  cases h with
  | blank blank => exact .blank blank
  | repeated worded seen => exact .repeated worded (hsub _ seen)

end Entry

/-! ## 2. The check of a list -/

section List

variable {seen rest : List String} {category : String} {d : Defect}

/-- The check stops at an entry at fault. -/
theorem firstDefect_of_faulty (h : Faulty seen category d) :
    firstDefect seen (category :: rest) = some d := by
  cases h with
  | blank blank => rw [firstDefect, if_pos (isBlankText_iff.2 blank)]
  | repeated worded seen => rw [firstDefect, if_neg (mt isBlankText_iff.1 worded), if_pos seen]

/-- The check remembers any other entry and goes on. -/
theorem firstDefect_of_fine (h : ¬ IsBlank category ∧ category ∉ seen) :
    firstDefect seen (category :: rest) = firstDefect (category :: seen) rest := by
  rw [firstDefect, if_neg (mt isBlankText_iff.1 h.1), if_neg h.2]

end List

theorem firstDefect_eq_none_iff : ∀ {categories seen : List String},
    firstDefect seen categories = none ↔
      (∀ category ∈ categories, ¬ IsBlank category ∧ category ∉ seen) ∧ categories.Nodup
  | [], seen => by simp [firstDefect]
  | category :: rest, seen => by
    rw [List.forall_mem_cons, List.nodup_cons]
    rcases faulty_or_not seen category with ⟨d, hfaulty⟩ | hfine
    · rw [firstDefect_of_faulty hfaulty]
      exact ⟨nofun, fun h => absurd h.1.1 hfaulty.not_fine⟩
    · rw [firstDefect_of_fine hfine, firstDefect_eq_none_iff]
      simp only [List.mem_cons, not_or]
      constructor
      · intro ⟨hrest, hnodup⟩
        exact ⟨⟨hfine, fun c hc => ⟨(hrest c hc).1, (hrest c hc).2.2⟩⟩,
          fun hmem => (hrest category hmem).2.1 rfl, hnodup⟩
      · intro ⟨⟨_, hrest⟩, hnew, hnodup⟩
        refine ⟨?_, hnodup⟩
        intro c hc
        exact ⟨(hrest c hc).1, fun heq => hnew (heq ▸ hc), (hrest c hc).2⟩

/-- **The first defect** is that of an entry at fault, where nothing is wrong before it. By then the
    entries before it have been seen. -/
theorem firstDefect_eq_some_iff {d : Defect} : ∀ {categories seen : List String},
    firstDefect seen categories = some d ↔ ∃ before category after,
      categories = before ++ category :: after ∧ firstDefect seen before = none ∧
        Faulty (before.reverse ++ seen) category d
  | [], seen => by simp [firstDefect]
  | category :: rest, seen => by
    have ih := @firstDefect_eq_some_iff d rest (category :: seen)
    constructor
    · intro h
      rcases faulty_or_not seen category with ⟨d', hfaulty⟩ | hfine
      · rw [firstDefect_of_faulty hfaulty] at h
        cases h
        exact ⟨[], category, rest, rfl, rfl, hfaulty⟩
      · rw [firstDefect_of_fine hfine] at h
        obtain ⟨before, c, after, rfl, hbefore, hfaulty⟩ := ih.1 h
        refine ⟨category :: before, c, after, rfl, ?_, ?_⟩
        · rw [firstDefect_of_fine hfine, hbefore]
        · simpa only [List.reverse_cons, List.append_assoc, List.singleton_append] using hfaulty
    · intro ⟨before, c, after, hsplit, hbefore, hfaulty⟩
      cases before with
      | nil =>
        obtain ⟨rfl, rfl⟩ := List.cons.inj hsplit
        exact firstDefect_of_faulty hfaulty
      | cons b before =>
        obtain ⟨rfl, rfl⟩ := List.cons.inj hsplit
        have hfine := (firstDefect_eq_none_iff.1 hbefore).1 category List.mem_cons_self
        rw [firstDefect_of_fine hfine] at hbefore ⊢
        refine ih.2 ⟨before, c, after, rfl, hbefore, ?_⟩
        simpa only [List.reverse_cons, List.append_assoc, List.singleton_append] using hfaulty

theorem defectOf_eq_none_iff {categories : List String} :
    defectOf categories = none ↔ SoundList categories := by
  rw [defectOf]
  cases categories with
  | nil => exact ⟨nofun, fun h => absurd rfl h.nonempty⟩
  | cons category rest =>
    simp only [List.isEmpty_cons, Bool.false_eq_true, if_false, firstDefect_eq_none_iff,
      List.not_mem_nil, not_false_eq_true, and_true]
    exact ⟨fun h => ⟨List.cons_ne_nil _ _, h.1, h.2⟩, fun h => ⟨h.worded, h.nodup⟩⟩

/-- **The defect of a list** that is reported. -/
theorem defectOf_eq_some_iff {categories : List String} {d : Defect} :
    defectOf categories = some d ↔ Defective categories d := by
  rw [defectOf]
  split
  · rename_i hempty
    rw [List.isEmpty_iff] at hempty
    subst hempty
    constructor
    · intro h
      cases h
      exact .empty rfl
    · intro h
      cases h with
      | empty => rfl
      | entry split => simp at split
  · rename_i hnonempty
    rw [firstDefect_eq_some_iff]
    simp only [firstDefect_eq_none_iff, List.append_nil, List.not_mem_nil, not_false_eq_true,
      and_true]
    constructor
    · intro ⟨before, category, after, hsplit, ⟨hworded, hnodup⟩, hfaulty⟩
      exact .entry hsplit hworded hnodup (hfaulty.mono fun c hc => List.mem_reverse.1 hc)
    · intro h
      cases h with
      | empty empty =>
        subst empty
        exact absurd rfl hnonempty
      | entry split worded nodup faulty =>
        exact ⟨_, _, _, split, ⟨worded, nodup⟩, faulty.mono fun c hc => List.mem_reverse.2 hc⟩

/-! ## 3. The check of a policy -/

/-- One of the two lists of a policy. -/
def list (p : Policy) : Part → List String
  | .identifiers => p.identifiers
  | .elevations => p.elevations

theorem check_eq_ok_iff {p : Policy} : p.check = .ok () ↔ ∀ part, SoundList (p.list part) := by
  have hparts : (∀ part, SoundList (p.list part)) ↔
      SoundList p.identifiers ∧ SoundList p.elevations := by
    refine ⟨fun h => ⟨h .identifiers, h .elevations⟩, ?_⟩
    intro h part
    cases part with
    | identifiers => exact h.1
    | elevations => exact h.2
  rw [hparts, ← defectOf_eq_none_iff, ← defectOf_eq_none_iff, check, defect?]
  cases defectOf p.identifiers with
  | some d => simp
  | none => cases defectOf p.elevations <;> simp

/-- **A policy is refused** for its identifiers, or for its elevations when the identifiers are
    sound. -/
theorem check_eq_error_iff {p : Policy} {e : Error} : p.check = .error e ↔
    Defective (p.list e.part) e.defect ∧ (e.part = .elevations → SoundList p.identifiers) := by
  obtain ⟨part, d⟩ := e
  rw [← defectOf_eq_some_iff, ← defectOf_eq_none_iff, check, defect?]
  cases hidentifiers : defectOf p.identifiers with
  | some d' => cases part <;> simp [list, hidentifiers]
  | none =>
    cases helevations : defectOf p.elevations with
    | none => cases part <;> simp [list, hidentifiers, helevations]
    | some d' => cases part <;> simp [list, hidentifiers, helevations]

end Policy

/-! ## 4. The ranks of a sound list -/

/-- The ranks of a list go down by one from its length to one, no other string has one, and no two
    strings share one. -/
structure Ranked (categories : List String) (p : Priority) : Prop where
  inOrder : ∀ (place : Nat) (h : place < categories.length),
    p.rank categories[place] = some (categories.length - place)
  onto : ∀ k, 0 < k → k ≤ categories.length → ∃ category ∈ categories, p.rank category = some k
  only : ∀ category k, p.rank category = some k →
    category ∈ categories ∧ 0 < k ∧ k ≤ categories.length
  injective : ∀ category category' k, p.rank category = some k → p.rank category' = some k →
    category = category'

section Ranks

variable {categories : List String}

/-- A rank is that of a category at some place, counted from the end. -/
theorem exists_place_of_rank {category : String} {k : Nat}
    (h : (Priority.ofList categories).rank category = some k) :
    ∃ (place : Nat) (hlt : place < categories.length),
      categories[place] = category ∧ k = categories.length - place := by
  rw [Priority.rank_ofList, Option.map_eq_some_iff] at h
  obtain ⟨place, hplace, rfl⟩ := h
  obtain ⟨hlt, hget, _⟩ := List.idxOf?_eq_some_iff.1 hplace
  exact ⟨place, hlt, hget, rfl⟩

theorem rank_getElem (h : categories.Nodup) (place : Nat) (hlt : place < categories.length) :
    (Priority.ofList categories).rank categories[place] = some (categories.length - place) := by
  have hfirst : categories.idxOf? categories[place] = some place := by
    refine List.idxOf?_eq_some_iff.2 ⟨hlt, rfl, ?_⟩
    intro earlier hearlier hsame
    exact absurd ((h.getElem_inj_iff).1 hsame) (Nat.ne_of_lt hearlier)
  rw [Priority.rank_ofList, hfirst, Option.map_some]

/-- **The ranks of a list without repetitions** lead to its places and back. -/
theorem ranked_of_nodup (h : categories.Nodup) : Ranked categories (.ofList categories) where
  inOrder := rank_getElem h
  onto := by
    intro k hpos hle
    have hlt : categories.length - k < categories.length := by omega
    refine ⟨categories[categories.length - k], List.getElem_mem hlt, ?_⟩
    rw [rank_getElem h _ hlt, Nat.sub_sub_self hle]
  only := by
    intro category k hk
    obtain ⟨place, hlt, rfl, rfl⟩ := exists_place_of_rank hk
    exact ⟨List.getElem_mem hlt, Nat.sub_pos_of_lt hlt, Nat.sub_le _ _⟩
  injective := by
    intro category category' k hk hk'
    obtain ⟨place, hlt, rfl, rfl⟩ := exists_place_of_rank hk
    obtain ⟨place', hlt', rfl, hsame⟩ := exists_place_of_rank hk'
    obtain rfl : place = place' := by omega
    rfl

end Ranks

/-- **The check and the ranks fit together.** A policy is accepted exactly when both lists are
    sound. The error of any other policy is about its identifiers if they are not sound, and it is
    about the first entry at fault of a list that is not empty. A list without a defect is ranked in
    its order, so that two candidates of equal rank have one category. -/
theorem Policy.check_fits_ranks (p : Policy) :
    (p.check = .ok () ↔ ∀ part, SoundList (p.list part)) ∧
      (∀ e, p.check = .error e ↔
        Defective (p.list e.part) e.defect ∧ (e.part = .elevations → SoundList p.identifiers)) ∧
      ∀ categories, Policy.defectOf categories = none →
        Ranked categories (.ofList categories) :=
  ⟨check_eq_ok_iff, fun _ => check_eq_error_iff,
    fun _ h => ranked_of_nodup (defectOf_eq_none_iff.1 h).nodup⟩

end RadarCatalog.Registry
