import Mathlib.Data.List.Forall2

/-!
# Results that may be an error

What it means that a chain of steps is a success: each step of it is one. And what it means that it
fails: some step does, and all steps before that one are successes.
-/

namespace RadarCatalog

variable {ε δ α β : Type}

theorem bind_eq_ok {x : Except ε α} {f : α → Except ε β} {b : β} :
    (x >>= f) = .ok b ↔ ∃ a, x = .ok a ∧ f a = .ok b := by
  cases x with
  | error e => exact ⟨fun h => (by cases h), fun ⟨_, h, _⟩ => (by cases h)⟩
  | ok a =>
    refine ⟨fun h => ⟨a, rfl, h⟩, ?_⟩
    intro h
    obtain ⟨a', h, h'⟩ := h
    cases h
    exact h'

theorem map_eq_ok {x : Except ε α} {f : α → β} {b : β} :
    x.map f = .ok b ↔ ∃ a, x = .ok a ∧ f a = b := by
  cases x with
  | error e => exact ⟨fun h => (by cases h), fun ⟨_, h, _⟩ => (by cases h)⟩
  | ok a =>
    constructor
    · intro h
      cases h
      exact ⟨a, rfl, rfl⟩
    · intro h
      obtain ⟨a', h, rfl⟩ := h
      cases h
      rfl

theorem map_eq_error {x : Except ε α} {f : α → β} {e : ε} :
    x.map f = .error e ↔ x = .error e := by
  cases x with
  | error e' => exact ⟨fun h => (by cases h; rfl), fun h => (by cases h; rfl)⟩
  | ok a => exact ⟨nofun, nofun⟩

theorem bind_eq_error {x : Except ε α} {f : α → Except ε β} {e : ε} :
    (x >>= f) = .error e ↔ x = .error e ∨ ∃ a, x = .ok a ∧ f a = .error e := by
  cases x with
  | error e' =>
    constructor
    · intro h
      cases h
      exact .inl rfl
    · rintro (h | ⟨a, h, _⟩)
      · cases h
        rfl
      · cases h
  | ok a =>
    constructor
    · intro h
      exact .inr ⟨a, rfl, h⟩
    · rintro (h | ⟨a', h, h'⟩)
      · cases h
      · cases h
        exact h'

theorem mapError_eq_error {x : Except ε α} {f : ε → δ} {d : δ} :
    x.mapError f = .error d ↔ ∃ e, x = .error e ∧ d = f e := by
  cases x with
  | error e =>
    constructor
    · intro h
      cases h
      exact ⟨e, rfl, rfl⟩
    · rintro ⟨e', h, rfl⟩
      cases h
      rfl
  | ok a => exact ⟨nofun, fun ⟨_, h, _⟩ => (by cases h)⟩

theorem mapError_eq_ok {x : Except ε α} {f : ε → δ} {a : α} :
    x.mapError f = .ok a ↔ x = .ok a := by
  cases x with
  | error e => exact ⟨fun h => (by cases h), fun h => (by cases h)⟩
  | ok a' => exact ⟨fun h => (by cases h; rfl), fun h => (by cases h; rfl)⟩

theorem toOption_eq_some {x : Except ε α} {a : α} : x.toOption = some a ↔ x = .ok a := by
  cases x with
  | error e => exact ⟨fun h => (by cases h), fun h => (by cases h)⟩
  | ok a' => exact ⟨fun h => (by cases h; rfl), fun h => (by cases h; rfl)⟩

/-- **A run over a list** succeeds when each item does, with the results in order. -/
theorem mapM_eq_ok {f : α → Except ε β} : ∀ {as : List α} {bs : List β},
    as.mapM f = .ok bs ↔ List.Forall₂ (fun a b => f a = .ok b) as bs
  | [], bs => by
    rw [List.mapM_nil, List.forall₂_nil_left_iff]
    exact ⟨fun h => (by cases h; rfl), fun h => (by cases h; rfl)⟩
  | a :: as, bs => by
    rw [List.mapM_cons, bind_eq_ok, List.forall₂_cons_left_iff]
    constructor
    · intro h
      obtain ⟨b, hb, h⟩ := h
      obtain ⟨bs', hbs, h⟩ := bind_eq_ok.1 h
      cases h
      exact ⟨b, bs', hb, mapM_eq_ok.1 hbs, rfl⟩
    · intro h
      obtain ⟨b, bs', hb, hbs, rfl⟩ := h
      exact ⟨b, hb, bind_eq_ok.2 ⟨bs', mapM_eq_ok.2 hbs, rfl⟩⟩

theorem exists_mapM {f : α → Except ε β} : ∀ {as : List α},
    (∀ a ∈ as, ∃ b, f a = .ok b) → ∃ bs, as.mapM f = .ok bs
  | [], _ => ⟨[], rfl⟩
  | a :: as, h => by
    obtain ⟨b, hb⟩ := h a List.mem_cons_self
    obtain ⟨bs, hbs⟩ := exists_mapM fun a' ha' => h a' (List.mem_cons_of_mem _ ha')
    exact ⟨b :: bs, mapM_eq_ok.2 (.cons hb (mapM_eq_ok.1 hbs))⟩

theorem exists_of_forall₂ {R : α → β → Prop} {as : List α} {bs : List β}
    (h : List.Forall₂ R as bs) : ∀ a ∈ as, ∃ b, R a b := by
  induction h with
  | nil => exact nofun
  | cons hab _ ih => exact List.forall_mem_cons.2 ⟨⟨_, hab⟩, ih⟩

/-- What stands at one place of two lists. -/
theorem rel_getElem?_of_forall₂ {R : α → β → Prop} {as : List α} {bs : List β} {a : α} {b : β}
    {i : Nat} (h : List.Forall₂ R as bs) (ha : as[i]? = some a) (hb : bs[i]? = some b) : R a b := by
  obtain ⟨hia, rfl⟩ := List.getElem?_eq_some_iff.1 ha
  obtain ⟨hib, rfl⟩ := List.getElem?_eq_some_iff.1 hb
  exact h.get hia hib

/-- What stands beside an item of a list, and beside those before it. -/
theorem exists_split_of_forall₂ {R : α → β → Prop} {a : α} {as' : List α} :
    ∀ {as : List α} {bs : List β}, List.Forall₂ R (as ++ a :: as') bs →
      ∃ bs₁ b bs₂, bs = bs₁ ++ b :: bs₂ ∧ List.Forall₂ R as bs₁ ∧ R a b
  | [], _, h => by
    obtain ⟨b, bs₂, hb, _, rfl⟩ := List.forall₂_cons_left_iff.1 h
    exact ⟨[], b, bs₂, rfl, .nil, hb⟩
  | a₀ :: as, _, h => by
    obtain ⟨b₀, bs, hb₀, hrest, rfl⟩ := List.forall₂_cons_left_iff.1 h
    obtain ⟨bs₁, b, bs₂, rfl, hbs, hb⟩ := exists_split_of_forall₂ hrest
    exact ⟨b₀ :: bs₁, b, bs₂, rfl, .cons hb₀ hbs, hb⟩

/-- Numbering the items of such a run tells where one fails, and nothing else. -/
theorem mapM_zipIdx_eq_ok {f : α → Except ε β} {g : Nat → ε → δ} {as : List α} {bs : List β}
    {start : Nat} : (as.zipIdx start).mapM (fun a => (f a.1).mapError (g a.2)) = .ok bs ↔
      List.Forall₂ (fun a b => f a = .ok b) as bs := by
  simp only [mapM_eq_ok, mapError_eq_ok]
  induction as generalizing bs start with
  | nil => rw [List.zipIdx_nil, List.forall₂_nil_left_iff, List.forall₂_nil_left_iff]
  | cons a as ih =>
    rw [List.zipIdx_cons, List.forall₂_cons_left_iff, List.forall₂_cons_left_iff]
    simp only [ih]

/-- **A run over a list with numbered items** fails at the first item that does. -/
theorem mapM_zipIdx_eq_error {f : α → Except ε β} {g : Nat → ε → δ} {d : δ} :
    ∀ {as : List α} {start : Nat},
      (as.zipIdx start).mapM (fun a => (f a.1).mapError (g a.2)) = .error d ↔
        ∃ before a after e, as = before ++ a :: after ∧ (∀ b ∈ before, ∃ c, f b = .ok c) ∧
          f a = .error e ∧ d = g (start + before.length) e
  | [], start => by
    constructor
    · nofun
    · rintro ⟨before, a, after, e, h, _⟩
      exact absurd h (by simp)
  | a :: as, start => by
    rw [List.zipIdx_cons, List.mapM_cons, bind_eq_error]
    constructor
    · rintro (h | ⟨b, hb, h⟩)
      · obtain ⟨e, he, rfl⟩ := mapError_eq_error.1 h
        exact ⟨[], a, as, e, rfl, nofun, he, rfl⟩
      · rcases bind_eq_error.1 h with h | ⟨bs, _, h⟩
        · obtain ⟨before, a', after, e, rfl, hbefore, he, rfl⟩ := mapM_zipIdx_eq_error.1 h
          refine ⟨a :: before, a', after, e, rfl, ?_, he, ?_⟩
          · exact List.forall_mem_cons.2 ⟨⟨b, mapError_eq_ok.1 hb⟩, hbefore⟩
          · rw [List.length_cons, Nat.add_assoc, Nat.add_comm 1]
        · cases h
    · rintro ⟨before, a', after, e, h, hbefore, he, rfl⟩
      cases before with
      | nil =>
        obtain ⟨rfl, rfl⟩ := List.cons.inj h
        exact .inl (mapError_eq_error.2 ⟨e, he, rfl⟩)
      | cons a₀ before =>
        obtain ⟨rfl, rfl⟩ := List.cons.inj h
        obtain ⟨⟨b, hb⟩, hbefore⟩ := List.forall_mem_cons.1 hbefore
        refine .inr ⟨b, mapError_eq_ok.2 hb, bind_eq_error.2 (.inl ?_)⟩
        refine mapM_zipIdx_eq_error.2 ⟨before, a', after, e, rfl, hbefore, he, ?_⟩
        rw [List.length_cons, Nat.add_assoc, Nat.add_comm 1]

/-- Without numbers. -/
theorem mapM_eq_error {f : α → Except ε β} {as : List α} {e : ε} :
    as.mapM f = .error e ↔ ∃ before a after, as = before ++ a :: after ∧
      (∀ b ∈ before, ∃ c, f b = .ok c) ∧ f a = .error e := by
  have hnumbered : as.mapM f = as.zipIdx.mapM fun a => (f a.1).mapError fun e => e := by
    have hsame : ∀ a, (f a).mapError (fun e => e) = f a := by
      intro a
      cases f a with
      | error e => rfl
      | ok b => rfl
    simp only [hsame]
    conv_lhs => rw [← List.zipIdx_map_fst 0 as, List.mapM_map]
    rfl
  have hfirst := @mapM_zipIdx_eq_error ε ε α β f (fun _ e => e) e as 0
  rw [hnumbered, hfirst]
  constructor
  · rintro ⟨before, a, after, e', h, hbefore, he, rfl⟩
    exact ⟨before, a, after, h, hbefore, he⟩
  · rintro ⟨before, a, after, h, hbefore, he⟩
    exact ⟨before, a, after, e, h, hbefore, he, rfl⟩

end RadarCatalog
