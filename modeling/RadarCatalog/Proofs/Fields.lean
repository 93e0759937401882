import Mathlib.Data.List.Induction
import RadarCatalog.Fields

/-!
# More on ordered fields

* `put_absent` and `put_of_get?`: a new key goes to the end, and a value that stands there already
  changes nothing;
* `has_put`: a `put` never loses a key;
* `get?_dropLast`: a value under another key than the last is found without the last field;
* `eq_of_get?`: distinct keys and the values under them are all there is to fields;
* `get?_perm`: under distinct keys the same values are found in every order;
* `keys_map`, `get?_map`, `map_put`: a change of all values leaves the keys alone;
* `keys_joined`, `get?_joined`: fields that are put one after the other list the keys in the order of
  their first appearance, each with its last value.
-/

namespace RadarCatalog

/-- First appearances, when one more item comes at the end. -/
theorem eraseDups_concat (as : List String) (a : String) :
    (as ++ [a]).eraseDups = if a ∈ as then as.eraseDups else as.eraseDups ++ [a] := by
  by_cases ha : a ∈ as
  · have hremove : [a].removeAll as = [] := by simp [List.removeAll, ha]
    rw [List.eraseDups_append, hremove, List.eraseDups_nil, List.append_nil, if_pos ha]
  · have hremove : [a].removeAll as = [a] := by simp [List.removeAll, ha]
    rw [List.eraseDups_append, hremove, if_neg ha]
    rfl

namespace Fields

variable {α β : Type}

instance (fs : Fields α) : Decidable (Distinct fs) := inferInstanceAs (Decidable (keys fs).Nodup)

/-! ## 1. `put` -/

/-- A key that is not there yet goes to the end. -/
theorem put_absent {key : String} (value : α) : ∀ {fs : Fields α}, key ∉ keys fs →
    put key value fs = fs ++ [(key, value)]
  | [], _ => rfl
  | (k, v) :: fs, h => by
    have hk : ¬ k = key := fun e => h (e ▸ List.mem_cons_self)
    have hfs : key ∉ keys fs := fun m => h (List.mem_cons_of_mem _ m)
    simp only [put, hk, if_false, List.cons_append, put_absent value hfs]

/-- The value that a key has already. -/
theorem put_of_get? {key : String} {value : α} : ∀ {fs : Fields α}, get? fs key = some value →
    put key value fs = fs
  | [], h => by simp [get?] at h
  | (k, v) :: fs, h => by
    by_cases hk : k = key
    · simp only [get?, hk, if_true, Option.some.injEq] at h
      simp only [put, hk, if_true, h]
    · simp only [get?, hk, if_false] at h
      simp only [put, hk, if_false, put_of_get? h]

/-- In distinct keys, none stands further on as well. -/
theorem absent_of_distinct {key : String} {value : α} {fs gs : Fields α}
    (h : Distinct (fs ++ (key, value) :: gs)) : key ∉ keys fs := by
  intro hk
  rw [Distinct, keys, List.map_append, List.nodup_append] at h
  exact h.2.2 key hk key List.mem_cons_self rfl

/-- A value that is found stands among the fields. -/
theorem mem_of_get? {key : String} {value : α} : ∀ {fs : Fields α}, get? fs key = some value →
    (key, value) ∈ fs
  | [], h => by cases h
  | (k, v) :: fs, h => by
    by_cases hk : k = key
    · simp only [get?, hk, if_true, Option.some.injEq] at h
      rw [hk, h]
      exact List.mem_cons_self
    · simp only [get?, hk, if_false] at h
      exact List.mem_cons_of_mem _ (mem_of_get? h)

theorem mem_put {key : String} {value : α} {f : String × α} : ∀ {fs : Fields α},
    f ∈ put key value fs → f = (key, value) ∨ f ∈ fs
  | [], h => by
    rcases List.mem_singleton.1 h with rfl
    exact .inl rfl
  | (k, v) :: fs, h => by
    by_cases hk : k = key
    · simp only [put, hk, if_true, List.mem_cons] at h
      rcases h with rfl | h
      · exact .inl rfl
      · exact .inr (List.mem_cons_of_mem _ h)
    · simp only [put, hk, if_false, List.mem_cons] at h
      rcases h with rfl | h
      · exact .inr List.mem_cons_self
      · rcases mem_put h with h | h
        · exact .inl h
        · exact .inr (List.mem_cons_of_mem _ h)

theorem has_put (fs : Fields α) (key key' : String) (value : α) :
    has (put key value fs) key' = (decide (key = key') || has fs key') := by
  simp only [has, get?_put]
  by_cases h : key = key'
  · simp [h]
  · simp [h]

/-! ## 2. The last field -/

theorem get?_append (key : String) (gs : Fields α) : ∀ fs : Fields α,
    get? (fs ++ gs) key = (get? fs key).or (get? gs key)
  | [] => by simp only [List.nil_append, get?, Option.none_or]
  | (k, v) :: fs => by
    by_cases hk : k = key
    · simp only [List.cons_append, get?, hk, if_true, Option.some_or]
    · simp only [List.cons_append, get?, hk, if_false, get?_append key gs fs]

theorem get?_concat (f : String × α) (key : String) (fs : Fields α) :
    get? (fs ++ [f]) key = (get? fs key).or (if f.1 = key then some f.2 else none) :=
  get?_append key [f] fs

/-- The values under all keys but the last are found without it. -/
theorem get?_dropLast {fs : Fields α} {key : String} (h : (keys fs).getLast? ≠ some key) :
    get? fs.dropLast key = get? fs key := by
  rcases List.eq_nil_or_concat fs with rfl | ⟨gs, f, rfl⟩
  · rfl
  · have hlast : ¬ f.1 = key := by
      intro e
      exact h (by simp [keys, e])
    rw [List.concat_eq_append, List.dropLast_concat, get?_concat, if_neg hlast, Option.or_none]

/-! ## 3. Fields by their values -/

theorem get?_eq_none {key : String} {fs : Fields α} (h : key ∉ keys fs) : get? fs key = none := by
  rw [← has_iff_mem_keys, has, Bool.not_eq_true, Option.isSome_eq_false_iff,
    Option.isNone_iff_eq_none] at h
  exact h

/-- **Fields are their keys and the values under them**, when each key is listed once. -/
theorem eq_of_get? : ∀ {fs gs : Fields α}, Distinct fs → keys fs = keys gs →
    (∀ key, get? fs key = get? gs key) → fs = gs
  | [], [], _, _, _ => rfl
  | [], _ :: _, _, h, _ | _ :: _, [], _, h, _ => by cases h
  | (k, v) :: fs, (k', v') :: gs, hd, hkeys, hget => by
    obtain ⟨rfl, hrest⟩ : k = k' ∧ keys fs = keys gs := List.cons.inj hkeys
    obtain ⟨habsent, hdrest⟩ : k ∉ keys fs ∧ Distinct fs := List.nodup_cons.1 hd
    obtain rfl : v = v' := by simpa only [get?, if_true, Option.some.injEq] using hget k
    refine congrArg (List.cons (k, v)) (eq_of_get? hdrest hrest ?_)
    intro key
    -- the first key stands in neither rest; under any other key the rests are asked
    by_cases h : k = key
    · subst h
      rw [get?_eq_none habsent, get?_eq_none (hrest ▸ habsent)]
    · simpa only [get?, h, if_false] using hget key

theorem get?_of_mem {key : String} {value : α} : ∀ {fs : Fields α}, Distinct fs →
    (key, value) ∈ fs → get? fs key = some value
  | [], _, h => absurd h List.not_mem_nil
  | (k, v) :: fs, hd, h => by
    obtain ⟨habsent, hdrest⟩ : k ∉ keys fs ∧ Distinct fs := List.nodup_cons.1 hd
    rcases List.mem_cons.1 h with h | h
    · cases h
      simp only [get?, if_true]
    · have hk : ¬ k = key := by
        rintro rfl
        exact habsent (List.mem_map_of_mem (f := Prod.fst) h)
      simp only [get?, hk, if_false, get?_of_mem hdrest h]

theorem distinct_perm {fs gs : Fields α} (h : fs.Perm gs) : Distinct fs ↔ Distinct gs :=
  (h.map Prod.fst).nodup_iff

/-- **The order of fields** makes no difference to what stands under a key. -/
theorem get?_perm {fs gs : Fields α} (hd : Distinct fs) (h : fs.Perm gs) (key : String) :
    get? fs key = get? gs key := by
  apply Option.ext
  intro value
  constructor
  · intro hget
    exact get?_of_mem ((distinct_perm h).1 hd) (h.mem_iff.1 (mem_of_get? hget))
  · intro hget
    exact get?_of_mem hd (h.mem_iff.2 (mem_of_get? hget))

/-! ## 4. All values at once -/

theorem keys_map (f : α → β) (fs : Fields α) : keys (fs.map fun x => (x.1, f x.2)) = keys fs := by
  simp only [keys, List.map_map]
  rfl

theorem get?_map (f : α → β) (key : String) : ∀ fs : Fields α,
    get? (fs.map fun x => (x.1, f x.2)) key = (get? fs key).map f
  | [] => rfl
  | (k, v) :: fs => by
    by_cases hk : k = key
    · simp only [List.map_cons, get?, hk, if_true, Option.map_some]
    · simp only [List.map_cons, get?, hk, if_false, get?_map f key fs]

theorem map_put (f : α → β) (key : String) (value : α) : ∀ fs : Fields α,
    (put key value fs).map (fun x => (x.1, f x.2)) =
      put key (f value) (fs.map fun x => (x.1, f x.2))
  | [] => rfl
  | (k, v) :: fs => by
    by_cases hk : k = key
    · simp only [put, hk, if_true, List.map_cons]
    · simp only [put, hk, if_false, List.map_cons, map_put f key value fs]

theorem has_map (f : α → β) (fs : Fields α) (key : String) :
    has (fs.map fun x => (x.1, f x.2)) key = has fs key := by
  simp only [has, get?_map, Option.isSome_map]

/-! ## 5. Repeated keys -/

/-- Puts fields, one after the other, to some that are there. -/
def putAll (gs fs : Fields α) : Fields α := fs.foldl (fun gs f => put f.1 f.2 gs) gs

/-- The fields with each key once: a repeated key keeps its first place and takes the last value. -/
def joined (fs : Fields α) : Fields α := putAll [] fs

theorem joined_concat (fs : Fields α) (f : String × α) :
    joined (fs ++ [f]) = put f.1 f.2 (joined fs) := by
  rw [joined, putAll, List.foldl_append, List.foldl_cons, List.foldl_nil, ← putAll, ← joined]

/-- New keys go to the end, each in its turn. -/
theorem putAll_of_distinct : ∀ {fs gs : Fields α}, Distinct (gs ++ fs) → putAll gs fs = gs ++ fs
  | [], gs, _ => (List.append_nil gs).symm
  | (k, v) :: fs, gs, h => by
    have hmove : gs ++ (k, v) :: fs = gs ++ [(k, v)] ++ fs := by
      rw [List.append_assoc, List.singleton_append]
    rw [putAll, List.foldl_cons, put_absent v (absent_of_distinct h), ← putAll, hmove]
    rw [hmove] at h
    exact putAll_of_distinct h

theorem joined_of_distinct {fs : Fields α} (h : Distinct fs) : joined fs = fs :=
  putAll_of_distinct h

theorem distinct_joined (fs : Fields α) : Distinct (joined fs) := by
  induction fs using List.reverseRecOn with
  | nil => exact List.nodup_nil
  | append_singleton fs f ih =>
    rw [joined_concat]
    exact distinct_put ih f.1 f.2

/-- No field is new. -/
theorem mem_joined {f : String × α} (fs : Fields α) : f ∈ joined fs → f ∈ fs := by
  induction fs using List.reverseRecOn with
  | nil => exact id
  | append_singleton fs g ih =>
    rw [joined_concat]
    intro h
    rcases mem_put h with rfl | h
    · exact List.mem_append_right fs (List.mem_singleton_self _)
    · exact List.mem_append_left _ (ih h)

/-- **Under a repeated key** stands its last value. -/
theorem get?_joined (fs : Fields α) (key : String) : get? (joined fs) key = get? fs.reverse key := by
  induction fs using List.reverseRecOn with
  | nil => rfl
  | append_singleton fs f ih =>
    rw [joined_concat, get?_put, ih, List.reverse_append, List.reverse_singleton]
    rfl

/-- **A repeated key** keeps its first place. -/
theorem keys_joined (fs : Fields α) : keys (joined fs) = (keys fs).eraseDups := by
  induction fs using List.reverseRecOn with
  | nil => rfl
  | append_singleton fs f ih =>
    have hkeys : keys (fs ++ [f]) = keys fs ++ [f.1] := by simp only [keys, List.map_append,
      List.map_singleton]
    have hhas : has (joined fs) f.1 = true ↔ f.1 ∈ keys fs := by
      rw [has_iff_mem_keys, ih, List.mem_eraseDups]
    rw [joined_concat, keys_put, ih, hkeys, eraseDups_concat]
    exact if_congr hhas rfl rfl

example : joined [("a", 1), ("b", 2), ("a", 3)] = [("a", 3), ("b", 2)] := rfl

end Fields

end RadarCatalog
