/-!
# Ordered fields

A list of keys with values, in the order of their first appearance. `put` keeps the place of a key
that is there and appends one that is not, so fields built by `put` list each key once.

* `get?_put` and `keys_put` say what a `put` does to the values and to the key order;
* `Distinct` is the property that each key is listed once.
-/

namespace RadarCatalog

/-- Keys with their values, in order. -/
abbrev Fields (α : Type) := List (String × α)

namespace Fields

variable {α β : Type}

/-! ## 1. Operations -/

/-- The value of the first field with the key. -/
def get? : Fields α → String → Option α
  | [], _ => none
  | (k, v) :: fs, key => if k = key then some v else get? fs key

/-- Some field has the key. -/
def has (fs : Fields α) (key : String) : Bool := (get? fs key).isSome

/-- The keys in order. -/
def keys (fs : Fields α) : List String := fs.map Prod.fst

/-- The values in order. -/
def values (fs : Fields α) : List α := fs.map Prod.snd

/-- Gives the key the value: in its place when it is there, at the end when it is not. -/
def put (key : String) (value : α) : Fields α → Fields α
  | [] => [(key, value)]
  | (k, v) :: fs => if k = key then (k, value) :: fs else (k, v) :: put key value fs

/-- Each key is listed once. -/
def Distinct (fs : Fields α) : Prop := (keys fs).Nodup

/-! ## 2. What `put` does -/

theorem get?_put (fs : Fields α) (key key' : String) (value : α) :
    get? (put key value fs) key' = if key = key' then some value else get? fs key' := by
  induction fs with
  | nil => simp [put, get?]
  | cons f fs ih =>
    obtain ⟨k, v⟩ := f
    by_cases h : k = key
    · subst h
      by_cases h' : k = key' <;> simp [put, get?, h']
    · by_cases h' : k = key'
      · subst h'
        simp [put, get?, h, Ne.symm h]
      · simp [put, get?, h, h', ih]

/-- The key order after a `put`: unchanged, or with the new key at the end. -/
theorem keys_put (fs : Fields α) (key : String) (value : α) :
    keys (put key value fs) = if has fs key then keys fs else keys fs ++ [key] := by
  induction fs with
  | nil => simp [put, keys, has, get?]
  | cons f fs ih =>
    obtain ⟨k, v⟩ := f
    by_cases h : k = key
    · simp [put, keys, has, get?, h]
    · simp only [keys, has] at ih
      simp only [put, keys, has, get?, h, if_false, List.map_cons, ih]
      split <;> simp_all

theorem has_iff_mem_keys (fs : Fields α) (key : String) : has fs key = true ↔ key ∈ keys fs := by
  induction fs with
  | nil => simp [has, get?, keys]
  | cons f fs ih =>
    obtain ⟨k, v⟩ := f
    by_cases h : k = key
    · simp [has, get?, keys, h]
    · have h' : ¬ key = k := fun e => h e.symm
      simpa [has, get?, keys, h, h'] using ih

/-- `put` keeps the keys distinct. -/
theorem distinct_put {fs : Fields α} (h : Distinct fs) (key : String) (value : α) :
    Distinct (put key value fs) := by
  unfold Distinct at *
  rw [keys_put]
  split
  · exact h
  · rename_i hk
    have hm : key ∉ keys fs := fun m => hk ((has_iff_mem_keys fs key).2 m)
    rw [List.nodup_append]
    refine ⟨h, by simp, ?_⟩
    intro a ha b hb
    rw [List.mem_singleton] at hb
    subst hb
    exact fun e => hm (e ▸ ha)

end Fields

end RadarCatalog
