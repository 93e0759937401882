import RadarCatalog.Json.Reader
import RadarCatalog.Proofs.Fields
import RadarCatalog.Proofs.Json.Values

/-!
# Reading back the tokens of a value

The reader over the tokens of a value, wherever the value stands: it hands the value to the
container around it and goes on with what follows. Two conditions are on the value:

* `Shape.Admits`: it is of a kind that is wanted;
* `Value.depth`: its containers find room inside those that are open.

What it hands on is `Value.joined`, where the fields of an object with one key are joined. A value
that is `Proper` has no such fields, and is read as it is.

`read_of_scan` is the result for a text that scans as the tokens of such a value.
-/

namespace RadarCatalog.Json

/-! ## 1. The conditions on a value -/

/-- The value is of a kind that is wanted. -/
def Shape.Admits : Shape → Value → Prop
  | .any, _ => True
  | .object, .object _ => True
  | .listOf item, .list vs => ∀ v ∈ vs, item.Admits v
  | _, _ => False

/-- A list of objects. -/
theorem Shape.admits_objects {v : Value} :
    (Shape.listOf .object).Admits v ↔ ∃ objects : List (Fields Value),
      v = .list (objects.map .object) := by
  constructor
  · intro h
    cases v with
    | scalar s => exact h.elim
    | object fs => exact h.elim
    | list vs =>
      have hobject : ∀ v ∈ vs, (Value.object ∘ Value.fields) v = id v := by
        intro v hv
        have hadmits : Shape.object.Admits v := h v hv
        cases v with
        | scalar s => exact hadmits.elim
        | list ws => exact hadmits.elim
        | object fs => rfl
      refine ⟨vs.map Value.fields, ?_⟩
      rw [List.map_map, List.map_congr_left hobject, List.map_id]
  · rintro ⟨objects, rfl⟩
    exact List.forall_mem_map.2 fun _ _ => trivial

mutual

/-- Every object in the value lists each key once. -/
def Value.Proper : Value → Prop
  | .scalar _ => True
  | .list vs => properItems vs
  | .object fs => Fields.Distinct fs ∧ properMembers fs

def properItems : List Value → Prop
  | [] => True
  | v :: vs => v.Proper ∧ properItems vs

def properMembers : List (String × Value) → Prop
  | [] => True
  | (_, v) :: fs => v.Proper ∧ properMembers fs

end

mutual

/-- How many containers stand inside each other. -/
def Value.depth : Value → Nat
  | .scalar _ => 0
  | .list vs => depthItems vs + 1
  | .object fs => depthMembers fs + 1

def depthItems : List Value → Nat
  | [] => 0
  | v :: vs => max v.depth (depthItems vs)

def depthMembers : List (String × Value) → Nat
  | [] => 0
  | (_, v) :: fs => max v.depth (depthMembers fs)

end

mutual

/-- The value as it is read: in every object a repeated key keeps its first place and takes the last
    value. -/
def Value.joined : Value → Value
  | .scalar s => .scalar s
  | .list vs => .list (joinedItems vs)
  | .object fs => .object (Fields.joined (joinedMembers fs))

def joinedItems : List Value → List Value
  | [] => []
  | v :: vs => v.joined :: joinedItems vs

def joinedMembers : List (String × Value) → List (String × Value)
  | [] => []
  | (k, v) :: fs => (k, v.joined) :: joinedMembers fs

end

mutual

theorem joined_of_proper : ∀ {v : Value}, v.Proper → v.joined = v
  | .scalar s, _ => by rw [Value.joined]
  | .list vs, h => by
    simp only [Value.Proper] at h
    rw [Value.joined, joinedItems_of_proper h]
  | .object fs, h => by
    simp only [Value.Proper] at h
    rw [Value.joined, joinedMembers_of_proper h.2, Fields.joined_of_distinct h.1]

theorem joinedItems_of_proper : ∀ {vs : List Value}, properItems vs → joinedItems vs = vs
  | [], _ => by rw [joinedItems]
  | v :: vs, h => by
    simp only [properItems] at h
    rw [joinedItems, joined_of_proper h.1, joinedItems_of_proper h.2]

theorem joinedMembers_of_proper : ∀ {fs : List (String × Value)}, properMembers fs →
    joinedMembers fs = fs
  | [], _ => by rw [joinedMembers]
  | (k, v) :: fs, h => by
    simp only [properMembers] at h
    rw [joinedMembers, joined_of_proper h.1, joinedMembers_of_proper h.2]

end

theorem properItems_iff : ∀ vs : List Value, properItems vs ↔ ∀ v ∈ vs, v.Proper
  | [] => by simp [properItems]
  | v :: vs => by simp [properItems, properItems_iff vs]

theorem depthItems_le {n : Nat} : ∀ vs : List Value, depthItems vs ≤ n ↔ ∀ v ∈ vs, v.depth ≤ n
  | [] => by simp [depthItems]
  | v :: vs => by simp [depthItems, depthItems_le vs]

theorem properMembers_iff : ∀ fs : List (String × Value),
    properMembers fs ↔ ∀ f ∈ fs, f.2.Proper
  | [] => by simp [properMembers]
  | (k, v) :: fs => by simp [properMembers, properMembers_iff fs]

theorem depthMembers_le {n : Nat} : ∀ fs : List (String × Value),
    depthMembers fs ≤ n ↔ ∀ f ∈ fs, f.2.depth ≤ n
  | [] => by simp [depthMembers]
  | (k, v) :: fs => by simp [depthMembers, depthMembers_le fs]

/-! ## 2. Single steps -/

/-- The run from a mode with its stack. -/
def resume (at' : Mode × List Frame) (ts : List Token) : Except Error Value :=
  readTokens at'.1 at'.2 ts

theorem readTokens_cons {mode : Mode} {stack : List Frame} {t : Token} {ts : List Token}
    {next : Mode × List Frame} (h : mode.step stack t = .ok next) :
    readTokens mode stack (t :: ts) = resume next ts := by
  simp only [readTokens, h, resume]

theorem openContainer_ok {mode : Mode} {stack : List Frame} (h : stack.length < maxDepth) :
    openContainer mode stack = .ok (mode, stack) :=
  if_neg (Nat.not_le.2 h)

/-- A list that is admitted opens, and its items are wanted in a shape that they have. -/
theorem step_listStart {shape : Shape} {vs : List Value} {stack : List Frame}
    (hs : shape.Admits (.list vs)) (hroom : stack.length < maxDepth) :
    ∃ item, Mode.step (.value shape) stack .listStart = .ok (.firstItem item, stack) ∧
      ∀ v ∈ vs, item.Admits v := by
  cases shape with
  | any => exact ⟨.any, openContainer_ok hroom, fun _ _ => trivial⟩
  | object => exact absurd hs id
  | listOf item => exact ⟨item, openContainer_ok hroom, hs⟩

theorem step_objectStart {shape : Shape} {fs : List (String × Value)} {stack : List Frame}
    (hs : shape.Admits (.object fs)) (hroom : stack.length < maxDepth) :
    Mode.step (.value shape) stack .objectStart = .ok (.firstKey, stack) := by
  cases shape with
  | any => exact openContainer_ok hroom
  | object => exact openContainer_ok hroom
  | listOf item => exact absurd hs id

/-- The first token of a value closes nothing. -/
theorem tokens_head (v : Value) : ∃ t ts, v.tokens = t :: ts ∧ t ≠ .listEnd := by
  cases v with
  | scalar s => exact ⟨_, _, rfl, by simp⟩
  | list vs =>
    cases vs with
    | nil => exact ⟨_, _, by rw [Value.tokens], by simp⟩
    | cons v vs => exact ⟨_, _, by rw [Value.tokens]; rfl, by simp⟩
  | object fs =>
    cases fs with
    | nil => exact ⟨_, _, by rw [Value.tokens], by simp⟩
    | cons f fs => exact ⟨_, _, by rw [Value.tokens]; rfl, by simp⟩

/-- Where an item is wanted that may be missing, a value is read as one inside the list. -/
theorem readTokens_firstItem (shape : Shape) (stack : List Frame) (v : Value) (ts : List Token) :
    readTokens (.firstItem shape) stack (v.tokens ++ ts) =
      readTokens (.value shape) (.list shape [] :: stack) (v.tokens ++ ts) := by
  obtain ⟨t, us, e, ht⟩ := tokens_head v
  rw [e]
  simp only [List.cons_append, readTokens, Mode.step, ht, if_false]

theorem readTokens_nextItem (shape : Shape) (items : List Value) (stack : List Frame) (v : Value)
    (ts : List Token) :
    readTokens (.itemEnd shape items) stack (.comma :: (v.tokens ++ ts)) =
      readTokens (.value shape) (.list shape items :: stack) (v.tokens ++ ts) := by
  obtain ⟨t, us, e, ht⟩ := tokens_head v
  rw [e]
  simp only [List.cons_append, readTokens, Mode.step, ht, if_false]

theorem readTokens_firstMember (k : String) (stack : List Frame) (ts : List Token) :
    readTokens .firstKey stack (.scalar (.string k) :: .colon :: ts) =
      readTokens (.value .any) (.object [] k :: stack) ts := rfl

theorem readTokens_nextMember (fields : List (String × Value)) (k : String) (stack : List Frame)
    (ts : List Token) :
    readTokens (.memberEnd fields) stack (.comma :: .scalar (.string k) :: .colon :: ts) =
      readTokens (.value .any) (.object fields k :: stack) ts := rfl

/-! ## 3. The run over a value -/

mutual

/-- **The tokens of a value** hand it to the container around it. -/
theorem readTokens_value : ∀ (v : Value) (shape : Shape) (stack : List Frame) (ts : List Token),
    shape.Admits v → stack.length + v.depth ≤ maxDepth →
    readTokens (.value shape) stack (v.tokens ++ ts) = resume (complete v.joined stack) ts
  | .scalar s, shape, stack, ts, hs, _ => by
    rw [Value.joined]
    cases shape with
    | any => exact readTokens_cons rfl
    | object => exact absurd hs id
    | listOf item => exact absurd hs id
  | .list [], shape, stack, ts, hs, hd => by
    have hroom : stack.length < maxDepth := by
      simp only [Value.depth, depthItems] at hd
      omega
    obtain ⟨item, hopen, _⟩ := step_listStart hs hroom
    simp only [Value.tokens, List.cons_append, List.nil_append, Value.joined, joinedItems]
    rw [readTokens_cons hopen]
    exact readTokens_cons rfl
  | .list (v :: vs), shape, stack, ts, hs, hd => by
    simp only [Value.depth, depthItems] at hd
    have hroom : stack.length < maxDepth := by omega
    obtain ⟨item, hopen, hi⟩ := step_listStart hs hroom
    simp only [Value.tokens, List.cons_append, List.append_assoc, List.nil_append, Value.joined,
      joinedItems]
    rw [readTokens_cons hopen, resume, readTokens_firstItem,
      readTokens_value v item _ _ (hi v List.mem_cons_self)
        (by simp only [List.length_cons]; omega)]
    exact readTokens_items vs item [v.joined] stack ts
      (fun w hw => hi w (List.mem_cons_of_mem _ hw)) (by omega)
  | .object [], shape, stack, ts, hs, hd => by
    have hroom : stack.length < maxDepth := by
      simp only [Value.depth, depthMembers] at hd
      omega
    simp only [Value.tokens, List.cons_append, List.nil_append, Value.joined, joinedMembers]
    rw [readTokens_cons (step_objectStart hs hroom)]
    exact readTokens_cons rfl
  | .object ((k, v) :: fs), shape, stack, ts, hs, hd => by
    simp only [Value.depth, depthMembers] at hd
    have hroom : stack.length < maxDepth := by omega
    simp only [Value.tokens, List.cons_append, List.append_assoc, List.nil_append, Value.joined,
      joinedMembers]
    rw [readTokens_cons (step_objectStart hs hroom), resume, readTokens_firstMember,
      readTokens_value v .any _ _ trivial (by simp only [List.length_cons]; omega)]
    exact readTokens_members fs [(k, v.joined)] stack ts (by omega)

/-- Items after the first. -/
theorem readTokens_items : ∀ (vs : List Value) (shape : Shape) (items : List Value)
    (stack : List Frame) (ts : List Token), (∀ v ∈ vs, shape.Admits v) →
    stack.length + 1 + depthItems vs ≤ maxDepth →
    readTokens (.itemEnd shape items) stack (itemTokens vs ++ .listEnd :: ts) =
      resume (complete (.list (items.reverse ++ joinedItems vs)) stack) ts
  | [], shape, items, stack, ts, _, _ => by
    rw [joinedItems, List.append_nil]
    exact readTokens_cons rfl
  | v :: vs, shape, items, stack, ts, hs, hd => by
    simp only [depthItems] at hd
    have hv : (Frame.list shape items :: stack).length + v.depth ≤ maxDepth := by
      simp only [List.length_cons]
      omega
    have e : (v.joined :: items).reverse ++ joinedItems vs =
        items.reverse ++ joinedItems (v :: vs) := by
      rw [List.reverse_cons, List.append_assoc, joinedItems]
      rfl
    simp only [itemTokens, List.cons_append, List.append_assoc]
    rw [readTokens_nextItem, readTokens_value v shape _ _ (hs v List.mem_cons_self) hv, ← e]
    exact readTokens_items vs shape (v.joined :: items) stack ts
      (fun w hw => hs w (List.mem_cons_of_mem _ hw)) (by omega)

/-- Members after the first. -/
theorem readTokens_members : ∀ (fs fields : List (String × Value)) (stack : List Frame)
    (ts : List Token), stack.length + 1 + depthMembers fs ≤ maxDepth →
    readTokens (.memberEnd fields) stack (memberTokens fs ++ .objectEnd :: ts) =
      resume (complete (.object (Fields.putAll fields (joinedMembers fs))) stack) ts
  | [], fields, stack, ts, _ => by
    rw [joinedMembers]
    exact readTokens_cons rfl
  | (k, v) :: fs, fields, stack, ts, hd => by
    simp only [depthMembers] at hd
    have hv : (Frame.object fields k :: stack).length + v.depth ≤ maxDepth := by
      simp only [List.length_cons]
      omega
    simp only [memberTokens, List.cons_append, List.append_assoc]
    rw [readTokens_nextMember, readTokens_value v .any _ _ trivial hv, joinedMembers]
    exact readTokens_members fs (Fields.put k v.joined fields) stack ts (by omega)

end

/-! ## 4. Whole texts -/

theorem read_of_tokens {text : String} {v : Value} {shape : Shape}
    (h : Token.scan text.toList = v.tokens) (hs : shape.Admits v) (hd : v.depth ≤ maxDepth) :
    read shape text = .ok v.joined := by
  have hrun := readTokens_value v shape [] [] hs (by rw [List.length_nil]; omega)
  rw [List.append_nil] at hrun
  rw [read, h, hrun]
  rfl

/-- **A text that scans as the tokens of a value** is read as the value. -/
theorem read_of_scan {text : String} {v : Value} {shape : Shape}
    (h : Token.scan text.toList = v.tokens) (hs : shape.Admits v) (hp : v.Proper)
    (hd : v.depth ≤ maxDepth) : read shape text = .ok v := by
  rw [read_of_tokens h hs hd, joined_of_proper hp]

end RadarCatalog.Json
