import RadarCatalog.Proofs.Json.Reading

/-!
# What the reader takes

A text is read as a value exactly if its tokens are those of some value that is wanted and not too
deep; what is read is that value with the repeated keys of its objects joined (`read_eq_ok`).

The run over the tokens of a value is one half. The other half goes backwards: `Demands` says of
the machine what the tokens still to come must be, if it is to give a certain value. `Passes` lists
what one token can do, `passes_of_step` says that there is nothing else, and `demands_of_passes` that
the demand on the tokens behind it becomes one on the token and these. So a run that succeeds has met
the demand that was there at its start (`demands_of_readTokens`).

* `read_proper`: every object in a value that was read lists each key once;
* `read_depth`: its containers are no deeper than the reader allows;
* `read_admits`: it is of the shape that is wanted.
-/

namespace RadarCatalog.Json

/-! ## 1. One token -/

/-- The shape admits the lists of items that another shape admits. -/
def Shape.Lists (shape item : Shape) : Prop :=
  ∀ vs, (∀ v ∈ vs, item.Admits v) → shape.Admits (.list vs)

/-- The shape admits objects. -/
def Shape.TakesObjects (shape : Shape) : Prop := ∀ fs, shape.Admits (.object fs)

/-- What one token can do to the machine. -/
inductive Passes : Token → Mode × List Frame → Mode × List Frame → Prop where
  | scalar {shape : Shape} {stack : List Frame} (s : Scalar) (wanted : shape.Admits (.scalar s)) :
      Passes (.scalar s) (.value shape, stack) (complete (.scalar s) stack)
  | listStart {shape : Shape} {stack : List Frame} (item : Shape) (wanted : shape.Lists item)
      (room : stack.length < maxDepth) :
      Passes .listStart (.value shape, stack) (.firstItem item, stack)
  | objectStart {shape : Shape} {stack : List Frame} (wanted : shape.TakesObjects)
      (room : stack.length < maxDepth) :
      Passes .objectStart (.value shape, stack) (.firstKey, stack)
  | emptyList {shape : Shape} {stack : List Frame} :
      Passes .listEnd (.firstItem shape, stack) (complete (.list []) stack)
  | firstItem {shape : Shape} {stack : List Frame} {t : Token} {next : Mode × List Frame}
      (item : Passes t (.value shape, .list shape [] :: stack) next) :
      Passes t (.firstItem shape, stack) next
  | nextItem {shape : Shape} {stack : List Frame} {t : Token} {next : Mode × List Frame}
      (item : Passes t (.value shape, stack) next) : Passes t (.nextItem shape, stack) next
  | itemComma {shape : Shape} {items : List Value} {stack : List Frame} :
      Passes .comma (.itemEnd shape items, stack) (.nextItem shape, .list shape items :: stack)
  | listEnd {shape : Shape} {items : List Value} {stack : List Frame} :
      Passes .listEnd (.itemEnd shape items, stack) (complete (.list items.reverse) stack)
  | emptyObject {stack : List Frame} :
      Passes .objectEnd (.firstKey, stack) (complete (.object []) stack)
  | firstKey {stack : List Frame} (key : String) :
      Passes (.scalar (.string key)) (.firstKey, stack) (.colon [] key, stack)
  | nextKey {fields : List (String × Value)} {stack : List Frame} (key : String) :
      Passes (.scalar (.string key)) (.nextKey fields, stack) (.colon fields key, stack)
  | colon {fields : List (String × Value)} {key : String} {stack : List Frame} :
      Passes .colon (.colon fields key, stack) (.value .any, .object fields key :: stack)
  | memberComma {fields : List (String × Value)} {stack : List Frame} :
      Passes .comma (.memberEnd fields, stack) (.nextKey fields, stack)
  | objectEnd {fields : List (String × Value)} {stack : List Frame} :
      Passes .objectEnd (.memberEnd fields, stack) (complete (.object fields) stack)

section Step

variable {stack : List Frame} {t : Token} {next : Mode × List Frame}

theorem openContainer_eq_ok {mode : Mode} (h : openContainer mode stack = .ok next) :
    stack.length < maxDepth ∧ next = (mode, stack) := by
  unfold openContainer at h
  split at h
  · cases h
  · rename_i hroom
    cases h
    exact ⟨Nat.lt_of_not_le hroom, rfl⟩

theorem passes_of_readValue {shape : Shape} (h : readValue shape stack t = .ok next) :
    Passes t (.value shape, stack) next := by
  unfold readValue at h
  split at h
  · split at h
    · cases h
      exact .scalar _ trivial
    · cases h
  · split at h
    · obtain ⟨hroom, rfl⟩ := openContainer_eq_ok h
      exact .listStart _ (fun _ _ => trivial) hroom
    · obtain ⟨hroom, rfl⟩ := openContainer_eq_ok h
      exact .listStart _ (fun _ hvs => hvs) hroom
    · cases h
  · split at h
    · obtain ⟨hroom, rfl⟩ := openContainer_eq_ok h
      exact .objectStart (fun _ => trivial) hroom
    · obtain ⟨hroom, rfl⟩ := openContainer_eq_ok h
      exact .objectStart (fun _ => trivial) hroom
    · cases h
  all_goals cases h

theorem readKey_eq_ok {fields : List (String × Value)} (h : readKey fields stack t = .ok next) :
    ∃ key, t = .scalar (.string key) ∧ next = (.colon fields key, stack) := by
  unfold readKey at h
  split at h
  · cases h
    exact ⟨_, rfl, rfl⟩
  all_goals cases h

/-- **One token** does nothing else. -/
theorem passes_of_step {mode : Mode} (h : mode.step stack t = .ok next) :
    Passes t (mode, stack) next := by
  cases mode with
  | value shape => exact passes_of_readValue h
  | firstItem shape =>
    simp only [Mode.step] at h
    split at h
    · rename_i ht
      cases h
      rw [ht]
      exact .emptyList
    · exact .firstItem (passes_of_readValue h)
  | nextItem shape =>
    simp only [Mode.step] at h
    split at h
    · cases h
    · exact .nextItem (passes_of_readValue h)
  | itemEnd shape items =>
    simp only [Mode.step] at h
    split at h
    · cases h
      exact .itemComma
    · cases h
      exact .listEnd
    · cases h
  | firstKey =>
    simp only [Mode.step] at h
    split at h
    · rename_i ht
      cases h
      rw [ht]
      exact .emptyObject
    · obtain ⟨key, rfl, rfl⟩ := readKey_eq_ok h
      exact .firstKey key
  | nextKey fields =>
    simp only [Mode.step] at h
    split at h
    · cases h
    · obtain ⟨key, rfl, rfl⟩ := readKey_eq_ok h
      exact .nextKey key
  | colon fields key =>
    simp only [Mode.step] at h
    split at h
    · rename_i ht
      cases h
      rw [ht]
      exact .colon
    · cases h
  | memberEnd fields =>
    simp only [Mode.step] at h
    split at h
    · cases h
      exact .memberComma
    · cases h
      exact .objectEnd
    · cases h
  | done v => cases h

end Step

/-! ## 2. What is still to come -/

/-- The items of a list go on and end, and what is after the list goes on from there. -/
def ListEnds (item : Shape) (room : Nat) (items : List Value)
    (after : Value → List Token → Prop) (ts : List Token) : Prop :=
  ∃ vs rest, ts = itemTokens vs ++ .listEnd :: rest ∧
    (∀ v ∈ vs, item.Admits v ∧ v.depth ≤ room) ∧ after (.list (items.reverse ++ joinedItems vs)) rest

/-- The members of an object go on and end, and what is after the object goes on from there. -/
def ObjectEnds (room : Nat) (fields : List (String × Value))
    (after : Value → List Token → Prop) (ts : List Token) : Prop :=
  ∃ fs rest, ts = memberTokens fs ++ .objectEnd :: rest ∧ (∀ f ∈ fs, f.2.depth ≤ room) ∧
    after (.object (Fields.putAll fields (joinedMembers fs))) rest

/-- How deep a value may be inside so many containers. -/
def roomIn (containers : Nat) : Nat := maxDepth - containers

section Demands

variable (result : Value)

/-- A value is complete, and the containers that it stands in go on and end one after the other. -/
def Finishes : List Frame → Value → List Token → Prop
  | [], v, ts => ts = [] ∧ v = result
  | .list item items :: stack, v, ts =>
    ListEnds item (roomIn (stack.length + 1)) (v :: items) (Finishes stack) ts
  | .object fields key :: stack, v, ts =>
    ObjectEnds (roomIn (stack.length + 1)) (Fields.put key v fields) (Finishes stack) ts

/-- What the tokens still to come must be, if the machine is to give the result. -/
def Demands : Mode × List Frame → List Token → Prop
  | (.value shape, stack), ts | (.nextItem shape, stack), ts =>
    ∃ v rest, ts = v.tokens ++ rest ∧ shape.Admits v ∧ v.depth ≤ roomIn stack.length ∧
      Finishes result stack v.joined rest
  | (.firstItem item, stack), ts =>
    ∃ vs rest, .listStart :: ts = (Value.list vs).tokens ++ rest ∧
      (∀ v ∈ vs, item.Admits v ∧ v.depth ≤ roomIn (stack.length + 1)) ∧
      Finishes result stack (Value.list vs).joined rest
  | (.itemEnd item items, stack), ts =>
    ListEnds item (roomIn (stack.length + 1)) items (Finishes result stack) ts
  | (.firstKey, stack), ts =>
    ∃ fs rest, .objectStart :: ts = (Value.object fs).tokens ++ rest ∧
      (∀ f ∈ fs, f.2.depth ≤ roomIn (stack.length + 1)) ∧
      Finishes result stack (Value.object fs).joined rest
  -- a key that was read is demanded together with the comma before it
  | (.nextKey fields, stack), ts =>
    ObjectEnds (roomIn (stack.length + 1)) fields (Finishes result stack) (.comma :: ts)
  | (.colon fields key, stack), ts =>
    ObjectEnds (roomIn (stack.length + 1)) fields (Finishes result stack)
      (.comma :: .scalar (.string key) :: ts)
  | (.memberEnd fields, stack), ts =>
    ObjectEnds (roomIn (stack.length + 1)) fields (Finishes result stack) ts
  | (.done v, _), ts => ts = [] ∧ v = result

variable {result}

theorem finishes_of_complete {v : Value} {ts : List Token} : ∀ {stack : List Frame},
    Demands result (complete v stack) ts → Finishes result stack v ts
  | [], h => h
  | .list _ _ :: _, h => h
  | .object _ _ :: _, h => h

/-- The first of some items, and those after it. -/
theorem listEnds_cons {item : Shape} {room : Nat} {items : List Value} {v : Value}
    {after : Value → List Token → Prop} {rest : List Token} (hv : item.Admits v ∧ v.depth ≤ room)
    (h : ListEnds item room (v.joined :: items) after rest) :
    ListEnds item room items after (.comma :: (v.tokens ++ rest)) := by
  obtain ⟨vs, rest', rfl, hvs, hafter⟩ := h
  refine ⟨v :: vs, rest', ?_, List.forall_mem_cons.2 ⟨hv, hvs⟩, ?_⟩
  · simp only [itemTokens, List.cons_append, List.append_assoc]
  · rwa [List.reverse_cons, List.append_assoc, List.singleton_append, ← joinedItems] at hafter

theorem objectEnds_cons {room : Nat} {fields : List (String × Value)} {key : String} {v : Value}
    {after : Value → List Token → Prop} {rest : List Token} (hv : v.depth ≤ room)
    (h : ObjectEnds room (Fields.put key v.joined fields) after rest) :
    ObjectEnds room fields after
      (.comma :: .scalar (.string key) :: .colon :: (v.tokens ++ rest)) := by
  obtain ⟨fs, rest', rfl, hfs, hafter⟩ := h
  refine ⟨(key, v) :: fs, rest', ?_, List.forall_mem_cons.2 ⟨hv, hfs⟩, ?_⟩
  · simp only [memberTokens, List.cons_append, List.append_assoc]
  · rwa [joinedMembers]

/-- **One token** makes the demand behind it one on the token as well. -/
theorem demands_of_passes {t : Token} {now next : Mode × List Frame} (h : Passes t now next) :
    ∀ {ts : List Token}, Demands result next ts → Demands result now (t :: ts) := by
  induction h with
  | scalar s wanted =>
    intro ts hd
    refine ⟨.scalar s, ts, by rw [Value.tokens]; rfl, wanted, ?_, ?_⟩
    · rw [Value.depth]
      exact Nat.zero_le _
    · rw [Value.joined]
      exact finishes_of_complete hd
  | listStart item wanted room =>
    rintro ts ⟨vs, rest, htokens, hvs, hafter⟩
    refine ⟨.list vs, rest, htokens, wanted vs fun v hv => (hvs v hv).1, ?_, hafter⟩
    have hdepth := (depthItems_le vs).2 fun v hv => (hvs v hv).2
    rw [Value.depth]
    simp only [roomIn] at hdepth ⊢
    omega
  | objectStart wanted room =>
    rintro ts ⟨fs, rest, htokens, hfs, hafter⟩
    refine ⟨.object fs, rest, htokens, wanted fs, ?_, hafter⟩
    have hdepth := (depthMembers_le fs).2 hfs
    rw [Value.depth]
    simp only [roomIn] at hdepth ⊢
    omega
  | emptyList =>
    intro ts hd
    refine ⟨[], ts, by rw [Value.tokens]; rfl, nofun, ?_⟩
    rw [Value.joined, joinedItems]
    exact finishes_of_complete hd
  | firstItem item ih =>
    -- the item stands in the list already, so its demand has the end of the list in it
    intro ts hd
    obtain ⟨v, rest, htokens, hadmits, hdepth, vs, rest', rfl, hvs, hafter⟩ := ih hd
    refine ⟨v :: vs, rest', ?_, List.forall_mem_cons.2 ⟨⟨hadmits, hdepth⟩, hvs⟩, ?_⟩
    · rw [htokens, Value.tokens]
      simp only [List.cons_append, List.append_assoc, List.nil_append]
    · rwa [Value.joined, joinedItems]
  | nextItem item ih => exact ih
  | itemComma =>
    rintro ts ⟨v, rest, rfl, hadmits, hdepth, hafter⟩
    exact listEnds_cons ⟨hadmits, hdepth⟩ hafter
  | listEnd =>
    intro ts hd
    refine ⟨[], ts, by rw [itemTokens]; rfl, nofun, ?_⟩
    rw [joinedItems, List.append_nil]
    exact finishes_of_complete hd
  | emptyObject =>
    intro ts hd
    refine ⟨[], ts, by rw [Value.tokens]; rfl, nofun, ?_⟩
    rw [Value.joined, joinedMembers]
    exact finishes_of_complete hd
  | firstKey key =>
    rintro ts ⟨fs, rest, htokens, hfs, hafter⟩
    cases fs with
    | nil => cases htokens
    | cons f fs =>
      refine ⟨f :: fs, rest, ?_, hfs, ?_⟩
      · rw [memberTokens] at htokens
        rw [Value.tokens]
        simpa using htokens
      · rwa [Value.joined]
  | nextKey key => exact id
  | colon =>
    rintro ts ⟨v, rest, rfl, _, hdepth, hafter⟩
    exact objectEnds_cons hdepth hafter
  | memberComma => exact id
  | objectEnd =>
    intro ts hd
    refine ⟨[], ts, by rw [memberTokens]; rfl, nofun, ?_⟩
    rw [joinedMembers]
    exact finishes_of_complete hd

/-- **A run that succeeds** has met the demand at its start. -/
theorem demands_of_readTokens : ∀ {ts : List Token} {mode : Mode} {stack : List Frame},
    readTokens mode stack ts = .ok result → Demands result (mode, stack) ts
  | [], mode, stack, h => by
    cases mode <;> cases h
    exact ⟨rfl, rfl⟩
  | t :: ts, mode, stack, h => by
    simp only [readTokens] at h
    split at h
    · rename_i hnext
      exact demands_of_passes (passes_of_step hnext) (demands_of_readTokens h)
    · cases h

end Demands

/-- **A text is read** exactly if its tokens are those of a value that is wanted and not too deep. -/
theorem read_eq_ok {shape : Shape} {text : String} {v : Value} :
    read shape text = .ok v ↔ ∃ w : Value, Token.scan text.toList = w.tokens ∧ shape.Admits w ∧
      w.depth ≤ maxDepth ∧ w.joined = v := by
  constructor
  · intro h
    obtain ⟨w, rest, htokens, hadmits, hdepth, rfl, hjoined⟩ := demands_of_readTokens h
    rw [List.append_nil] at htokens
    exact ⟨w, htokens, hadmits, hdepth, hjoined⟩
  · rintro ⟨w, htokens, hadmits, hdepth, rfl⟩
    exact read_of_tokens htokens hadmits hdepth

/-! ## 3. What joining keys keeps -/

theorem joinedItems_eq : ∀ vs : List Value, joinedItems vs = vs.map Value.joined
  | [] => by rw [joinedItems, List.map_nil]
  | v :: vs => by rw [joinedItems, joinedItems_eq vs, List.map_cons]

theorem joinedMembers_eq : ∀ fs : List (String × Value),
    joinedMembers fs = fs.map fun f => (f.1, f.2.joined)
  | [] => by rw [joinedMembers, List.map_nil]
  | (k, v) :: fs => by rw [joinedMembers, joinedMembers_eq fs, List.map_cons]

mutual

theorem proper_joined : ∀ v : Value, v.joined.Proper
  | .scalar s => by simp only [Value.joined, Value.Proper]
  | .list vs => by
    simp only [Value.joined, Value.Proper]
    exact properItems_joined vs
  | .object fs => by
    simp only [Value.joined, Value.Proper, properMembers_iff]
    refine ⟨Fields.distinct_joined _, ?_⟩
    intro f hf
    exact (properMembers_iff _).1 (properMembers_joined fs) f (Fields.mem_joined _ hf)

theorem properItems_joined : ∀ vs : List Value, properItems (joinedItems vs)
  | [] => by simp only [joinedItems, properItems]
  | v :: vs => by
    simp only [joinedItems, properItems]
    exact ⟨proper_joined v, properItems_joined vs⟩

theorem properMembers_joined : ∀ fs : List (String × Value), properMembers (joinedMembers fs)
  | [] => by simp only [joinedMembers, properMembers]
  | (k, v) :: fs => by
    simp only [joinedMembers, properMembers]
    exact ⟨proper_joined v, properMembers_joined fs⟩

end

mutual

theorem depth_joined : ∀ v : Value, v.joined.depth ≤ v.depth
  | .scalar s => by rw [Value.joined]
  | .list vs => by
    simp only [Value.joined, Value.depth]
    exact Nat.succ_le_succ (depthItems_joined vs)
  | .object fs => by
    simp only [Value.joined, Value.depth]
    refine Nat.succ_le_succ ((depthMembers_le _).2 ?_)
    intro f hf
    exact (depthMembers_le _).1 (depthMembers_joined fs) f (Fields.mem_joined _ hf)

theorem depthItems_joined : ∀ vs : List Value, depthItems (joinedItems vs) ≤ depthItems vs
  | [] => by rw [joinedItems]
  | v :: vs => by
    have hv := depth_joined v
    have hvs := depthItems_joined vs
    simp only [joinedItems, depthItems]
    omega

theorem depthMembers_joined : ∀ fs : List (String × Value),
    depthMembers (joinedMembers fs) ≤ depthMembers fs
  | [] => by rw [joinedMembers]
  | (k, v) :: fs => by
    have hv := depth_joined v
    have hfs := depthMembers_joined fs
    simp only [joinedMembers, depthMembers]
    omega

end

theorem admits_joined {shape : Shape} : ∀ {v : Value}, shape.Admits v → shape.Admits v.joined := by
  induction shape with
  | any => exact fun _ => trivial
  | object =>
    intro v h
    cases v with
    | scalar s => exact h.elim
    | list vs => exact h.elim
    | object fs =>
      rw [Value.joined]
      trivial
  | listOf item ih =>
    intro v h
    cases v with
    | scalar s => exact h.elim
    | list vs =>
      rw [Value.joined, joinedItems_eq]
      exact List.forall_mem_map.2 fun w hw => ih (h w hw)
    | object fs => exact h.elim

section Read

variable {shape : Shape} {text : String} {v : Value}

/-- **A value that was read** lists each key once in every object. -/
theorem read_proper (h : read shape text = .ok v) : v.Proper := by
  obtain ⟨w, _, _, _, rfl⟩ := read_eq_ok.1 h
  exact proper_joined w

/-- **A value that was read** is not deeper than the reader allows. -/
theorem read_depth (h : read shape text = .ok v) : v.depth ≤ maxDepth := by
  obtain ⟨w, _, _, hdepth, rfl⟩ := read_eq_ok.1 h
  exact Nat.le_trans (depth_joined w) hdepth

/-- **A value that was read** is of the shape that was wanted. -/
theorem read_admits (h : read shape text = .ok v) : shape.Admits v := by
  obtain ⟨w, _, hadmits, _, rfl⟩ := read_eq_ok.1 h
  exact admits_joined hadmits

end Read

end RadarCatalog.Json
