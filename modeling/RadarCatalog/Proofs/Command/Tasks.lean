import RadarCatalog.Command.Run
import RadarCatalog.Proofs.Files.Changes

/-!
# Tasks on a world that is plain data

`Runs` and `Fails` say how a task ends in a world. Both are taken apart along the binds of the task
(`runs_bind`, `fails_bind`), and the lemmas on the single steps say exactly what each one does: the
log gets entries, and the disk is changed by atomic writes alone.
-/

namespace RadarCatalog.Command

open RadarCatalog.Files RadarCatalog.Update

variable {α β ε : Type}

/-! ## 1. How a task ends -/

/-- The task succeeds with a value and leaves the second world. -/
def Runs (t : Task (StateM World) α) (w : World) (a : α) (w' : World) : Prop :=
  (ExceptT.run t w : Except Abort α × World) = (.ok a, w')

/-- The task fails and leaves the second world. -/
def Fails (t : Task (StateM World) α) (w : World) (e : Abort) (w' : World) : Prop :=
  (ExceptT.run t w : Except Abort α × World) = (.error e, w')

theorem runs_or_fails (t : Task (StateM World) α) (w : World) :
    (∃ a w', Runs t w a w') ∨ ∃ e w', Fails t w e w' := by
  unfold Runs Fails
  generalize (ExceptT.run t w : Except Abort α × World) = x
  rcases x with ⟨e | a, w'⟩
  · exact .inr ⟨e, w', rfl⟩
  · exact .inl ⟨a, w', rfl⟩

/-- A task ends in one way. -/
theorem Runs.unique {t : Task (StateM World) α} {w w₁ w₂ : World} {a b : α} (h : Runs t w a w₁)
    (h' : Runs t w b w₂) : b = a ∧ w₂ = w₁ := by
  unfold Runs at h h'
  rw [h] at h'
  cases h'
  exact ⟨rfl, rfl⟩

theorem Runs.not_fails {t : Task (StateM World) α} {w w₁ w₂ : World} {a : α} {e : Abort}
    (h : Runs t w a w₁) : ¬ Fails t w e w₂ := by
  intro h'
  unfold Runs at h
  unfold Fails at h'
  rw [h] at h'
  cases h'

theorem runs_pure {a b : α} {w w' : World} :
    Runs (pure a : Task (StateM World) α) w b w' ↔ b = a ∧ w' = w := by
  constructor
  · intro h
    cases h
    exact ⟨rfl, rfl⟩
  · intro h
    obtain ⟨rfl, rfl⟩ := h
    rfl

theorem not_fails_pure {a : α} {e : Abort} {w w' : World} :
    ¬ Fails (pure a : Task (StateM World) α) w e w' := by
  intro h
  cases h

theorem not_runs_throw {a : α} {e : Abort} {w w' : World} :
    ¬ Runs (throw e : Task (StateM World) α) w a w' := by
  intro h
  cases h

theorem fails_throw {e e' : Abort} {w w' : World} :
    Fails (throw e : Task (StateM World) α) w e' w' ↔ e' = e ∧ w' = w := by
  constructor
  · intro h
    cases h
    exact ⟨rfl, rfl⟩
  · intro h
    obtain ⟨rfl, rfl⟩ := h
    rfl

theorem run_bind (t : Task (StateM World) α) (f : α → Task (StateM World) β) (w : World) :
    (ExceptT.run (t >>= f) w : Except Abort β × World) =
      match (ExceptT.run t w : Except Abort α × World) with
      | (.ok a, w₁) => ExceptT.run (f a) w₁
      | (.error e, w₁) => (.error e, w₁) := by
  show (match (ExceptT.run t w : Except Abort α × World) with
    | (x, w₁) => (ExceptT.bindCont f x w₁ : Except Abort β × World)) = _
  rcases (ExceptT.run t w : Except Abort α × World) with ⟨e | a, w₁⟩
  · rfl
  · rfl

/-- **A chain succeeds** when both parts do. -/
theorem runs_bind {t : Task (StateM World) α} {f : α → Task (StateM World) β} {w w' : World}
    {b : β} : Runs (t >>= f) w b w' ↔ ∃ a w₁, Runs t w a w₁ ∧ Runs (f a) w₁ b w' := by
  unfold Runs
  rw [run_bind]
  rcases (ExceptT.run t w : Except Abort α × World) with ⟨e | a, w₁⟩
  · constructor
    · intro h
      cases h
    · intro h
      obtain ⟨a, w₂, h, _⟩ := h
      cases h
  · constructor
    · intro h
      exact ⟨a, w₁, rfl, h⟩
    · intro h
      obtain ⟨a', w₂, h, h'⟩ := h
      cases h
      exact h'

/-- **A chain fails** when its first part does, or its second after the first succeeded. -/
theorem fails_bind {t : Task (StateM World) α} {f : α → Task (StateM World) β} {w w' : World}
    {e : Abort} : Fails (t >>= f) w e w' ↔
      Fails t w e w' ∨ ∃ a w₁, Runs t w a w₁ ∧ Fails (f a) w₁ e w' := by
  unfold Runs Fails
  rw [run_bind]
  rcases (ExceptT.run t w : Except Abort α × World) with ⟨e' | a, w₁⟩
  · constructor
    · intro h
      cases h
      exact .inl rfl
    · rintro (h | ⟨a, w₂, h, _⟩)
      · cases h
        rfl
      · cases h
  · constructor
    · intro h
      exact .inr ⟨a, w₁, rfl, h⟩
    · rintro (h | ⟨a', w₂, h, h'⟩)
      · cases h
      · cases h
        exact h'

/-! ## 2. The log -/

end RadarCatalog.Command

namespace RadarCatalog.Update

/-- The world with more entries in the log. -/
def World.logged (w : World) (es : List Log.Entry) : World := { w with journal := w.journal ++ es }

/-- The world with another disk. -/
def World.on (w : World) (d : Files.Disk) : World := { w with disk := d }

@[simp] theorem World.disk_on (w : World) (d : Files.Disk) : (w.on d).disk = d := rfl

@[simp] theorem World.logged_logged (w : World) (es es' : List Log.Entry) :
    (w.logged es).logged es' = w.logged (es ++ es') := by
  simp only [logged, List.append_assoc]

@[simp] theorem World.on_logged (w : World) (d : Files.Disk) (es : List Log.Entry) :
    (w.on d).logged es = (w.logged es).on d := rfl

@[simp] theorem World.on_on (w : World) (d d' : Files.Disk) : (w.on d).on d' = w.on d' := rfl

theorem World.on_disk (w : World) : w.on w.disk = w := rfl

theorem World.logged_nil (w : World) : w.logged [] = w := by simp only [logged, List.append_nil]

end RadarCatalog.Update

namespace RadarCatalog.Command

open RadarCatalog.Files RadarCatalog.Update

variable {α β ε : Type}

theorem runs_say {level : Log.Level} {message : String} {u : Unit} {w w' : World} :
    Runs (say (m := StateM World) level message) w u w' ↔ w' = w.logged [⟨level, message⟩] := by
  constructor
  · intro h
    cases h
    rfl
  · rintro rfl
    rfl

theorem not_fails_say {level : Log.Level} {message : String} {e : Abort} {w w' : World} :
    ¬ Fails (say (m := StateM World) level message) w e w' := by
  intro h
  cases h

/-- A message in front of a task is an entry more in the log. -/
theorem runs_say_bind {level : Log.Level} {message : String} {f : Unit → Task (StateM World) β}
    {b : β} {w w' : World} : Runs (say level message >>= f) w b w' ↔
      Runs (f ()) (w.logged [⟨level, message⟩]) b w' := by
  rw [runs_bind]
  constructor
  · intro h
    obtain ⟨u, w₁, hsay, hrest⟩ := h
    rw [← runs_say.1 hsay]
    exact hrest
  · intro h
    exact ⟨(), _, runs_say.2 rfl, h⟩

theorem fails_say_bind {level : Log.Level} {message : String} {f : Unit → Task (StateM World) β}
    {e : Abort} {w w' : World} : Fails (say level message >>= f) w e w' ↔
      Fails (f ()) (w.logged [⟨level, message⟩]) e w' := by
  rw [fails_bind]
  constructor
  · rintro (hsay | ⟨u, w₁, hsay, hrest⟩)
    · exact absurd hsay not_fails_say
    · rw [← runs_say.1 hsay]
      exact hrest
  · intro h
    exact .inr ⟨(), _, runs_say.2 rfl, h⟩

/-! ## 3. Single steps -/

theorem runs_check {abort : ε → Abort} {x : Except ε α} {a : α} {w w' : World} :
    Runs (check (m := StateM World) abort x) w a w' ↔ x = .ok a ∧ w' = w := by
  cases x with
  | ok b =>
    constructor
    · intro h
      cases h
      exact ⟨rfl, rfl⟩
    · intro h
      obtain ⟨h, rfl⟩ := h
      cases h
      rfl
  | error e => exact ⟨fun h => (by cases h), fun h => (by cases h.1)⟩

theorem fails_check {abort : ε → Abort} {x : Except ε α} {e : Abort} {w w' : World} :
    Fails (check (m := StateM World) abort x) w e w' ↔
      ∃ e', x = .error e' ∧ e = abort e' ∧ w' = w := by
  cases x with
  | ok b => exact ⟨fun h => (by cases h), fun ⟨_, h, _⟩ => (by cases h)⟩
  | error e' =>
    constructor
    · intro h
      cases h
      exact ⟨e', rfl, rfl, rfl⟩
    · intro h
      obtain ⟨e'', h, rfl, rfl⟩ := h
      cases h
      rfl

theorem runs_lift {x : StateM World α} {a : α} {w w' : World} :
    Runs (ExceptT.lift x) w a w' ↔ (x w : α × World) = (a, w') := by
  show ((Except.ok (x w).1, (x w).2) : Except Abort α × World) = _ ↔ _
  rw [Prod.ext_iff, Prod.ext_iff]
  simp

theorem not_fails_lift {x : StateM World α} {e : Abort} {w w' : World} :
    ¬ Fails (ExceptT.lift x) w e w' := by
  intro h
  cases congrArg Prod.fst h

theorem runs_readText {path text : String} {w w' : World} :
    Runs (readText (m := StateM World) path) w text w' ↔
      w.disk.read path = .ok (.text text) ∧ w' = w := by
  unfold readText
  rw [runs_bind]
  constructor
  · intro h
    obtain ⟨x, w₁, hx, h⟩ := h
    have hread : ((w.disk.read path, w) : Except Fault Content × World) = (x, w₁) := runs_lift.1 hx
    obtain ⟨rfl, rfl⟩ := Prod.mk.inj hread
    split at h
    · rename_i s hs
      obtain ⟨rfl, rfl⟩ := runs_pure.1 h
      exact ⟨hs, rfl⟩
    · exact absurd h not_runs_throw
    · exact absurd h not_runs_throw
  · intro h
    obtain ⟨h, rfl⟩ := h
    refine ⟨.ok (.text text), w', runs_lift.2 ?_, runs_pure.2 ⟨rfl, rfl⟩⟩
    show ((w'.disk.read path, w') : Except Fault Content × World) = _
    rw [h]

/-- A file that is not read, or is no text, changes nothing. -/
theorem fails_readText {path : String} {e : Abort} {w w' : World}
    (h : Fails (readText (m := StateM World) path) w e w') :
    (∃ cause, e = .update (.read path cause)) ∧ w' = w ∧
      ∀ text, w.disk.read path ≠ .ok (.text text) := by
  unfold readText at h
  rcases fails_bind.1 h with hlift | ⟨x, w₁, hx, hrest⟩
  · exact absurd hlift not_fails_lift
  · have hread : ((w.disk.read path, w) : Except Fault Content × World) = (x, w₁) := runs_lift.1 hx
    obtain ⟨rfl, rfl⟩ := Prod.mk.inj hread
    split at hrest
    · exact absurd hrest not_fails_pure
    · rename_i bytes hbytes
      obtain ⟨rfl, rfl⟩ := fails_throw.1 hrest
      refine ⟨⟨_, rfl⟩, rfl, ?_⟩
      intro text htext
      rw [hbytes] at htext
      cases htext
    · rename_i fault hfault
      obtain ⟨rfl, rfl⟩ := fails_throw.1 hrest
      refine ⟨⟨_, rfl⟩, rfl, ?_⟩
      intro text htext
      rw [hfault] at htext
      cases htext

/-! ## 4. Atomic writes -/

theorem runs_change {change : Disk → Except Fault Disk} {x : Except Fault Unit} {w w' : World}
    (h : Runs (ExceptT.lift (fun w : World => w.change change : StateM World (Except Fault Unit)))
      w x w') :
    (∃ d', change w.disk = .ok d' ∧ x = .ok () ∧ w' = w.on d') ∨
      ∃ fault, change w.disk = .error fault ∧ x = .error fault ∧ w' = w := by
  have h : (w.change change : Except Fault Unit × World) = (x, w') := runs_lift.1 h
  unfold World.change at h
  split at h
  · rename_i d' hd
    cases h
    exact .inl ⟨d', hd, rfl, rfl⟩
  · rename_i fault hd
    cases h
    exact .inr ⟨fault, hd, rfl, rfl⟩

/-- **A write that succeeds** replaces the file. -/
theorem runs_writeText {path text : String} {u : Unit} {w w' : World} :
    Runs (writeText (m := StateM World) path text) w u w' ↔
      ∃ d', w.disk.Replaces path text d' ∧ w' = w.on d' := by
  unfold writeText
  rw [runs_bind]
  constructor
  · intro h
    obtain ⟨x, w₁, hwrite, h⟩ := h
    rcases runs_change hwrite with ⟨d₁, hd₁, rfl, rfl⟩ | ⟨fault, _, rfl, rfl⟩
    · obtain ⟨y, w₂, hrename, h⟩ := runs_bind.1 h
      rcases runs_change hrename with ⟨d₂, hd₂, rfl, rfl⟩ | ⟨fault, _, rfl, rfl⟩
      · obtain ⟨_, rfl⟩ := runs_pure.1 h
        exact ⟨d₂, ⟨d₁, hd₁, hd₂⟩, rfl⟩
      · obtain ⟨_, w₃, _, h⟩ := runs_bind.1 h
        exact absurd h not_runs_throw
    · exact absurd h not_runs_throw
  · intro h
    obtain ⟨d', ⟨d₁, hwrite, hrename⟩, rfl⟩ := h
    refine ⟨.ok (), w.on d₁, runs_lift.2 ?_, runs_bind.2 ⟨.ok (), w.on d', runs_lift.2 ?_,
      runs_pure.2 ⟨rfl, rfl⟩⟩⟩
    · show (w.change fun d => d.write (temporary path) text) = _
      simp only [World.change, hwrite]
      rfl
    · show ((w.on d₁).change fun d => d.rename (temporary path) path) = _
      simp only [World.change, World.disk_on, hrename]
      rfl

/-- The failure names a file that cannot be written, or its temporary name. -/
def Unwritten (path : String) (e : Abort) : Prop :=
  ∃ p cause, e = .update (.write p cause) ∧ (p = path ∨ p = temporary path)

/-- **A write that fails** leaves the file alone, and nothing new at its temporary name. -/
theorem fails_writeText {path text : String} {e : Abort} {w w' : World}
    (h : Fails (writeText (m := StateM World) path text) w e w') :
    Unwritten path e ∧
      (w' = w ∨ ∃ d', w.disk.Withdraws path text d' ∧ w' = w.on d') := by
  unfold writeText at h
  rcases fails_bind.1 h with hlift | ⟨x, w₁, hwrite, hrest⟩
  · exact absurd hlift not_fails_lift
  · rcases runs_change hwrite with ⟨d₁, hd₁, rfl, rfl⟩ | ⟨fault, _, rfl, rfl⟩
    · rcases fails_bind.1 hrest with hlift | ⟨y, w₂, hrename, hend⟩
      · exact absurd hlift not_fails_lift
      · rcases runs_change hrename with ⟨d₂, _, rfl, rfl⟩ | ⟨fault, _, rfl, rfl⟩
        · exact absurd hend not_fails_pure
        · rcases fails_bind.1 hend with hlift | ⟨_, w₃, hremove, hthrow⟩
          · exact absurd hlift not_fails_lift
          · obtain ⟨rfl, rfl⟩ := fails_throw.1 hthrow
            have hremove : (((), (w.on d₁).on (d₁.remove (temporary path))) : Unit × World) =
                (_, w') := runs_lift.1 hremove
            refine ⟨⟨_, _, rfl, .inl rfl⟩, .inr ⟨_, ⟨d₁, hd₁, rfl⟩, ?_⟩⟩
            exact (Prod.mk.inj hremove).2.symm
    · obtain ⟨rfl, rfl⟩ := fails_throw.1 hrest
      exact ⟨⟨_, _, rfl, .inr rfl⟩, .inl rfl⟩

end RadarCatalog.Command
