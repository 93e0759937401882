import RadarCatalog.Proofs.Files.Temporary
import RadarCatalog.Proofs.Outcome

/-!
# What the operations on files change

No operation of the updater makes or takes away a directory, so every path name leads to the same
place before and after. `ChangesOnly` says this together with the places that may differ.

* `Disk.Replaces` is an atomic write; `Replaces.lookup?_eq` gives the whole disk after it, and
  `Writable.replaces` says when there is one, which depends on the directories alone.
* `Disk.Withdraws` is an atomic write that fails after the temporary file was written.
* `Replaces.changesOnly`, `Withdraws.sameFiles`: where the temporary name is free, the first changes
  its file alone, and the second nothing.
* `Disk.Holds` is what an atomic write leaves; written once more, the disk stays the same.
-/

namespace RadarCatalog.Files

namespace Disk

/-! ## 1. Changes at some places -/

/-- From the first disk to the second the directories stay, and what stands at places that none of
    the path names leads to. -/
structure ChangesOnly (paths : List String) (d d' : Disk) : Prop where
  start : d'.start = d.start
  directory : ∀ l, d'.lookup? l = some .directory ↔ d.lookup? l = some .directory
  kept : ∀ l, (∀ p ∈ paths, d.locate p ≠ .ok l) → d'.lookup? l = d.lookup? l

theorem ChangesOnly.refl (paths : List String) (d : Disk) : ChangesOnly paths d d :=
  ⟨rfl, fun _ => Iff.rfl, fun _ _ => rfl⟩

theorem walk_of_directory {d d' : Disk}
    (h : ∀ l, d.lookup? l = some .directory → d'.lookup? l = some .directory) :
    ∀ (parts : List Part) {here l : Location}, d.walk here parts = .ok l →
      d'.walk here parts = .ok l
  | [], _, _, hw => hw
  | .here :: parts, here, _, hw => by
    simp only [walk] at hw ⊢
    exact walk_of_directory h parts hw
  | .above :: parts, here, _, hw => by
    simp only [walk] at hw ⊢
    exact walk_of_directory h parts hw
  | .name n :: parts, here, l, hw => by
    simp only [walk] at hw ⊢
    split at hw
    · cases hw
    · rename_i hlong
      split at hw
      · rename_i hdir
        rw [if_neg hlong, h _ hdir]
        exact walk_of_directory h parts hw
      · cases hw
      · cases hw

theorem locate_of_directory {d d' : Disk} (hstart : d'.start = d.start)
    (h : ∀ l, d.lookup? l = some .directory → d'.lookup? l = some .directory) {path : String}
    {l : Location} (hl : d.locate path = .ok l) : d'.locate path = .ok l := by
  simp only [locate, hstart] at hl ⊢
  split at hl
  · cases hl
  · rename_i hlong
    rw [if_neg hlong]
    split at hl
    · cases hl
    · rename_i here hwalk
      rw [walk_of_directory h _ hwalk]
      exact hl

/-- **Path names lead to the same places.** -/
theorem ChangesOnly.locate {paths : List String} {d d' : Disk} (h : ChangesOnly paths d d')
    {path : String} {l : Location} : d'.locate path = .ok l ↔ d.locate path = .ok l :=
  ⟨locate_of_directory h.start.symm fun l => (h.directory l).1,
    locate_of_directory h.start fun l => (h.directory l).2⟩

theorem ChangesOnly.trans {paths paths' : List String} {d d' d'' : Disk}
    (h : ChangesOnly paths d d') (h' : ChangesOnly paths' d' d'') :
    ChangesOnly (paths ++ paths') d d'' where
  start := h'.start.trans h.start
  directory l := (h'.directory l).trans (h.directory l)
  kept := by
    intro l hl
    rw [h'.kept l fun p hp hlocate =>
        hl p (List.mem_append_right _ hp) (h.locate.1 hlocate),
      h.kept l fun p hp => hl p (List.mem_append_left _ hp)]

theorem ChangesOnly.mono {paths paths' : List String} {d d' : Disk} (h : ChangesOnly paths d d')
    (hsub : ∀ p ∈ paths, p ∈ paths') : ChangesOnly paths' d d' :=
  ⟨h.start, h.directory, fun l hl => h.kept l fun p hp => hl p (hsub p hp)⟩

/-! ## 2. Reading -/

theorem read_eq_ok {d : Disk} {path : String} {content : Content} :
    d.read path = .ok content ↔
      ∃ l, d.locate path = .ok l ∧ d.lookup? l = some (.file content) := by
  unfold read
  rw [bind_eq_ok]
  constructor
  · intro h
    obtain ⟨l, hl, h⟩ := h
    refine ⟨l, hl, ?_⟩
    split at h
    · rename_i hfile
      cases h
      exact hfile
    · cases h
    · cases h
  · intro h
    obtain ⟨l, hl, h⟩ := h
    exact ⟨l, hl, by rw [h]⟩

/-- The path names lead to different places. -/
def Apart (d : Disk) (p q : String) : Prop := ∀ l, d.locate p = .ok l → d.locate q ≠ .ok l

theorem Apart.symm {d : Disk} {p q : String} (h : d.Apart p q) : d.Apart q p :=
  fun l hq hp => h l hp hq

theorem apart_iff {d : Disk} {p q : String} :
    d.Apart p q ↔ ∀ l ∈ (d.locate p).toOption, (d.locate q).toOption ≠ some l := by
  have htoOption : ∀ {path : String} {l : Location},
      (d.locate path).toOption = some l ↔ d.locate path = .ok l := by
    intro path l
    cases d.locate path with
    | error _ => exact ⟨nofun, nofun⟩
    | ok _ => exact ⟨fun h => congrArg _ (Option.some.inj h), fun h => congrArg _ h⟩
  exact ⟨fun h l hp hq => h l (htoOption.1 hp) (htoOption.1 hq),
    fun h l hp hq => h l (htoOption.2 hp) (htoOption.2 hq)⟩

instance (d : Disk) (p q : String) : Decidable (d.Apart p q) := decidable_of_iff _ apart_iff.symm

/-- A file that is not among those changed reads the same. -/
theorem ChangesOnly.read {paths : List String} {d d' : Disk} (h : ChangesOnly paths d d')
    {path : String} (hpath : ∀ p ∈ paths, d.Apart path p) {content : Content}
    (hread : d.read path = .ok content) : d'.read path = .ok content := by
  obtain ⟨l, hl, hfile⟩ := read_eq_ok.1 hread
  refine read_eq_ok.2 ⟨l, h.locate.2 hl, ?_⟩
  rw [h.kept l fun p hp => hpath p hp l hl]
  exact hfile

/-- What stands at a path name, if anything does. -/
def entryAt (d : Disk) (path : String) : Option Entry :=
  match d.locate path with
  | .ok l => d.lookup? l
  | .error _ => none

theorem entryAt_of_locate {d : Disk} {path : String} {l : Location} (h : d.locate path = .ok l) :
    d.entryAt path = d.lookup? l := by
  simp only [entryAt, h]

theorem isPresent_eq (d : Disk) (path : String) : d.isPresent path = (d.entryAt path).isSome := by
  unfold isPresent entryAt
  cases d.locate path with
  | ok l => rfl
  | error e => rfl

/-- The same stands at a path name that is not among those changed. -/
theorem ChangesOnly.entryAt_eq {paths : List String} {d d' : Disk} (h : ChangesOnly paths d d')
    {path : String} (hpath : ∀ p ∈ paths, d.Apart path p) : d'.entryAt path = d.entryAt path := by
  cases hl : d.locate path with
  | ok l =>
    rw [entryAt_of_locate hl, entryAt_of_locate (h.locate.2 hl)]
    exact h.kept l fun p hp => hpath p hp l hl
  | error e =>
    cases hl' : d'.locate path with
    | ok l =>
      have := h.locate.1 hl'
      rw [hl] at this
      cases this
    | error e' => simp only [entryAt, hl, hl']

theorem ChangesOnly.isPresent {paths : List String} {d d' : Disk} (h : ChangesOnly paths d d')
    {path : String} (hpath : ∀ p ∈ paths, d.Apart path p) :
    d'.isPresent path = d.isPresent path := by
  rw [isPresent_eq, isPresent_eq, h.entryAt_eq hpath]

/-! ## 3. Writing and renaming -/

theorem write_eq_ok {d d' : Disk} {path text : String} :
    d.write path text = .ok d' ↔ ∃ l, d.locate path = .ok l ∧ d.lookup? l ≠ some .directory ∧
      d' = d.put l (.file (.text text)) := by
  unfold write
  rw [bind_eq_ok]
  constructor
  · intro h
    obtain ⟨l, hl, h⟩ := h
    refine ⟨l, hl, ?_⟩
    split at h
    · cases h
    · rename_i hdir
      cases h
      exact ⟨hdir, rfl⟩
  · intro h
    obtain ⟨l, hl, hdir, rfl⟩ := h
    refine ⟨l, hl, ?_⟩
    split
    · rename_i h
      exact absurd h hdir
    · rfl

theorem rename_eq_ok {d d' : Disk} {source target : String} :
    d.rename source target = .ok d' ↔ ∃ from_ to_ entry, d.locate source = .ok from_ ∧
      d.locate target = .ok to_ ∧ d.lookup? from_ = some entry ∧ endsInDots target = false ∧
      endsInSlash target = false ∧ d.lookup? to_ ≠ some .directory ∧
      d' = (d.erase from_).put to_ entry := by
  unfold rename
  rw [bind_eq_ok]
  constructor
  · intro h
    obtain ⟨from_, hfrom, h⟩ := h
    obtain ⟨to_, hto, h⟩ := bind_eq_ok.1 h
    split at h
    · cases h
    · rename_i entry hentry
      split at h
      · cases h
      · rename_i hdots
        split at h
        · cases h
        · rename_i hslash
          split at h
          · cases h
          · rename_i hdir
            cases h
            exact ⟨from_, to_, entry, hfrom, hto, hentry, by simpa using hdots,
              by simpa using hslash, hdir, rfl⟩
  · intro h
    obtain ⟨from_, to_, entry, hfrom, hto, hentry, hdots, hslash, hdir, rfl⟩ := h
    refine ⟨from_, hfrom, bind_eq_ok.2 ⟨to_, hto, ?_⟩⟩
    rw [hentry]
    simp only [hdots, hslash, hdir, Bool.false_eq_true, if_false]

theorem ne_nil_of_lookup? {d : Disk} {l : Location} (h : d.lookup? l ≠ some .directory) :
    l ≠ [] := by
  rintro rfl
  exact h rfl

/-! ## 4. Atomic writes -/

/-- The file of a path name gets a text, under its temporary name first. -/
def Replaces (d : Disk) (path text : String) (d' : Disk) : Prop :=
  ∃ d₁, d.write (temporary path) text = .ok d₁ ∧ d₁.rename (temporary path) path = .ok d'

/-- Nothing but directories decides whether a path name can be written. -/
structure Writable (d : Disk) (path : String) (l lt : Location) : Prop where
  locate : d.locate path = .ok l
  locate_temporary : d.locate (temporary path) = .ok lt
  place : d.lookup? l ≠ some .directory
  temporary_place : d.lookup? lt ≠ some .directory
  dots : endsInDots path = false
  slash : endsInSlash path = false

theorem put_changesOnly {d : Disk} {path : String} {l : Location} (hl : d.locate path = .ok l)
    (hdir : d.lookup? l ≠ some .directory) (content : Content) :
    ChangesOnly [path] d (d.put l (.file content)) where
  start := rfl
  directory := by
    intro l'
    rw [lookup?_put (ne_nil_of_lookup? hdir)]
    split
    · rename_i e
      subst e
      exact ⟨fun h => (by cases h), fun h => absurd h hdir⟩
    · exact Iff.rfl
  kept := by
    intro l' hl'
    rw [lookup?_put (ne_nil_of_lookup? hdir), if_neg]
    rintro rfl
    exact hl' path List.mem_cons_self hl

theorem erase_changesOnly {d : Disk} {path : String} {l : Location} (hl : d.locate path = .ok l)
    {content : Content} (hfile : d.lookup? l = some (.file content)) :
    ChangesOnly [path] d (d.erase l) := by
  have hdir : d.lookup? l ≠ some .directory := by
    rw [hfile]
    intro h
    cases h
  refine ⟨rfl, ?_, ?_⟩
  · intro l'
    rw [lookup?_erase (ne_nil_of_lookup? hdir)]
    split
    · rename_i e
      subst e
      exact ⟨fun h => (by cases h), fun h => absurd h hdir⟩
    · exact Iff.rfl
  · intro l' hl'
    rw [lookup?_erase (ne_nil_of_lookup? hdir), if_neg]
    rintro rfl
    exact hl' path List.mem_cons_self hl

/-- The disk with the temporary file written. -/
theorem lookup?_temporary {d d₁ : Disk} {path text : String}
    (h : d.write (temporary path) text = .ok d₁) : ∃ lt, d.locate (temporary path) = .ok lt ∧
      d.lookup? lt ≠ some .directory ∧ ChangesOnly [temporary path] d d₁ ∧
      ∀ l, d₁.lookup? l = if lt = l then some (.file (.text text)) else d.lookup? l := by
  obtain ⟨lt, hlt, hdir, rfl⟩ := write_eq_ok.1 h
  exact ⟨lt, hlt, hdir, put_changesOnly hlt hdir _, lookup?_put (ne_nil_of_lookup? hdir) _⟩

/-- **A path name that can be written is written.** -/
theorem Writable.replaces {d : Disk} {path : String} {l lt : Location} (h : d.Writable path l lt)
    (text : String) : ∃ d', d.Replaces path text d' := by
  have hwrite : d.write (temporary path) text = .ok (d.put lt (.file (.text text))) :=
    write_eq_ok.2 ⟨lt, h.locate_temporary, h.temporary_place, rfl⟩
  refine ⟨((d.put lt (.file (.text text))).erase lt).put l (.file (.text text)), _, hwrite, ?_⟩
  obtain ⟨lt', hlt', _, hchanges, hlookup⟩ := lookup?_temporary hwrite
  rw [h.locate_temporary] at hlt'
  cases hlt'
  refine rename_eq_ok.2 ⟨lt, l, .file (.text text), hchanges.locate.2 h.locate_temporary,
    hchanges.locate.2 h.locate, ?_, h.dots, h.slash, ?_, rfl⟩
  · rw [hlookup, if_pos rfl]
  · intro hdir
    exact h.place ((hchanges.directory l).1 hdir)

/-- **The disk after an atomic write**: the file has the text, its temporary name is gone, and all
    else is as it was. -/
theorem Replaces.lookup?_eq {d d' : Disk} {path text : String} (h : d.Replaces path text d') :
    ∃ l lt, d.Writable path l lt ∧ ChangesOnly [temporary path, path] d d' ∧
      ∀ l', d'.lookup? l' =
        if l = l' then some (.file (.text text)) else if lt = l' then none else d.lookup? l' := by
  obtain ⟨d₁, hwrite, hrename⟩ := h
  obtain ⟨lt, hlt, hdirt, hchanges, hlookup⟩ := lookup?_temporary hwrite
  obtain ⟨from_, l, entry, hfrom, hto, hentry, hdots, hslash, hdir, rfl⟩ := rename_eq_ok.1 hrename
  have hfrom := hchanges.locate.1 hfrom
  rw [hlt] at hfrom
  cases hfrom
  rw [hlookup, if_pos rfl] at hentry
  cases hentry
  have hl := hchanges.locate.1 hto
  have hdir' : (d₁.erase lt).lookup? l ≠ some .directory := by
    rw [lookup?_erase (ne_nil_of_lookup? hdirt)]
    split
    · intro h
      cases h
    · exact hdir
  have hfile : d₁.lookup? lt = some (.file (.text text)) := by rw [hlookup, if_pos rfl]
  have herase := erase_changesOnly (hchanges.locate.2 hlt) hfile
  have hput := put_changesOnly (herase.locate.2 hto) hdir' (.text text)
  refine ⟨l, lt, ⟨hl, hlt, fun hd => hdir ((hchanges.directory l).2 hd), hdirt, hdots, hslash⟩,
    ?_, ?_⟩
  · refine ((hchanges.trans herase).trans hput).mono ?_
    intro p hp
    simpa using hp
  · intro l'
    rw [lookup?_put (ne_nil_of_lookup? hdir), lookup?_erase (ne_nil_of_lookup? hdirt), hlookup]
    split
    · rfl
    · split
      · rfl
      · rfl

/-- The same path names can be written before and after. -/
theorem Writable.of_changesOnly {paths : List String} {d d' : Disk} {path : String}
    {l lt : Location} (h : d.Writable path l lt) (hc : ChangesOnly paths d d') :
    d'.Writable path l lt where
  locate := hc.locate.2 h.locate
  locate_temporary := hc.locate.2 h.locate_temporary
  place hd := h.place ((hc.directory l).1 hd)
  temporary_place hd := h.temporary_place ((hc.directory lt).1 hd)
  dots := h.dots
  slash := h.slash

/-- The temporary file is written, and taken away again. -/
def Withdraws (d : Disk) (path text : String) (d' : Disk) : Prop :=
  ∃ d₁, d.write (temporary path) text = .ok d₁ ∧ d' = d₁.remove (temporary path)

/-- **The disk after a withdrawn write**: as it was, but nothing stands at the temporary name. -/
theorem Withdraws.lookup?_eq {d d' : Disk} {path text : String} (h : d.Withdraws path text d') :
    ∃ lt, d.locate (temporary path) = .ok lt ∧ ChangesOnly [temporary path] d d' ∧
      ∀ l', d'.lookup? l' = if lt = l' then none else d.lookup? l' := by
  obtain ⟨d₁, hwrite, rfl⟩ := h
  obtain ⟨lt, hlt, hdirt, hchanges, hlookup⟩ := lookup?_temporary hwrite
  have hfile : d₁.lookup? lt = some (.file (.text text)) := by rw [hlookup, if_pos rfl]
  have hlt₁ := hchanges.locate.2 hlt
  have hremove : d₁.remove (temporary path) = d₁.erase lt := by
    simp only [remove, hlt₁, hfile]
  rw [hremove]
  refine ⟨lt, hlt, ?_, ?_⟩
  · refine (hchanges.trans (erase_changesOnly hlt₁ hfile)).mono ?_
    intro p hp
    simpa using hp
  · intro l'
    rw [lookup?_erase (ne_nil_of_lookup? hdirt), hlookup]
    split
    · rfl
    · rfl

theorem lookup?_of_absent {d : Disk} {path : String} {l : Location} (hl : d.locate path = .ok l)
    (habsent : d.isPresent path = false) : d.lookup? l = none := by
  rw [isPresent_eq, entryAt_of_locate hl] at habsent
  exact Option.isNone_iff_eq_none.1 (Option.isSome_eq_false_iff.1 habsent)

/-- With nothing at its temporary name, a write changes the file alone. -/
theorem Replaces.changesOnly {d d' : Disk} {path text : String} (h : d.Replaces path text d')
    (habsent : d.isPresent (temporary path) = false) : ChangesOnly [path] d d' := by
  obtain ⟨l, lt, hw, hchanges, hlookup⟩ := h.lookup?_eq
  refine ⟨hchanges.start, hchanges.directory, ?_⟩
  intro l' hl'
  have hne : ¬ l = l' := fun e => hl' path List.mem_cons_self (e ▸ hw.locate)
  rw [hlookup, if_neg hne]
  split
  · rename_i e
    rw [← e, lookup?_of_absent hw.locate_temporary habsent]
  · rfl

/-! ## 5. Writing the same again -/

/-- The same stands at every place of both disks. -/
structure SameFiles (d d' : Disk) : Prop where
  start : d'.start = d.start
  lookup? : ∀ l, d'.lookup? l = d.lookup? l

theorem SameFiles.trans {d d' d'' : Disk} (h : SameFiles d d') (h' : SameFiles d' d'') :
    SameFiles d d'' :=
  ⟨h'.start.trans h.start, fun l => (h'.lookup? l).trans (h.lookup? l)⟩

theorem SameFiles.changesOnly {d d' : Disk} (h : SameFiles d d') : ChangesOnly [] d d' :=
  ⟨h.start, fun l => by rw [h.lookup? l], fun l _ => h.lookup? l⟩

/-- With nothing at its temporary name, a withdrawn write changes nothing. -/
theorem Withdraws.sameFiles {d d' : Disk} {path text : String} (h : d.Withdraws path text d')
    (habsent : d.isPresent (temporary path) = false) : SameFiles d d' := by
  obtain ⟨lt, hlt, hchanges, hlookup⟩ := h.lookup?_eq
  refine ⟨hchanges.start, ?_⟩
  intro l
  rw [hlookup]
  split
  · rename_i e
    rw [← e, lookup?_of_absent hlt habsent]
  · rfl

theorem SameFiles.walk {d d' : Disk} (h : SameFiles d d') : ∀ (parts : List Part) (here : Location),
    d'.walk here parts = d.walk here parts
  | [], here => by simp only [Disk.walk]
  | .here :: parts, here => by
    simp only [Disk.walk]
    exact h.walk parts here
  | .above :: parts, here => by
    simp only [Disk.walk]
    exact h.walk parts here.dropLast
  | .name n :: parts, here => by
    simp only [Disk.walk, h.lookup?, h.walk parts (here ++ [n])]

/-- Every path name reads the same on both disks, down to the fault. -/
theorem SameFiles.read {d d' : Disk} (h : SameFiles d d') (path : String) :
    d'.read path = d.read path := by
  have hlocate : d'.locate path = d.locate path := by
    simp only [locate, h.start, h.walk]
  simp only [Disk.read, hlocate, h.lookup?]

/-- The file of a path name has a text, nothing stands at its temporary name, and it can be
    written. -/
structure Holds (d : Disk) (path text : String) : Prop where
  places : ∃ l lt, d.Writable path l lt ∧ d.lookup? l = some (.file (.text text)) ∧
    d.lookup? lt = none

theorem Replaces.holds {d d' : Disk} {path text : String} (h : d.Replaces path text d') :
    d'.Holds path text := by
  obtain ⟨l, lt, hw, hchanges, hlookup⟩ := h.lookup?_eq
  have hne : ¬ l = lt := fun e => locate_temporary_ne hw.locate hw.locate_temporary e.symm
  refine ⟨l, lt, hw.of_changesOnly hchanges, ?_, ?_⟩
  · rw [hlookup, if_pos rfl]
  · rw [hlookup, if_neg hne, if_pos rfl]

theorem Holds.read {d : Disk} {path text : String} (h : d.Holds path text) :
    d.read path = .ok (.text text) := by
  obtain ⟨l, lt, hw, hfile, _⟩ := h.places
  exact read_eq_ok.2 ⟨l, hw.locate, hfile⟩

theorem Holds.entryAt {d : Disk} {path text : String} (h : d.Holds path text) :
    d.entryAt path = some (.file (.text text)) := by
  obtain ⟨l, lt, hw, hfile, _⟩ := h.places
  rw [entryAt_of_locate hw.locate, hfile]

/-- Changes at other places leave a file and its temporary name as they are. -/
theorem Holds.of_changesOnly {paths : List String} {d d' : Disk} {path text : String}
    (h : d.Holds path text) (hc : ChangesOnly paths d d')
    (hapart : ∀ p ∈ paths, d.Apart path p ∧ d.Apart (temporary path) p) : d'.Holds path text := by
  obtain ⟨l, lt, hw, hfile, htmp⟩ := h.places
  refine ⟨l, lt, hw.of_changesOnly hc, ?_, ?_⟩
  · rw [hc.kept l fun p hp => (hapart p hp).1 l hw.locate]
    exact hfile
  · rw [hc.kept lt fun p hp => (hapart p hp).2 lt hw.locate_temporary]
    exact htmp

theorem Holds.of_sameFiles {d d' : Disk} {path text : String} (h : d.Holds path text)
    (hs : SameFiles d d') : d'.Holds path text :=
  h.of_changesOnly hs.changesOnly fun _ hp => absurd hp List.not_mem_nil

/-- **A text that is there already** is written again without a trace. -/
theorem Holds.replaces {d : Disk} {path text : String} (h : d.Holds path text) :
    ∃ d', d.Replaces path text d' ∧ SameFiles d d' := by
  obtain ⟨l, lt, hw, hfile, htmp⟩ := h.places
  obtain ⟨d', hd'⟩ := hw.replaces text
  obtain ⟨l₁, lt₁, hw₁, hchanges, hlookup⟩ := hd'.lookup?_eq
  have hl := hw₁.locate
  rw [hw.locate] at hl
  cases hl
  have hlt := hw₁.locate_temporary
  rw [hw.locate_temporary] at hlt
  cases hlt
  refine ⟨d', hd', hchanges.start, ?_⟩
  intro l'
  rw [hlookup]
  split
  · rename_i e
    rw [← e, hfile]
  · split
    · rename_i e
      rw [← e, htmp]
    · rfl

theorem ChangesOnly.apart {paths : List String} {d d' : Disk} (h : ChangesOnly paths d d')
    {p q : String} (ha : d.Apart p q) : d'.Apart p q :=
  fun l hp hq => ha l (h.locate.1 hp) (h.locate.1 hq)

end Disk

end RadarCatalog.Files
