import RadarCatalog.Catalog.Verify
import RadarCatalog.Proofs.Catalog.RoundTrip
import RadarCatalog.Proofs.Catalog.Merging
import RadarCatalog.Proofs.Command.Updates

/-!
# What one update does to the catalog file

The catalog file is the file at one location. An update works on it when the path names of the
current and of the updated file lead there, and those of its other files do not.

* `lookup?_of_listed`: once the catalog is written, the file holds its text to the end.
* `file_of_stops`: an update that stops leaves the file as it was, or with the whole next catalog.
-/

namespace RadarCatalog.Command

open RadarCatalog.Catalog RadarCatalog.Files RadarCatalog.Registry RadarCatalog.Update

/-! ## 1. The files that an update writes -/

/-- A file that is written, if one is named, and its temporary name. -/
def ownFiles (file : Option String) : List String := file.toList.flatMap fun p => [temporary p, p]

theorem saves_changesOnly {d d' : Disk} {file : Option String} {text : String}
    (h : Saves d file text d') : Disk.ChangesOnly (ownFiles file) d d' := by
  cases file with
  | none =>
    obtain rfl : d' = d := h
    exact .refl _ d'
  | some path =>
    obtain ⟨l, lt, _, hchanges, _⟩ := Disk.Replaces.lookup?_eq h
    exact hchanges

theorem spared_changesOnly {d d' : Disk} {path : String} (h : Spared d path d') :
    Disk.ChangesOnly [temporary path] d d' := by
  rcases h with rfl | ⟨text, h⟩
  · exact .refl _ d'
  · obtain ⟨lt, _, hchanges, _⟩ := h.lookup?_eq
    exact hchanges

/-- The path name leads to the location, if it leads anywhere. -/
def LeadsTo (d : Disk) (path : String) (l : Location) : Prop :=
  ∀ l', d.locate path = .ok l' → l' = l

/-- The file at the location is the catalog of the update, and none of its other files. -/
structure WorksOn (r : UpdateRequest) (d : Disk) (l : Location) : Prop where
  current : ∀ p, r.currentFile = some p → LeadsTo d p l
  updated : ∀ p, r.updatedFile = some p → LeadsTo d p l
  aside : ∀ p ∈ ownFiles r.snapshotFile ++ ownFiles r.coordFile, d.locate p ≠ .ok l

/-- Path names lead to the same places after any changes of files. -/
theorem WorksOn.of_changesOnly {r : UpdateRequest} {d d' : Disk} {l : Location}
    (h : WorksOn r d l) {paths : List String} (hc : Disk.ChangesOnly paths d d') :
    WorksOn r d' l where
  current p hp l' hl' := h.current p hp l' (hc.locate.1 hl')
  updated p hp l' hl' := h.updated p hp l' (hc.locate.1 hl')
  aside p hp hl := h.aside p hp (hc.locate.1 hl)

section OneUpdate

variable {s : Settings} {r : UpdateRequest} {d : Disk} {l : Location} {c : Course}

theorem WorksOn.target (hw : WorksOn r d l) {p : String}
    (h : r.updatedFile.or r.currentFile = some p) : LeadsTo d p l := by
  cases hu : r.updatedFile with
  | some q =>
    rw [hu] at h
    cases h
    exact hw.updated _ hu
  | none =>
    rw [hu] at h
    exact hw.current _ h

/-! ## 2. Before the catalog is written -/

/-- The snapshot file is not the catalog. -/
theorem lookup?_saved (hw : WorksOn r d l) {text : String} {d₁ : Disk}
    (h : Saves d r.snapshotFile text d₁) : d₁.lookup? l = d.lookup? l :=
  (saves_changesOnly h).kept l fun p hp => hw.aside p (List.mem_append_left _ hp)

/-- The previous catalog is the one that the file held. -/
theorem previous_of_file (hw : WorksOn r d l) {i : Inputs} (hi : Gathered s r d i)
    (hcurrent : r.currentFile.isSome = true) {text : String}
    (hfile : d.lookup? l = some (.file (.text text))) :
    ∃ previous, Catalog.parse text = .ok previous ∧ i.previous = some previous := by
  obtain ⟨path, hpath⟩ := Option.isSome_iff_exists.1 hcurrent
  have hprevious := hi.previous
  rw [hpath] at hprevious
  obtain ⟨text', previous, hread, hparse, hi⟩ := hprevious
  obtain ⟨l', hl', hfile'⟩ := Disk.read_eq_ok.1 hread
  rw [hw.current path hpath l' hl', hfile] at hfile'
  cases hfile'
  exact ⟨previous, hparse, hi⟩

/-! ## 3. After the catalog is written -/

theorem lookup?_written (hw : WorksOn r d l) (hc : c.Wrote s r d) :
    c.written.lookup? l = some (.file (.text c.text)) := by
  obtain ⟨l', lt, hwritable, _, hlookup⟩ := hc.written.lookup?_eq
  have hl' := (saves_changesOnly hc.saved).locate.1 hwritable.locate
  rw [hlookup, if_pos (hw.target hc.target l' hl')]

/-- The places of a path name are the same before and after the catalog is written. -/
theorem Course.Wrote.changesOnly (hc : c.Wrote s r d) : Disk.ChangesOnly
    (ownFiles r.snapshotFile ++ [temporary c.target, c.target]) d c.written := by
  obtain ⟨_, _, _, hchanges, _⟩ := hc.written.lookup?_eq
  exact (saves_changesOnly hc.saved).trans hchanges

/-- **The catalog is there to the end**: the listing goes to another file. -/
theorem lookup?_of_listed (hw : WorksOn r d l) (hc : c.Listed s r d) :
    c.final.lookup? l = some (.file (.text c.text)) := by
  rw [(saves_changesOnly hc.final).kept l fun p hp hl => hw.aside p (List.mem_append_right _ hp)
    (hc.changesOnly.locate.1 hl)]
  exact lookup?_written hw hc.toWrote

/-! ## 4. The next catalog -/

/-- **The next catalog is always valid and consistent**: a previous one was read from a text that
    was accepted, and without one the catalog is fresh. -/
theorem sound_of_previous {file : Option String} (h : PreviousIs d file c.inputs.previous) :
    (c.next s).Valid ∧ (c.next s).Consistent := by
  simp only [Course.next, Course.reconciled]
  cases hp : c.inputs.previous with
  | none => exact ⟨valid_fresh _ _, consistent_fresh _ _⟩
  | some previous =>
    rw [hp] at h
    have hsound : previous.Valid ∧ previous.Consistent := by
      cases file with
      | none => cases h
      | some path =>
        obtain ⟨text, c', _, hparse, hc'⟩ := h
        cases hc'
        exact sound_of_parse hparse
    exact ⟨valid_merge hsound.1 _ _, consistent_merge hsound.1 hsound.2 _ _⟩

theorem sound_next (hi : Gathered s r d c.inputs) :
    (c.next s).Valid ∧ (c.next s).Consistent :=
  sound_of_previous hi.previous

/-- The text that is written reads as the next catalog. -/
theorem parse_text (hc : c.Wrote s r d) : Catalog.parse c.text = .ok (c.next s) :=
  parse_render (sound_next hc.inputs).1 hc.rendered

/-! ## 5. Updates that stop -/

theorem lookup?_of_spared {path : String} {d' : Disk} (h : Spared d path d')
    (hl : LeadsTo d path l) : d'.lookup? l = d.lookup? l := by
  refine (spared_changesOnly h).kept l ?_
  intro p hp htmp
  obtain rfl := List.mem_singleton.1 hp
  obtain ⟨l', hl'⟩ := Disk.locate_of_temporary htmp
  exact Disk.locate_temporary_ne hl' htmp (hl l' hl').symm

/-- A file that is not the catalog is no reason for the catalog to change. -/
theorem lookup?_of_spared_aside {path : String} {d' : Disk} (h : Spared d path d')
    (hl : d.locate (temporary path) ≠ .ok l) : d'.lookup? l = d.lookup? l := by
  refine (spared_changesOnly h).kept l ?_
  intro p hp
  obtain rfl := List.mem_singleton.1 hp
  exact hl

theorem temporary_mem_ownFiles {file : Option String} {path : String} (h : file = some path) :
    temporary path ∈ ownFiles file := by
  subst h
  exact List.mem_cons_self

/-- **An update that stops** leaves the file as it was, or with the whole next catalog. -/
theorem file_of_stops (hw : WorksOn r d l) {e : Abort} {d' : Disk} (h : Stops s r d e d') :
    d'.lookup? l = d.lookup? l ∨
      ∃ c : Course, c.Wrote s r d ∧ d'.lookup? l = some (.file (.text c.text)) := by
  cases h with
  | target absent => exact .inl rfl
  | inputs unread => exact .inl rfl
  | snapshot file unwritten spared =>
    exact .inl (lookup?_of_spared_aside spared
      (hw.aside _ (List.mem_append_left _ (temporary_mem_ownFiles file))))
  | stations inputs saved failure => exact .inl (lookup?_saved hw saved)
  | render prepared render => exact .inl (lookup?_saved hw prepared.saved)
  | catalog prepared unwritten spared =>
    left
    have hchanges := saves_changesOnly prepared.saved
    rw [lookup?_of_spared spared, lookup?_saved hw prepared.saved]
    intro l' hl'
    exact hw.target prepared.target l' (hchanges.locate.1 hl')
  | coordinates wrote file coordinates => exact .inr ⟨_, wrote, lookup?_written hw wrote⟩
  | listing wrote file unwritten spared =>
    refine .inr ⟨_, wrote, ?_⟩
    rw [lookup?_of_spared_aside spared]
    · exact lookup?_written hw wrote
    · intro hl
      exact hw.aside _ (List.mem_append_right _ (temporary_mem_ownFiles file))
        (wrote.changesOnly.locate.1 hl)
  | reread listed unread => exact .inr ⟨_, listed.toWrote, lookup?_of_listed hw listed⟩
  | verification listed read verify =>
    exact .inr ⟨_, listed.toWrote, lookup?_of_listed hw listed⟩

/-- **No verification fails.** What is read back is what was written. -/
theorem not_verification (hw : WorksOn r d l) {e : VerifyError} {d' : Disk} :
    ¬ Stops s r d (.update (.verification e)) d' := by
  intro h
  cases h with
  | inputs unread =>
    cases unread with
    | stations unsupplied => cases unsupplied
  | snapshot file unwritten spared => obtain ⟨_, _, ⟨⟩, _⟩ := unwritten
  | stations inputs saved failure => rcases failure with ⟨_, hf⟩ | ⟨_, hf⟩ <;> cases hf
  | catalog prepared unwritten spared => obtain ⟨_, _, ⟨⟩, _⟩ := unwritten
  | listing wrote file unwritten spared => obtain ⟨_, _, ⟨⟩, _⟩ := unwritten
  | @verification c text _ listed read verify =>
    obtain ⟨l', hl', hfile⟩ := Disk.read_eq_ok.1 read
    have hl'' := listed.changesOnly.locate.1 ((saves_changesOnly listed.final).locate.1 hl')
    rw [hw.target listed.target l' hl'', lookup?_of_listed hw listed] at hfile
    cases hfile
    rw [verify_render (sound_next listed.inputs).1 listed.rendered] at verify
    cases verify

/-- **An error about a catalog is about the current one.** A next catalog always has a text. -/
theorem current_of_catalog {e : CatalogError} {d' : Disk}
    (h : Stops s r d (.update (.catalog e)) d') : d' = d ∧ ∃ path text,
      r.currentFile = some path ∧ d.read path = .ok (.text text) ∧
        Catalog.parse text = .error e := by
  cases h with
  | inputs unread =>
    cases unread with
    | catalog current read parse => exact ⟨rfl, _, _, current, read, parse⟩
    | stations unsupplied => cases unsupplied
  | snapshot file unwritten spared => obtain ⟨_, _, ⟨⟩, _⟩ := unwritten
  | stations inputs saved failure => rcases failure with ⟨_, hf⟩ | ⟨_, hf⟩ <;> cases hf
  | catalog prepared unwritten spared => obtain ⟨_, _, ⟨⟩, _⟩ := unwritten
  | listing wrote file unwritten spared => obtain ⟨_, _, ⟨⟩, _⟩ := unwritten
  | render prepared render =>
    obtain ⟨text, htext⟩ := exists_render (sound_next prepared.inputs).2 r.format
    rw [htext] at render
    cases render

end OneUpdate

end RadarCatalog.Command
