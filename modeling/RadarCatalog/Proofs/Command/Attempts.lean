import RadarCatalog.Proofs.Command.Courses

/-!
# Updates of one catalog file that may fail

Attempts at updating the same file, each with settings, a request and input files of its own, and
with station values from a file or from the registry: a merge where the file is there, and a fresh
catalog where it is not. An attempt may fail anywhere.

The program never falls over its own output. A file that was accepted once, or was not there, is
accepted after every attempt that wrote it; one that was rejected is left as it is
(`attempts_safe`).
-/

namespace RadarCatalog.Command

open RadarCatalog.Catalog RadarCatalog.Files RadarCatalog.Registry RadarCatalog.Update

/-! ## 1. Attempts -/

/-- An attempt at updating the file at a location, and how it ends. -/
structure Attempt (l : Location) (x : Except Abort Unit) (w w' : World) : Prop where
  run : ∃ (load : Task (StateM World) (List Json.Value)) (s : Settings) (r : UpdateRequest),
    Supplies load r.inputFile ∧ r.currentFile.isSome = (w.disk.lookup? l).isSome ∧
      WorksOn r w.disk l ∧
      (ExceptT.run (updateFrom load s r) w : Except Abort Unit × World) = (x, w')

/-- Attempts in order, between which the file is left alone. -/
inductive Attempts (l : Location) : List (Except Abort Unit) → World → World → Prop where
  | rest {w w' : World} (kept : w'.disk.lookup? l = w.disk.lookup? l) : Attempts l [] w w'
  | step {x : Except Abort Unit} {xs : List (Except Abort Unit)} {w w₁ w₂ w' : World}
      (kept : w₁.disk.lookup? l = w.disk.lookup? l) (first : Attempt l x w₁ w₂)
      (rest : Attempts l xs w₂ w') : Attempts l (x :: xs) w w'

/-- The file holds a text that is accepted. -/
def Accepts (l : Location) (w : World) : Prop :=
  ∃ text c, w.disk.lookup? l = some (.file (.text text)) ∧ Catalog.parse text = .ok c

/-- The file holds a text that is rejected. -/
def Rejects (l : Location) (e : CatalogError) (w : World) : Prop :=
  ∃ text, w.disk.lookup? l = some (.file (.text text)) ∧ Catalog.parse text = .error e

/-! ## 2. One attempt -/

section Attempt

variable {l : Location} {x : Except Abort Unit} {w w' : World} (h : Attempt l x w w')
include h

/-- Every attempt leaves the file as it was, or a whole catalog that is accepted. -/
theorem kept_or_accepts : (w'.disk.lookup? l = w.disk.lookup? l ∧ x ≠ .ok ()) ∨ Accepts l w' := by
  obtain ⟨load, s, r, hload, _, hw, hrun⟩ := h.run
  cases x with
  | ok u =>
    obtain ⟨c, _, _, hc, hdisk⟩ := course_of_runs hload hrun
    right
    rw [Accepts, hdisk]
    exact ⟨c.text, _, lookup?_of_listed hw hc.toListed, parse_text hc.toWrote⟩
  | error e =>
    rcases file_of_stops hw (stops_of_fails hload hrun) with hkept | ⟨c, hc, hfile⟩
    · exact .inl ⟨hkept, nofun⟩
    · exact .inr ⟨c.text, _, hfile, parse_text hc⟩

/-- An attempt on a file that is rejected leaves it as it was. -/
theorem kept_of_rejects {e : CatalogError} (hr : Rejects l e w) :
    w'.disk.lookup? l = w.disk.lookup? l := by
  obtain ⟨text, hfile, hparse⟩ := hr
  obtain ⟨load, s, r, hload, hcurrent, hw, hrun⟩ := h.run
  rw [hfile] at hcurrent
  have hunread : ∀ i, ¬ Gathered s r w.disk i := by
    intro i hi
    obtain ⟨previous, hprevious, _⟩ := previous_of_file hw hi hcurrent hfile
    rw [hparse] at hprevious
    cases hprevious
  cases x with
  | ok u =>
    obtain ⟨c, _, _, hc, _⟩ := course_of_runs hload hrun
    exact absurd hc.inputs (hunread _)
  | error e' =>
    rcases file_of_stops hw (stops_of_fails hload hrun) with hkept | ⟨c, hc, _⟩
    · exact hkept
    · exact absurd hc.inputs (hunread _)

theorem attempt_not_verification (e : VerifyError) : x ≠ .error (.update (.verification e)) := by
  rintro rfl
  obtain ⟨load, s, r, hload, _, hw, hrun⟩ := h.run
  exact not_verification hw (stops_of_fails hload hrun)

/-- An error about a catalog is the error of the file. -/
theorem rejects_of_catalog {e : CatalogError} (hx : x = .error (.update (.catalog e))) :
    Rejects l e w := by
  subst hx
  obtain ⟨load, s, r, hload, hcurrent, hw, hrun⟩ := h.run
  obtain ⟨_, path, text, hpath, hread, hparse⟩ := current_of_catalog (stops_of_fails hload hrun)
  obtain ⟨l', hl', hfile'⟩ := Disk.read_eq_ok.1 hread
  obtain rfl := hw.current path hpath l' hl'
  exact ⟨text, hfile', hparse⟩

end Attempt

/-! ## 3. Any number of attempts -/

theorem Rejects.congr {l : Location} {e : CatalogError} {w w' : World}
    (h : w'.disk.lookup? l = w.disk.lookup? l) : Rejects l e w' ↔ Rejects l e w := by
  simp only [Rejects, h]

theorem Accepts.not_rejects {l : Location} {w : World} (h : Accepts l w) (e : CatalogError) :
    ¬ Rejects l e w := by
  intro h
  obtain ⟨text, hfile, hparse⟩ := h
  obtain ⟨text', c, hfile', hparse'⟩ := h
  rw [hfile] at hfile'
  cases hfile'
  rw [hparse] at hparse'
  cases hparse'

section Attempts

variable {l : Location} {xs : List (Except Abort Unit)} {w w' : World}

theorem attempts_not_verification (h : Attempts l xs w w') :
    ∀ x ∈ xs, ∀ e, x ≠ .error (.update (.verification e)) := by
  induction h with
  | rest kept => exact fun x hx => absurd hx List.not_mem_nil
  | step kept first rest ih =>
    intro x hx
    rcases List.mem_cons.1 hx with rfl | hx
    · exact attempt_not_verification first
    · exact ih x hx

/-- A file that is rejected is never changed. -/
theorem kept_of_attempts {e : CatalogError} (h : Attempts l xs w w') (hr : Rejects l e w) :
    w'.disk.lookup? l = w.disk.lookup? l := by
  induction h with
  | rest kept => exact kept
  | step kept first rest ih =>
    have hr₁ := (Rejects.congr kept).2 hr
    have hkept := (kept_of_rejects first hr₁).trans kept
    exact (ih ((Rejects.congr hkept).2 hr)).trans hkept

/-- A file that is accepted stays so, and no attempt blames its catalog. -/
theorem accepts_of_attempts (h : Attempts l xs w w') (ha : Accepts l w) :
    Accepts l w' ∧ ∀ x ∈ xs, ∀ e, x ≠ .error (.update (.catalog e)) := by
  induction h with
  | rest kept =>
    refine ⟨?_, fun x hx => absurd hx List.not_mem_nil⟩
    simpa only [Accepts, kept] using ha
  | @step x₀ xs w w₁ w₂ w' kept first rest ih =>
    have ha₁ : Accepts l w₁ := by simpa only [Accepts, kept] using ha
    have ha₂ : Accepts l w₂ := by
      rcases kept_or_accepts first with ⟨hkept, _⟩ | ha₂
      · simpa only [Accepts, hkept] using ha₁
      · exact ha₂
    refine ⟨(ih ha₂).1, ?_⟩
    intro x hx e he
    rcases List.mem_cons.1 hx with rfl | hx
    · exact ha₁.not_rejects e (rejects_of_catalog first he)
    · exact (ih ha₂).2 x hx e he

/-- An attempt that blames the catalog blames the text of the start. -/
theorem rejects_of_attempts (h : Attempts l xs w w') : ∀ x ∈ xs, ∀ e,
    x = .error (.update (.catalog e)) → Rejects l e w := by
  induction h with
  | rest kept => exact fun x hx => absurd hx List.not_mem_nil
  | step kept first rest ih =>
    intro x hx e he
    rcases List.mem_cons.1 hx with rfl | hx
    · exact (Rejects.congr kept).1 (rejects_of_catalog first he)
    · rcases kept_or_accepts first with ⟨hkept, _⟩ | ha₂
      · exact (Rejects.congr (hkept.trans kept)).1 (ih x hx e he)
      · exact absurd he ((accepts_of_attempts rest ha₂).2 x hx e)

/-- A file that is absent at first is absent only as long as no attempt has succeeded. -/
theorem absent_or_accepts (h : Attempts l xs w w') (habsent : w.disk.lookup? l = none) :
    (w'.disk.lookup? l = none ∧ ∀ x ∈ xs, x ≠ .ok ()) ∨ Accepts l w' := by
  induction h with
  | rest kept => exact .inl ⟨kept.trans habsent, fun x hx => absurd hx List.not_mem_nil⟩
  | step kept first rest ih =>
    rcases kept_or_accepts first with ⟨hkept, hfailed⟩ | ha₂
    · rcases ih ((hkept.trans kept).trans habsent) with ⟨hnone, hall⟩ | ha
      · exact .inl ⟨hnone, List.forall_mem_cons.2 ⟨hfailed, hall⟩⟩
      · exact .inr ha
    · exact .inr (accepts_of_attempts rest ha₂).1

end Attempts

/-- **The program never falls over its own output.** Whatever the file is at first, absent or any
    text: no attempt fails its verification; an attempt is stopped by a catalog only if the first
    text is rejected for the same reason, and then the file is never changed; and otherwise the file
    is accepted after every attempt, or still absent while none has succeeded. A merge of a
    consistent catalog and a fresh catalog are consistent. -/
theorem attempts_safe {l : Location} {xs : List (Except Abort Unit)} {w w' : World}
    (h : Attempts l xs w w')
    (hstart : w.disk.lookup? l = none ∨ ∃ text, w.disk.lookup? l = some (.file (.text text))) :
    (∀ x ∈ xs, ∀ e, x ≠ .error (.update (.verification e))) ∧
      (∀ x ∈ xs, ∀ e, x = .error (.update (.catalog e)) → Rejects l e w) ∧
      (∀ e, Rejects l e w → w'.disk.lookup? l = w.disk.lookup? l) ∧
      ((∀ e, ¬ Rejects l e w) →
        (w.disk.lookup? l = none ∧ w'.disk.lookup? l = none ∧ ∀ x ∈ xs, x ≠ .ok ()) ∨
          Accepts l w') ∧
      (∀ (stations : Stations) (c : Catalog) (allow : Option AllowList) (keys : List String),
        (∀ r ∈ c.records, r.Accepted) → c.schema = .ok keys →
          ∃ keys', (merge stations c allow).catalog.schema = .ok keys') ∧
      ∀ (stations : Stations) (types : List (String × String)),
        ∃ keys, (fresh stations types).schema = .ok keys := by
  refine ⟨attempts_not_verification h, rejects_of_attempts h, fun e he => kept_of_attempts h he,
    ?_, ?_, ?_⟩
  · intro hnot
    rcases hstart with habsent | ⟨text, hfile⟩
    · rcases absent_or_accepts h habsent with ⟨hnone, hall⟩ | ha
      · exact .inl ⟨habsent, hnone, hall⟩
      · exact .inr ha
    · cases hparse : Catalog.parse text with
      | error e => exact absurd ⟨text, hfile, hparse⟩ (hnot e)
      | ok c => exact .inr (accepts_of_attempts h ⟨text, c, hfile, hparse⟩).1
  · intro stations c allow keys haccepted hschema
    have hvalid : c.Valid := fun r hr => Record.accepted_iff_valid.1 (haccepted r hr)
    exact consistent_iff.1 (consistent_merge hvalid (consistent_iff.2 ⟨keys, hschema⟩) _ _)
  · intro stations types
    exact consistent_iff.1 (consistent_fresh stations types)

/-! ## 4. A fresh start, a failure, and an update of its own text -/

/-- The snapshot and the lists, without a catalog. -/
def startDisk : Disk := { exampleDisk with entries := exampleDisk.entries.drop 1 }

/-- A fresh catalog from the snapshot. -/
def startRequest : UpdateRequest :=
  { exampleRequest with currentFile := none, updatedFile := some "sites" }

/-- An update in place from a registry that has no time. -/
def busyRequest : UpdateRequest := { exampleRequest with inputFile := none }

def busyAnswer : Answer := ⟨503, "503 Service Unavailable", "try later"⟩

def busyWeb : Web (StateM World) := .steady fun _ => .ok busyAnswer

/-- An update in place from the snapshot. -/
def againRequest : UpdateRequest := { exampleRequest with allowFile := some "first" }

theorem clear_again : Clear againRequest "sites" startDisk where
  given := rfl
  apart := by decide
  writable := by
    intro path hpath
    obtain rfl : path = "sites" := List.mem_singleton.1 hpath
    exact ⟨["sites"], ["sites.tmp"], by decide, by decide, by decide, by decide, by decide,
      by decide⟩

theorem worksOn_again : WorksOn againRequest startDisk ["sites"] where
  current := by
    intro p hp l hl
    cases hp
    cases hl
    rfl
  updated := by
    intro p hp
    cases hp
  aside := nofun

/-- The registry has no time, and the update fails for it. -/
theorem fails_busy {w : World} {text : String} {c : Catalog}
    (hsites : w.disk.read "sites" = .ok (.text text)) (hparse : Catalog.parse text = .ok c) :
    ∃ w', Fails (update busyWeb .standard busyRequest) w (.search (.refused "NEXRAD" busyAnswer))
      w' ∧ w'.disk = w.disk := by
  let i : Inputs := ⟨some c, none, []⟩
  have hprevious : PreviousIs w.disk busyRequest.currentFile i.previous :=
    ⟨text, c, hsites, hparse, rfl⟩
  have hallow : AllowIs Settings.standard.sentinel w.disk busyRequest.allowFile i.allow := rfl
  have hfetch : Fails (loadStations busyWeb .standard busyRequest)
      (w.logged (readLog busyRequest i)) (.search (.refused "NEXRAD" busyAnswer)) _ :=
    fails_fetchStations_steady.2 ⟨[], "NEXRAD", ["TDWR"], [], _, rfl, .nil, rfl, rfl, rfl⟩
  exact ⟨_, fails_updateFrom_of_gather rfl (fails_gatherFrom_of_load hprevious hallow hfetch), rfl⟩

/-- The update from the snapshot runs to its end, whatever the catalog is. -/
theorem exists_again {w : World} {text : String} {previous : Catalog}
    (hclear : Clear againRequest "sites" w.disk)
    (hsites : w.disk.read "sites" = .ok (.text text)) (hparse : Catalog.parse text = .ok previous)
    (hread : w.disk.read "stations" = .ok (.text exampleSnapshot))
    (hfirst : w.disk.read "first" = .ok (.text "id,by\nA,HOMR\n")) :
    ∃ (c : Course) (w' : World), c.Gone .absent .standard againRequest w w' := by
  obtain ⟨stations, canonical, hstations, hcanonical, _, _⟩ := exists_canonical_example
  let i : Inputs := ⟨some previous, some (.ofList ["A"]), stations⟩
  have hprevious : PreviousIs w.disk againRequest.currentFile i.previous :=
    ⟨text, previous, hsites, hparse, rfl⟩
  have hallow : AllowIs Settings.standard.sentinel w.disk againRequest.allowFile i.allow :=
    ⟨_, hfirst, congrArg some parse_first.symm⟩
  have hloads : Loads .absent .standard againRequest w.disk i.stations
      (stationsLog (some "stations")) := ⟨⟨_, hread, hstations⟩, rfl⟩
  obtain ⟨c, w', hgone, _⟩ := exists_run (still_of_input rfl) hclear hprevious hallow hloads
    hcanonical (by intro h; cases h)
  exact ⟨c, w', hgone⟩

/-- A fresh catalog is written. -/
theorem exists_start : ∃ (c : Course) (w : World),
    c.Gone .absent .standard startRequest ⟨startDisk, [], ""⟩ w ∧ c.target = "sites" := by
  obtain ⟨stations, canonical, hstations, hcanonical, _, _⟩ := exists_canonical_example
  let i : Inputs := ⟨none, none, stations⟩
  have hclear : Clear startRequest "sites" startDisk :=
    ⟨clear_again.given, clear_again.apart, clear_again.writable⟩
  have hprevious : PreviousIs startDisk startRequest.currentFile i.previous := rfl
  have hallow : AllowIs Settings.standard.sentinel startDisk startRequest.allowFile i.allow := rfl
  have hloads : Loads .absent .standard startRequest startDisk i.stations
      (stationsLog (some "stations")) := ⟨⟨_, rfl, hstations⟩, rfl⟩
  obtain ⟨c, w, hgone, _, _, htarget⟩ := exists_run (w := ⟨startDisk, [], ""⟩)
    (still_of_input rfl) hclear hprevious hallow hloads hcanonical (by intro h; cases h)
  exact ⟨c, w, hgone, htarget⟩

/-- A fresh catalog is written; then the registry has no time; then the catalog is updated on the text
    that the first attempt wrote. -/
theorem attempts_safe_example : ∃ w' text c,
    Attempts ["sites"] [.ok (), .error (.search (.refused "NEXRAD" busyAnswer)), .ok ()]
      ⟨startDisk, [], ""⟩ w' ∧
    w'.disk.lookup? ["sites"] = some (.file (.text text)) ∧ Catalog.parse text = .ok c := by
  have hworks : WorksOn startRequest startDisk ["sites"] :=
    ⟨worksOn_again.updated, worksOn_again.current, worksOn_again.aside⟩
  have hworks' : WorksOn busyRequest startDisk ["sites"] :=
    ⟨worksOn_again.current, worksOn_again.updated, worksOn_again.aside⟩
  -- the fresh catalog, and what it leaves to the others
  obtain ⟨c₁, w₁, hgone₁, htarget⟩ := exists_start
  have hcatalog := hgone₁.course.toListed.holds (by rw [htarget]; exact clear_again.apart)
  have hchanges := hgone₁.course.toListed.changesOnly
  have hfile := lookup?_of_listed hworks hgone₁.course.toListed
  have hparse := parse_text hgone₁.course.toWrote
  rw [htarget, ← hgone₁.final] at hcatalog hchanges
  rw [← hgone₁.final] at hfile
  have hfirst : Attempt ["sites"] (.ok ()) ⟨startDisk, [], ""⟩ w₁ :=
    ⟨_, _, startRequest, supplies_loadStations (still_of_input rfl), rfl, hworks, hgone₁.runs⟩
  -- the failure
  obtain ⟨w₂, hfails, hdisk⟩ := fails_busy hcatalog.read hparse
  have hsecond : Attempt ["sites"] (.error _) w₁ w₂ :=
    ⟨_, _, busyRequest, supplies_loadStations fun _ => Web.still_steady _, by rw [hfile]; rfl,
      hworks'.of_changesOnly hchanges, hfails⟩
  rw [← hdisk] at hcatalog hchanges hfile
  -- the update of the text that was written
  obtain ⟨c₃, w₃, hgone₃⟩ := exists_again (clear_again.of_changesOnly hchanges) hcatalog.read hparse
    (hchanges.read (by decide) rfl) (hchanges.read (by decide) rfl)
  have hthird : Attempt ["sites"] (.ok ()) w₂ w₃ :=
    ⟨_, _, againRequest, supplies_loadStations (still_of_input rfl), by rw [hfile]; rfl,
      worksOn_again.of_changesOnly hchanges, hgone₃.runs⟩
  have hattempts := Attempts.step rfl hfirst (.step rfl hsecond (.step rfl hthird (.rest rfl)))
  have habsent : (⟨startDisk, [], ""⟩ : World).disk.lookup? ["sites"] = none := rfl
  obtain ⟨_, _, _, hsafe, _, _⟩ := attempts_safe hattempts (.inl habsent)
  have hnot : ∀ e, ¬ Rejects ["sites"] e ⟨startDisk, [], ""⟩ := by
    intro e hrejects
    obtain ⟨text, htext, _⟩ := hrejects
    cases habsent.symm.trans htext
  rcases hsafe hnot with ⟨_, _, hnone⟩ | ⟨text, c, htext, haccepted⟩
  · exact absurd rfl (hnone (.ok ()) List.mem_cons_self)
  · exact ⟨w₃, text, c, hattempts, htext, haccepted⟩

end RadarCatalog.Command
