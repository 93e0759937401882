import RadarCatalog.Proofs.Catalog.Histories
import RadarCatalog.Proofs.Command.Courses

/-!
# Successful updates of one catalog file, one after the other

A history is any number of updates that succeed and work on the same file, each with settings, a
request and input files of its own. Between two updates anything may happen, as long as the catalog
file is left alone.

The catalog passes through a text between any two updates. What the file holds at the end has a
closed form all the same: `history_closed_form`.
-/

namespace RadarCatalog.Command

open RadarCatalog.Catalog RadarCatalog.Files RadarCatalog.Registry RadarCatalog.Update

/-! ## 1. Histories -/

/-- What an update goes by besides the catalog, when it starts in this world: the canonical stations
    of the values that are loaded for it, and its allow-list. -/
def SourcesOf (load : Task (StateM World) (List Json.Value)) (s : Settings) (r : UpdateRequest)
    (w : World) (src : Sources) : Prop :=
  ∃ i w₁ canonical, Runs (gatherFrom load s r) w i w₁ ∧
    canonicalOf s.policy i.stations = .ok canonical ∧ src = ⟨canonical.stations, i.allow⟩

/-- A successful update of the catalog at a location. -/
structure Revises (l : Location) (src : Sources) (f : Format) (w w' : World) : Prop where
  run : ∃ (load : Task (StateM World) (List Json.Value)) (s : Settings) (r : UpdateRequest),
    Supplies load r.inputFile ∧ r.currentFile.isSome = true ∧ WorksOn r w.disk l ∧
      SourcesOf load s r w src ∧ f = r.format ∧ Runs (updateFrom load s r) w () w'

/-- Successful updates of the catalog at a location, in order. -/
inductive History (l : Location) : List (Sources × Format) → World → World → Prop where
  | rest {w w' : World} (kept : w'.disk.lookup? l = w.disk.lookup? l) : History l [] w w'
  | step {src : Sources} {f : Format} {runs : List (Sources × Format)} {w w₁ w₂ w' : World}
      (kept : w₁.disk.lookup? l = w.disk.lookup? l) (first : Revises l src f w₁ w₂)
      (rest : History l runs w₂ w') : History l ((src, f) :: runs) w w'

/-! ## 2. One update -/

/-- **A successful update** leaves the text of the merged catalog. -/
theorem text_of_revises {l : Location} {src : Sources} {f : Format} {w w' : World}
    (h : Revises l src f w w') {text : String} {c : Catalog}
    (hfile : w.disk.lookup? l = some (.file (.text text))) (hparse : Catalog.parse text = .ok c) :
    ∃ text', w'.disk.lookup? l = some (.file (.text text')) ∧
      (merge src.stations c src.allow).catalog.render f = .ok text' := by
  obtain ⟨load, s, r, hload, hcurrent, hw, ⟨i, w₁, canonical, hgather, hcanonical, rfl⟩, rfl, hrun⟩ :=
    h.run
  obtain ⟨course, _, hgather', hcourse, hdisk⟩ := course_of_runs hload hrun
  obtain ⟨rfl, _⟩ := hgather'.unique hgather
  obtain rfl : canonical = course.canonical :=
    Except.ok.inj (hcanonical.symm.trans hcourse.canonical)
  obtain ⟨previous, hprevious, hinput⟩ := previous_of_file hw hcourse.inputs hcurrent hfile
  rw [hparse] at hprevious
  cases hprevious
  rw [hdisk]
  refine ⟨course.text, lookup?_of_listed hw hcourse.toListed, ?_⟩
  have hrendered := hcourse.rendered
  simp only [Course.next, Course.reconciled, hinput, reconcile] at hrendered
  exact hrendered

/-- An update that runs along a course revises the file with the stations of the course. -/
theorem revises_of_gone {web : Web (StateM World)} {l : Location} {c : Course} {s : Settings}
    {r : UpdateRequest} {w w' : World} (hweb : r.inputFile = none → web.Still)
    (hcurrent : r.currentFile.isSome = true) (hw : WorksOn r w.disk l)
    (h : c.Gone web s r w w') :
    Revises l ⟨c.canonical.stations, c.inputs.allow⟩ r.format w w' := by
  obtain ⟨w₁, hgather⟩ := h.gathered
  exact ⟨loadStations web s r, s, r, supplies_loadStations hweb, hcurrent, hw,
    ⟨c.inputs, w₁, c.canonical, hgather, h.course.canonical, rfl⟩, rfl, h.runs⟩

/-! ## 3. Any number of updates -/

/-- The layout of the last update. -/
def lastFormat : List (Sources × Format) → Format → Format
  | [], f => f
  | (_, f) :: runs, _ => lastFormat runs f

/-- After some updates the file is a rendering of the catalog after as many merges. -/
theorem text_of_history {l : Location} {runs : List (Sources × Format)} {w w' : World}
    (h : History l runs w w') : ∀ {text : String} {c : Catalog} {f : Format},
      w.disk.lookup? l = some (.file (.text text)) → c.Valid → c.render f = .ok text →
      ∃ text', w'.disk.lookup? l = some (.file (.text text')) ∧
        (mergeAll c (runs.map Prod.fst)).render (lastFormat runs f) = .ok text' := by
  induction h with
  | rest kept =>
    intro text c f hfile _ hrender
    exact ⟨text, kept.trans hfile, hrender⟩
  | @step src f' runs w w₁ w₂ w' kept first rest ih =>
    intro text c f hfile hvalid hrender
    obtain ⟨text₁, hfile₁, hrender₁⟩ :=
      text_of_revises first (kept.trans hfile) (parse_render hvalid hrender)
    exact ih hfile₁ (valid_merge hvalid _ _) hrender₁

/-- **The closed form of any history of updates.** The file holds a catalog with the records of the
    first text in their order, and in each of them what the last merge that had a say left: the
    position is of the last one that knew the station and might move it, the elevation of the last
    one that knew it, and all else is as in the first text. -/
theorem history_closed_form {l : Location} {runs : List (Sources × Format)} {w w' : World}
    {text : String} {c : Catalog} (h : History l runs w w') (hne : runs ≠ [])
    (hfile : w.disk.lookup? l = some (.file (.text text))) (hparse : Catalog.parse text = .ok c) :
    ∃ text' c', w'.disk.lookup? l = some (.file (.text text')) ∧ Catalog.parse text' = .ok c' ∧
      c'.ids = c.ids ∧ List.Forall₂ (Settled (runs.map Prod.fst)) c.records c'.records ∧
      c'.render (lastFormat runs .aligned) = .ok text' := by
  have hvalid : c.Valid := (sound_of_parse hparse).1
  cases h with
  | rest kept => exact absurd rfl hne
  | @step src f runs w w₁ w₂ w' kept first rest =>
    obtain ⟨text₁, hfile₁, hrender₁⟩ := text_of_revises first (kept.trans hfile) hparse
    have hvalid₁ := valid_merge hvalid src.stations src.allow
    obtain ⟨text', hfile', hrender'⟩ := text_of_history rest hfile₁ hvalid₁ hrender₁
    have hsettled := settled_mergeAll (src :: runs.map Prod.fst) hvalid (List.cons_ne_nil _ _)
    have hvalid' : (mergeAll c (src :: runs.map Prod.fst)).Valid := by
      exact valid_mergeAll hvalid _
    exact ⟨text', _, hfile', parse_render hvalid' hrender', ids_mergeAll hsettled, hsettled,
      hrender'⟩

theorem worksOn_moving : WorksOn movingRequest exampleDisk ["sites"] where
  current := by
    intro p hp l hl
    cases hp
    cases hl
    rfl
  updated := by
    intro p hp
    cases hp
  aside := by decide

theorem worksOn_live : WorksOn liveRequest exampleDisk ["sites"] :=
  ⟨worksOn_moving.current, worksOn_moving.updated, worksOn_moving.aside⟩

/-- Two updates of one file, the second on the text of the first. The first one has its stations from
    a snapshot and may move `A` alone; the second one has them from the registry and may move `B`
    alone. So `A` stands where the first one put it and `B` where the second one did, and both
    elevations are of the second one. -/
theorem history_closed_form_example : ∃ (first second : Sources) (w' : World) (text' : String)
    (c' : Catalog),
    History ["sites"] [(first, .aligned), (second, .aligned)] ⟨exampleDisk, [], ""⟩ w' ∧
      (∀ id, allows first.allow id = decide (id = "A")) ∧
      (∀ id, allows second.allow id = decide (id = "B")) ∧
      first.stations.toList =
        [stationAt "A" "1.5" "-2.5" "100", stationAt "B" "3.5" "4.5" "200"] ∧
      second.stations.toList =
        [stationAt "A" "5.5" "6.5" "300", stationAt "B" "7.5" "8.5" "400"] ∧
      w'.disk.lookup? ["sites"] = some (.file (.text text')) ∧ Catalog.parse text' = .ok c' ∧
      c'.records.map (fun r => (r.id, r.place)) =
        [("A", [decimalField "1.5", decimalField "-2.5", decimalField "300"]),
          ("B", [decimalField "7.5", decimalField "8.5", decimalField "400"])] := by
  obtain ⟨c₁, w₁, hgone₁, htarget₁, hallow₁, hcoherent₁, hstations₁, hnext₁, _⟩ :=
    exists_run_example .absent
  -- what the second update finds
  have hchanges := hgone₁.course.toListed.changesOnly
  have hcatalog := hgone₁.course.toListed.holds (by rw [htarget₁]; exact clear_moving.apart)
  rw [htarget₁] at hchanges hcatalog
  rw [← hgone₁.final] at hchanges hcatalog
  have hparse₁ := parse_text hgone₁.course.toWrote
  rw [hnext₁] at hparse₁
  have hother : w₁.disk.read "other" = .ok (.text "id,by\nB,HOMR\n") :=
    hchanges.read (by decide) rfl
  obtain ⟨c₂, w₂, hgone₂, _, hallow₂, hcoherent₂, hstations₂, _⟩ :=
    exists_live_run_example (clear_live.of_changesOnly hchanges) hcatalog.read hparse₁ hother
      "1.5N 2.5W\n7.5N 8.5E\n" (by decide +kernel)
  -- the history
  have hrevises₁ := revises_of_gone (still_of_input rfl) rfl worksOn_moving hgone₁
  have hrevises₂ := revises_of_gone (fun _ => Web.still_steady _) rfl
    (worksOn_live.of_changesOnly hchanges) hgone₂
  have hhistory := History.step rfl hrevises₁ (.step rfl hrevises₂ (.rest rfl))
  obtain ⟨text', c', hfile, hparse, _, hsettled, _⟩ :=
    history_closed_form hhistory (List.cons_ne_nil _ _) rfl parse_exampleText
  have hallows₁ : ∀ id, allows c₁.inputs.allow id = decide (id = "A") := by
    intro id
    simp [hallow₁, allows_ofList]
  have hallows₂ : ∀ id, allows c₂.inputs.allow id = decide (id = "B") := by
    intro id
    simp [hallow₂, allows_ofList]
  refine ⟨_, _, w₂, text', c', hhistory, hallows₁, hallows₂, hstations₁, hstations₂, hfile, hparse,
    ?_⟩
  -- who has a say on which station
  have hA₁ : c₁.canonical.stations.get? "A" = some (stationAt "A" "1.5" "-2.5" "100") := by
    rw [hcoherent₁.get?, hstations₁]
    rfl
  have hA₂ : c₂.canonical.stations.get? "A" = some (stationAt "A" "5.5" "6.5" "300") := by
    rw [hcoherent₂.get?, hstations₂]
    rfl
  have hB₂ : c₂.canonical.stations.get? "B" = some (stationAt "B" "7.5" "8.5" "400") := by
    rw [hcoherent₂.get?, hstations₂]
    rfl
  generalize c'.records = records at hsettled
  obtain _ | ⟨hA, _ | ⟨hB, ⟨⟩⟩⟩ := hsettled
  simp [Record.place, hA.id, hA.lat, hA.lon, hA.elevation, hB.id, hB.lat, hB.lon, hB.elevation,
    recordAt, stationAt, decimalField, lastMover, lastKnown, mover, hallows₁, hallows₂, hA₁, hA₂,
    hB₂]

end RadarCatalog.Command
