import RadarCatalog.Proofs.Command.Tasks
import RadarCatalog.Proofs.Registry.SnapshotRoundTrip

/-!
# Searches of the registry in a run

The service and the web client may answer anything, at any time. All that is asked of them is that
they leave the files of the run alone (`Web.Still`).

* `runs_fetchStations`, `fails_fetchStations`: a search that gives stations gives such as came in,
  and one that gives none has an error of its own; the disk is the same in both cases.
* `Web.steady` is a web that answers a request in the same way each time. What a search does with it
  is known to the last entry of the log (`runs_fetchStations_steady`, `fails_fetchStations_steady`).
-/

namespace RadarCatalog.Update

open RadarCatalog.Command RadarCatalog.Registry

/-! ## 1. Any web -/

/-- The web leaves the disk alone. -/
structure Web.Still (web : Web (StateM World)) : Prop where
  client : ∀ {agent : String} {seconds : Nat} {x : Except String Unit} {w w' : World},
    Runs (ExceptT.lift (web.client agent seconds)) w x w' → w'.disk = w.disk
  get : ∀ {q : Query} {x : Except Unanswered Answer} {w w' : World},
    Runs (ExceptT.lift (web.get q)) w x w' → w'.disk = w.disk

end RadarCatalog.Update

namespace RadarCatalog.Command

open RadarCatalog.Registry RadarCatalog.Update

/-- What is found in a reply came in as a response. -/
theorem obtained_of_reply {platform : String} {reply : Except Unanswered Answer}
    {stations : List Json.Value} (h : stationsOfReply platform reply = .ok stations) :
    Obtained stations := by
  cases reply with
  | error e => cases h
  | ok a =>
    have h : stationsOfAnswer platform a = .ok stations := h
    unfold stationsOfAnswer at h
    split at h
    · obtain ⟨body, hbody, hstations⟩ := bind_eq_ok.1 h
      exact .response (mapError_eq_ok.1 hbody) (mapError_eq_ok.1 hstations)
    · cases h

theorem obtained_nil : Obtained [] :=
  have h : readSnapshot "[]" = .ok [] := rfl
  .snapshot h

section Search

variable {web : Web (StateM World)} (hweb : web.Still) {baseUrl : String} {currentOnly : Bool}
include hweb

theorem runs_searchPlatform {platform : String} {stations : List Json.Value} {w w' : World}
    (h : Runs (searchPlatform web baseUrl currentOnly platform) w stations w') :
    w'.disk = w.disk ∧ Obtained stations := by
  obtain ⟨reply, w₁, hget, hcheck⟩ := runs_bind.1 h
  obtain ⟨hstations, rfl⟩ := runs_check.1 hcheck
  exact ⟨hweb.get hget, obtained_of_reply hstations⟩

theorem fails_searchPlatform {platform : String} {e : Abort} {w w' : World}
    (h : Fails (searchPlatform web baseUrl currentOnly platform) w e w') :
    w'.disk = w.disk ∧ ∃ se, e = .search se := by
  rcases fails_bind.1 h with hlift | ⟨reply, w₁, hget, hcheck⟩
  · exact absurd hlift not_fails_lift
  · obtain ⟨se, _, rfl, rfl⟩ := fails_check.1 hcheck
    exact ⟨hweb.get hget, se, rfl⟩

theorem runs_searchAll : ∀ {platforms : List String} {stations : List Json.Value} {w w' : World},
    Runs (searchAll web baseUrl currentOnly platforms) w stations w' →
      w'.disk = w.disk ∧ Obtained stations
  | [], stations, w, w', h => by
    obtain ⟨rfl, rfl⟩ := runs_pure.1 h
    exact ⟨rfl, obtained_nil⟩
  | platform :: platforms, stations, w, w', h => by
    obtain ⟨batch, w₁, hbatch, hrest⟩ := runs_bind.1 (runs_say_bind.1 h)
    obtain ⟨others, w₂, hothers, hpure⟩ := runs_bind.1 (runs_say_bind.1 hrest)
    obtain ⟨rfl, rfl⟩ := runs_pure.1 hpure
    obtain ⟨hdisk, hobtained⟩ := runs_searchPlatform hweb hbatch
    obtain ⟨hdisk', hobtained'⟩ := runs_searchAll hothers
    exact ⟨hdisk'.trans hdisk, hobtained.append hobtained'⟩

theorem fails_searchAll : ∀ {platforms : List String} {e : Abort} {w w' : World},
    Fails (searchAll web baseUrl currentOnly platforms) w e w' →
      w'.disk = w.disk ∧ ∃ se, e = .search se
  | [], e, w, w', h => absurd h not_fails_pure
  | platform :: platforms, e, w, w', h => by
    rcases fails_bind.1 (fails_say_bind.1 h) with hbatch | ⟨batch, w₁, hbatch, hrest⟩
    · obtain ⟨hdisk, he⟩ := fails_searchPlatform hweb hbatch
      exact ⟨hdisk, he⟩
    obtain ⟨hdisk, _⟩ := runs_searchPlatform hweb hbatch
    rcases fails_bind.1 (fails_say_bind.1 hrest) with hothers | ⟨_, _, _, hpure⟩
    · obtain ⟨hdisk', he⟩ := fails_searchAll hothers
      exact ⟨hdisk'.trans hdisk, he⟩
    · exact absurd hpure not_fails_pure

variable {s : RegistrySettings} {platforms : List String}

/-- **A search that gives stations** leaves the disk alone. -/
theorem runs_fetchStations {stations : List Json.Value} {w w' : World}
    (h : Runs (fetchStations web s platforms currentOnly) w stations w') :
    w'.disk = w.disk ∧ Obtained stations := by
  obtain ⟨x, w₁, hclient, hrest⟩ := runs_bind.1 h
  cases x with
  | error cause => exact absurd hrest not_runs_throw
  | ok u =>
    obtain ⟨hdisk, hobtained⟩ := runs_searchAll hweb hrest
    exact ⟨hdisk.trans (hweb.client hclient), hobtained⟩

/-- **A search that gives none** does so as well. -/
theorem fails_fetchStations {e : Abort} {w w' : World}
    (h : Fails (fetchStations web s platforms currentOnly) w e w') :
    w'.disk = w.disk ∧ ∃ se, e = .search se := by
  rcases fails_bind.1 h with hlift | ⟨x, w₁, hclient, hrest⟩
  · exact absurd hlift not_fails_lift
  cases x with
  | error cause =>
    obtain ⟨rfl, rfl⟩ := fails_throw.1 hrest
    exact ⟨hweb.client hclient, _, rfl⟩
  | ok u =>
    obtain ⟨hdisk, he⟩ := fails_searchAll hweb hrest
    exact ⟨hdisk.trans (hweb.client hclient), he⟩

end Search

/-! ## 2. A web that answers alike each time -/

end RadarCatalog.Command

namespace RadarCatalog.Update

open RadarCatalog.Command RadarCatalog.Registry

/-- A web with a client, and with one answer to each request whenever it is sent. -/
def Web.steady {m : Type → Type} [Monad m] (answers : Query → Except Unanswered Answer) : Web m where
  client _ _ := return .ok ()
  get q := return answers q

/-- The web has a client, and one answer to each request whenever it is sent. -/
def Web.IsSteady (web : Web (StateM World)) : Prop := ∃ answers, web = .steady answers

theorem Web.still_steady (answers : Query → Except Unanswered Answer) :
    (Web.steady (m := StateM World) answers).Still where
  client := by
    intro agent seconds x w w' h
    have h : ((.ok (), w) : Except String Unit × World) = (x, w') := runs_lift.1 h
    rw [(Prod.mk.inj h).2]
  get := by
    intro q x w w' h
    have h : ((answers q, w) : Except Unanswered Answer × World) = (x, w') := runs_lift.1 h
    rw [(Prod.mk.inj h).2]

end RadarCatalog.Update

namespace RadarCatalog.Command

open RadarCatalog.Registry RadarCatalog.Update

section Steady

variable {answers : Query → Except Unanswered Answer} {baseUrl : String} {currentOnly : Bool}

/-- The answer to the search for a platform holds these stations. -/
def Finds (answers : Query → Except Unanswered Answer) (baseUrl : String) (currentOnly : Bool)
    (platform : String) (batch : List Json.Value) : Prop :=
  stationsOfReply platform (answers (.ofPlatform baseUrl currentOnly platform)) = .ok batch

/-- What is logged on the search for a platform. -/
def searchLog (platform : String) (batch : List Json.Value) : List Log.Entry :=
  [⟨.info, "Getting " ++ platform ++ " stations"⟩,
    ⟨.debug, toString batch.length ++ " " ++ platform ++ " stations"⟩]

theorem runs_searchPlatform_steady {platform : String} {batch : List Json.Value} {w w' : World} :
    Runs (searchPlatform (Web.steady answers) baseUrl currentOnly platform) w batch w' ↔
      Finds answers baseUrl currentOnly platform batch ∧ w' = w := by
  unfold searchPlatform
  rw [runs_bind]
  constructor
  · intro h
    obtain ⟨reply, w₁, hget, hcheck⟩ := h
    have hget : ((answers (.ofPlatform baseUrl currentOnly platform), w) :
        Except Unanswered Answer × World) = (reply, w₁) := runs_lift.1 hget
    obtain ⟨rfl, rfl⟩ := Prod.mk.inj hget
    exact runs_check.1 hcheck
  · intro h
    exact ⟨_, w, runs_lift.2 rfl, runs_check.2 h⟩

/-- **The platforms are searched in order**, and what is found is put together in this order. -/
theorem runs_searchAll_steady : ∀ {platforms : List String} {stations : List Json.Value}
    {w w' : World},
    Runs (searchAll (Web.steady answers) baseUrl currentOnly platforms) w stations w' ↔
      ∃ batches, List.Forall₂ (Finds answers baseUrl currentOnly) platforms batches ∧
        stations = batches.flatten ∧ w' = w.logged (platforms.zipWith searchLog batches).flatten
  | [], stations, w, w' => by
    unfold searchAll
    rw [runs_pure]
    constructor
    · intro h
      obtain ⟨rfl, rfl⟩ := h
      exact ⟨[], .nil, rfl, (World.logged_nil _).symm⟩
    · intro h
      obtain ⟨batches, hfinds, rfl, rfl⟩ := h
      cases hfinds
      exact ⟨rfl, World.logged_nil _⟩
  | platform :: platforms, stations, w, w' => by
    unfold searchAll
    rw [runs_say_bind, runs_bind]
    constructor
    · intro h
      obtain ⟨batch, w₁, hbatch, hrest⟩ := h
      obtain ⟨hfinds, rfl⟩ := runs_searchPlatform_steady.1 hbatch
      obtain ⟨others, w₂, hothers, hpure⟩ := runs_bind.1 (runs_say_bind.1 hrest)
      obtain ⟨rfl, rfl⟩ := runs_pure.1 hpure
      obtain ⟨batches, hall, rfl, rfl⟩ := runs_searchAll_steady.1 hothers
      refine ⟨batch :: batches, .cons hfinds hall, rfl, ?_⟩
      simp only [World.logged_logged, List.append_assoc]
      rfl
    · intro h
      obtain ⟨batches, hfinds, rfl, rfl⟩ := h
      cases hfinds with
      | @cons _ batch _ batches hfinds hall =>
        refine ⟨batch, _, runs_searchPlatform_steady.2 ⟨hfinds, rfl⟩, runs_say_bind.2
          (runs_bind.2 ⟨batches.flatten, _, runs_searchAll_steady.2 ⟨batches, hall, rfl, rfl⟩,
            runs_pure.2 ⟨rfl, ?_⟩⟩)⟩
        simp only [World.logged_logged, List.append_assoc]
        rfl

/-- **What the registry has**, if it answers alike each time. -/
theorem runs_fetchStations_steady {s : RegistrySettings} {platforms : List String}
    {stations : List Json.Value} {w w' : World} :
    Runs (fetchStations (Web.steady answers) s platforms currentOnly) w stations w' ↔
      ∃ batches, List.Forall₂ (Finds answers s.baseUrl currentOnly) platforms batches ∧
        stations = batches.flatten ∧
        w' = w.logged (platforms.zipWith searchLog batches).flatten := by
  rw [← runs_searchAll_steady]
  unfold fetchStations
  rw [runs_bind]
  constructor
  · intro h
    obtain ⟨x, w₁, hclient, hrest⟩ := h
    have hclient : ((.ok (), w) : Except String Unit × World) = (x, w₁) := runs_lift.1 hclient
    obtain ⟨rfl, rfl⟩ := Prod.mk.inj hclient
    exact hrest
  · intro h
    exact ⟨.ok (), w, runs_lift.2 rfl, h⟩

theorem fails_searchPlatform_steady {platform : String} {e : Abort} {w w' : World} :
    Fails (searchPlatform (Web.steady answers) baseUrl currentOnly platform) w e w' ↔
      ∃ se, stationsOfReply platform (answers (.ofPlatform baseUrl currentOnly platform)) =
        .error se ∧ e = .search se ∧ w' = w := by
  unfold searchPlatform
  rw [fails_bind]
  constructor
  · intro h
    rcases h with hlift | ⟨reply, w₁, hget, hcheck⟩
    · exact absurd hlift not_fails_lift
    have hget : ((answers (.ofPlatform baseUrl currentOnly platform), w) :
        Except Unanswered Answer × World) = (reply, w₁) := runs_lift.1 hget
    obtain ⟨rfl, rfl⟩ := Prod.mk.inj hget
    obtain ⟨se, hse, rfl, rfl⟩ := fails_check.1 hcheck
    exact ⟨se, hse, rfl, rfl⟩
  · intro h
    obtain ⟨se, hse, rfl, rfl⟩ := h
    exact .inr ⟨_, w', runs_lift.2 rfl, fails_check.2 ⟨se, hse, rfl, rfl⟩⟩

/-- What is logged up to the platform whose search fails. -/
def failedLog (found : List String) (batches : List (List Json.Value)) (platform : String) :
    List Log.Entry :=
  (found.zipWith searchLog batches).flatten ++ [⟨.info, "Getting " ++ platform ++ " stations"⟩]

/-- **The first platform without an answer of use** ends the search. -/
theorem fails_searchAll_steady : ∀ {platforms : List String} {e : Abort} {w w' : World},
    Fails (searchAll (Web.steady answers) baseUrl currentOnly platforms) w e w' ↔
      ∃ found platform rest batches se, platforms = found ++ platform :: rest ∧
        List.Forall₂ (Finds answers baseUrl currentOnly) found batches ∧
        stationsOfReply platform (answers (.ofPlatform baseUrl currentOnly platform)) = .error se ∧
        e = .search se ∧ w' = w.logged (failedLog found batches platform)
  | [], e, w, w' => by
    constructor
    · intro h
      exact absurd h not_fails_pure
    · intro h
      obtain ⟨found, _, _, _, _, hplatforms, _⟩ := h
      cases found <;> cases hplatforms
  | platform :: platforms, e, w, w' => by
    unfold searchAll
    constructor
    · intro h
      rcases fails_bind.1 (fails_say_bind.1 h) with hbatch | ⟨batch, w₁, hbatch, hrest⟩
      · obtain ⟨se, hse, rfl, rfl⟩ := fails_searchPlatform_steady.1 hbatch
        exact ⟨[], platform, platforms, [], se, rfl, .nil, hse, rfl, rfl⟩
      obtain ⟨hfinds, rfl⟩ := runs_searchPlatform_steady.1 hbatch
      rcases fails_bind.1 (fails_say_bind.1 hrest) with hothers | ⟨_, _, _, hpure⟩
      · obtain ⟨found, other, rest, batches, se, rfl, hall, hse, rfl, rfl⟩ :=
          fails_searchAll_steady.1 hothers
        refine ⟨platform :: found, other, rest, batch :: batches, se, rfl, .cons hfinds hall, hse,
          rfl, ?_⟩
        simp only [World.logged_logged]
        rfl
      · exact absurd hpure not_fails_pure
    · intro h
      obtain ⟨found, other, rest, batches, se, hplatforms, hall, hse, rfl, rfl⟩ := h
      cases hall with
      | nil =>
        obtain ⟨rfl, rfl⟩ := List.cons.inj hplatforms
        exact fails_say_bind.2 (fails_bind.2
          (.inl (fails_searchPlatform_steady.2 ⟨se, hse, rfl, rfl⟩)))
      | @cons _ batch found batches hfinds hall =>
        obtain ⟨rfl, rfl⟩ := List.cons.inj hplatforms
        refine fails_say_bind.2 (fails_bind.2 (.inr ⟨batch, _,
          runs_searchPlatform_steady.2 ⟨hfinds, rfl⟩, fails_say_bind.2 (fails_bind.2 (.inl
            (fails_searchAll_steady.2 ⟨found, other, rest, batches, se, rfl, hall, hse, rfl, ?_⟩)))⟩))
        simp only [World.logged_logged]
        rfl

/-- **What ends a search**, if the registry answers alike each time. -/
theorem fails_fetchStations_steady {s : RegistrySettings} {platforms : List String} {e : Abort}
    {w w' : World} :
    Fails (fetchStations (Web.steady answers) s platforms currentOnly) w e w' ↔
      ∃ found platform rest batches se, platforms = found ++ platform :: rest ∧
        List.Forall₂ (Finds answers s.baseUrl currentOnly) found batches ∧
        stationsOfReply platform (answers (.ofPlatform s.baseUrl currentOnly platform)) =
          .error se ∧
        e = .search se ∧ w' = w.logged (failedLog found batches platform) := by
  rw [← fails_searchAll_steady]
  unfold fetchStations
  rw [fails_bind]
  constructor
  · intro h
    rcases h with hlift | ⟨x, w₁, hclient, hrest⟩
    · exact absurd hlift not_fails_lift
    have hclient : ((.ok (), w) : Except String Unit × World) = (x, w₁) := runs_lift.1 hclient
    obtain ⟨rfl, rfl⟩ := Prod.mk.inj hclient
    exact hrest
  · intro h
    exact .inr ⟨.ok (), w, runs_lift.2 rfl, h⟩

end Steady

end RadarCatalog.Command
