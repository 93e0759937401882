import RadarCatalog.Proofs.Outcome
import RadarCatalog.Proofs.Registry.Policies
import RadarCatalog.Settings

/-!
# Accepted settings

* `Sound` is what is asked of settings, and `defect?_eq_none_iff` says that the rules decide by it.
  The standard settings pass their own rules (`sound_standard`).
* `parse_eq_ok_iff`: the settings of a text are those of its document, with standard values for
  what it leaves out, and they are sound.
* `parse_of_policy`: a policy in a text of its own is judged as the policy table of settings is.
-/

namespace RadarCatalog.Settings

open RadarCatalog.Registry RadarCatalog.Toml

/-! ## 1. The rules -/

/-- What is asked of settings. -/
structure Sound (s : Settings) : Prop where
  policy : ∀ part, Policy.SoundList (s.policy.list part)
  address : ∃ rest, s.registry.baseUrl = "http://" ++ rest ∨ s.registry.baseUrl = "https://" ++ rest
  platforms : s.registry.platforms ≠ []
  time : 0 < s.registry.timeoutSeconds
  sentinel : s.sentinel ≠ ""

theorem isPrefixOf_toList_iff {start url : String} :
    start.toList.isPrefixOf url.toList = true ↔ ∃ rest, url = start ++ rest := by
  rw [List.isPrefixOf_iff_prefix]
  constructor
  · rintro ⟨rest, hrest⟩
    exact ⟨String.ofList rest, String.toList_inj.1 (by simp [← hrest])⟩
  · rintro ⟨rest, rfl⟩
    exact ⟨rest.toList, String.toList_append.symm⟩

theorem isWebAddress_iff {url : String} :
    isWebAddress url = true ↔ ∃ rest, url = "http://" ++ rest ∨ url = "https://" ++ rest := by
  rw [isWebAddress, Bool.or_eq_true, isPrefixOf_toList_iff, isPrefixOf_toList_iff, exists_or]

theorem policy_defect?_eq_none_iff {p : Policy} :
    p.defect? = none ↔ ∀ part, Policy.SoundList (p.list part) := by
  rw [← Policy.check_eq_ok_iff, Policy.check]
  cases p.defect? with
  | none => simp
  | some e => simp

/-- **The rules find nothing** exactly in sound settings. -/
theorem defect?_eq_none_iff {s : Settings} : s.defect? = none ↔ s.Sound := by
  have hsound : s.Sound ↔ s.policy.defect? = none ∧ isWebAddress s.registry.baseUrl = true ∧
      s.registry.platforms.isEmpty = false ∧ s.registry.timeoutSeconds ≠ 0 ∧
      s.sentinel.isEmpty = false := by
    rw [policy_defect?_eq_none_iff, isWebAddress_iff]
    constructor
    · intro h
      exact ⟨h.policy, h.address, by simp [h.platforms], Nat.pos_iff_ne_zero.1 h.time,
        by simp [h.sentinel]⟩
    · rintro ⟨hpolicy, haddress, hplatforms, htime, hsentinel⟩
      exact ⟨hpolicy, haddress, by simpa using hplatforms, Nat.pos_iff_ne_zero.2 htime,
        by simpa using hsentinel⟩
  rw [hsound, defect?]
  cases s.policy.defect? with
  | some e => simp
  | none =>
    by_cases htime : s.registry.timeoutSeconds = 0 <;> cases isWebAddress s.registry.baseUrl <;>
      cases s.registry.platforms.isEmpty <;> cases s.sentinel.isEmpty <;> simp [htime]

/-- **The standard settings pass their own rules.** -/
theorem sound_standard : standard.Sound := defect?_eq_none_iff.1 (by decide +kernel)

/-- A search asks for a platform at least. -/
theorem Sound.query_ne_nil {s : Settings} (h : s.Sound) (withExtra : Bool) :
    s.query withExtra ≠ [] := by
  rw [query, ne_eq, List.append_eq_nil_iff]
  exact fun hnil => h.platforms hnil.1

/-! ## 2. The settings of a text -/

/-- The value of a setting: what the document has for it, or its standard value. -/
def Reads {α : Type} (decode : Node → Option α) (standard : α) (fs : Fields Node) (key : String)
    (x : α) : Prop :=
  match fs.get? key with
  | some node => decode node = some x
  | none => x = standard

theorem readKey_eq_some_iff {α : Type} {decode : Node → Option α} {standard x : α}
    {fs : Fields Node} {key : String} :
    readKey decode standard fs key = some x ↔ Reads decode standard fs key x := by
  unfold readKey Reads
  cases fs.get? key with
  | some node => exact Iff.rfl
  | none => rw [Option.some.injEq, eq_comm]

/-- The settings are those of the document, which has no other keys. -/
structure Describes (document : Entries) (s : Settings) : Prop where
  keys : ∀ e ∈ document, e.1 ∈ ["homr", "allow_list", "policy", "types"]
  registry : Reads readRegistry standardRegistry document "homr" s.registry
  sentinel : Reads readSentinel standard.sentinel document "allow_list" s.sentinel
  policy : Reads readPolicy Policy.standard document "policy" s.policy
  types : Reads readTypes standard.types document "types" s.types

theorem readTable_table_eq_some_iff {keys : List String} {origin : Origin} {entries : Entries}
    {fs : Fields Node} : readTable keys (.table origin entries) = some fs ↔
      (∀ e ∈ entries, e.1 ∈ keys) ∧ fs = entries := by
  rw [readTable]
  split
  · rename_i hall
    simp only [List.all_eq_true, List.contains_iff_mem] at hall
    exact ⟨fun h => ⟨hall, (Option.some.inj h).symm⟩, fun h => congrArg some h.2.symm⟩
  · rename_i hall
    simp only [List.all_eq_true, List.contains_iff_mem] at hall
    exact ⟨nofun, fun h => absurd h.1 hall⟩

theorem readDocument_eq_some_iff {document : Entries} {s : Settings} :
    readDocument document = some s ↔ Describes document s := by
  simp only [readDocument, Option.bind_eq_bind, Option.bind_eq_some_iff,
    readTable_table_eq_some_iff, readKey_eq_some_iff]
  constructor
  · rintro ⟨fs, ⟨hkeys, rfl⟩, registry, hregistry, sentinel, hsentinel, policy, hpolicy, types,
      htypes, hs⟩
    cases hs
    exact ⟨hkeys, hregistry, hsentinel, hpolicy, htypes⟩
  · intro h
    exact ⟨document, ⟨h.keys, rfl⟩, _, h.registry, _, h.sentinel, _, h.policy, _, h.types, rfl⟩

/-- **The settings of a text** are those of its document, and they are sound. -/
theorem parse_eq_ok_iff {text : String} {s : Settings} : parse text = .ok s ↔
    (∃ document, Toml.read text = some document ∧ Describes document s) ∧ s.Sound := by
  simp only [← readDocument_eq_some_iff, ← Option.bind_eq_some_iff, ← defect?_eq_none_iff, parse]
  cases (Toml.read text).bind readDocument with
  | none => exact ⟨nofun, fun h => (by cases h.1)⟩
  | some s' =>
    simp only [Option.some.injEq]
    cases hdefect : s'.defect? with
    | none => exact ⟨fun h => (by cases h; exact ⟨rfl, hdefect⟩), fun h => congrArg Except.ok h.1⟩
    | some d => exact ⟨nofun, fun h => (by rw [← h.1, hdefect] at h; cases h.2)⟩

/-! ## 3. A policy of its own -/

/-- **The policy of a text** is that of its document, and it is sound. -/
theorem parsePolicy_eq_ok_iff {text : String} {p : Policy} : parsePolicy text = .ok p ↔
    (∃ document, Toml.read text = some document ∧ readPolicy (.table .header document) = some p) ∧
      ∀ part, Policy.SoundList (p.list part) := by
  simp only [← Option.bind_eq_some_iff, ← policy_defect?_eq_none_iff, parsePolicy]
  cases (Toml.read text).bind fun document => readPolicy (.table .header document) with
  | none => exact ⟨nofun, fun h => (by cases h.1)⟩
  | some p' =>
    simp only [Option.some.injEq]
    cases hdefect : p'.defect? with
    | none => exact ⟨fun h => (by cases h; exact ⟨rfl, hdefect⟩), fun h => congrArg Except.ok h.1⟩
    | some d => exact ⟨nofun, fun h => (by rw [← h.1, hdefect] at h; cases h.2)⟩

/-- A table is read for a policy in the same way wherever it stands. -/
theorem readPolicy_table (origin origin' : Origin) (entries : Entries) :
    readPolicy (.table origin entries) = readPolicy (.table origin' entries) := rfl

/-- The policy of accepted settings is accepted on its own. -/
theorem parsePolicy_of_parse {text text' : String} {document entries : Entries} {origin : Origin}
    {s : Settings} (h : parse text = .ok s) (hread : Toml.read text = some document)
    (hpolicy : Fields.get? document "policy" = some (.table origin entries))
    (hread' : Toml.read text' = some entries) : parsePolicy text' = .ok s.policy := by
  obtain ⟨⟨document', hdocument, hdescribes⟩, hsound⟩ := parse_eq_ok_iff.1 h
  rw [hread] at hdocument
  cases hdocument
  refine parsePolicy_eq_ok_iff.2 ⟨⟨entries, hread', ?_⟩, hsound.policy⟩
  have hreads := hdescribes.policy
  simp only [Reads, hpolicy] at hreads
  exact hreads

/-- **A policy on its own is judged as the policy table of settings is**, where these say nothing
    else. -/
theorem parse_of_policy {text text' : String} {entries : Entries} {origin : Origin}
    (hread : Toml.read text = some [("policy", .table origin entries)])
    (hread' : Toml.read text' = some entries) : parse text =
      match parsePolicy text' with
      | .ok p => .ok { standard with policy := p }
      | .error .form => .error .form
      | .error (.defect e) => .error (.defect (.policy e)) := by
  have hdocument : readDocument [("policy", .table origin entries)] =
      (readPolicy (.table .header entries)).map fun p => { standard with policy := p } := by
    rw [readPolicy_table .header origin]
    show (readPolicy (.table origin entries)).bind _ = _
    cases readPolicy (.table origin entries) with
    | none => rfl
    | some p => rfl
  have hsound : ∀ p : Policy, ({ standard with policy := p } : Settings).defect? =
      p.defect?.map Defect.policy := by
    intro p
    have hrest : isWebAddress standard.registry.baseUrl = true := by decide +kernel
    unfold defect?
    cases p.defect? with
    | some e => rfl
    | none => rw [hrest]; rfl
  simp only [parse, parsePolicy, hread, hread', Option.bind_some, hdocument]
  cases readPolicy (.table .header entries) with
  | none => rfl
  | some p =>
    simp only [Option.map_some, hsound]
    cases p.defect? with
    | none => rfl
    | some e => rfl

example : parsePolicy "elevation_priority = [\"GROUND\", \"GROUND\"]\n" =
    .error (.defect ⟨.elevations, .repeated "GROUND"⟩) := by decide +kernel

end RadarCatalog.Settings
