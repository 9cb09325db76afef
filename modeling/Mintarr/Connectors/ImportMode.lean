import Mintarr.Connectors.Config
import Mintarr.Lib.Machine

/-!
# Updates keep the import mode invariant

The check of an update looks at a snapshot in which the proposed configuration is already
stored.  What it finds there is what the check of the running configuration finds once the
update is persisted.
-/

namespace Mintarr.Connectors

open Lib

variable {registry : Registry} {rows : Rows}

/-! ## The two checks -/

theorem id_ne_empty (manifest : ConnectorManifest) : manifest.id ≠ "" := by
  intro empty
  have valid := manifest.valid_id
  rw [empty] at valid
  contradiction

theorem getConnectorConfig_id (manifest : ConnectorManifest) :
    getConnectorConfig rows manifest.id = rows manifest.id := by
  rw [getConnectorConfig, if_neg (id_ne_empty manifest)]

/-- Both copies of the rule agree on the same modes. -/
theorem sourceErrors_configuredMode :
    sourceErrors registry (configuredMode rows) = importModeInvariantViolations registry rows := by
  have required : ∀ connectors : List Connector,
      (connectors.filterMap fun item =>
        if item.manifest.required && !(item.isInstalled &&
            configuredMode rows item.manifest = "import") then
          some (verifierText item.manifest.id)
        else none) =
      ((connectors.filter fun connector => connector.manifest.required).filter fun connector =>
        !connector.isInstalled || configuredMode rows connector.manifest ≠ "import").map
          fun connector => verifierText connector.manifest.id := by
    intro connectors
    induction connectors with
    | nil => rfl
    | cons head tail ih =>
        cases named : head.manifest.required <;> cases installed : head.isInstalled <;>
          by_cases mode : configuredMode rows head.manifest = "import" <;>
          simp_all
  simp only [sourceErrors, importModeInvariantViolations, Registry.requiredConnectors, required,
    Bool.and_assoc]

/-- A stored configuration shows the modes that the snapshot had. -/
theorem mode_persisted {id : String} {proposed saved : Config} (same : saved.mode = proposed.mode)
    (manifest : ConnectorManifest) :
    configuredMode (Function.update rows id (some saved)) manifest =
      (configForManifest rows manifest (Function.update rows id (some proposed))).mode := by
  rw [configuredMode, configForManifest, configForManifest, getConnectorConfig_id,
    getConnectorConfig_id]
  by_cases own : manifest.id = id
  · subst own
    simp only [noOverrides, Function.update_self, Option.or, same]
  · simp only [noOverrides, Function.update_of_ne own, Option.none_or, Option.or_self]

/-! ## A validated update -/

/-- A mode that exists, and the switch that goes with it. -/
structure Config.Reconciled (config : Config) : Prop where
  known : config.mode ∈ connectorModes
  enabled_iff : config.enabled = decide (config.mode ≠ "disabled")

/-- A normalized update names its connector and is reconciled. -/
theorem reconciled_of_normalizeUpdate {enabled : Option Bool} {mode : RequestedMode}
    {manifest : ConnectorManifest} {proposed : Config}
    (normalized : normalizeUpdate rows enabled mode manifest = .ok proposed) :
    proposed.connectorId = manifest.id ∧ proposed.Reconciled := by
  have reconcile : ∀ next : String, next ∈ connectorModes → ∀ switch : Bool,
      (if switch then next else "disabled") ∈ connectorModes ∧
        (switch && decide (next ≠ "disabled")) =
          decide ((if switch then next else "disabled") ≠ "disabled") := by
    intro next known switch
    cases switch with
    | true => exact ⟨known, rfl⟩
    | false => exact ⟨by simp [connectorModes], rfl⟩
  unfold normalizeUpdate at normalized
  dsimp only at normalized
  split at normalized
  · contradiction
  · next next checked =>
      have known : next ∈ connectorModes := by
        cases mode with
        | missing =>
            simp only at checked
            split at checked
            · next current => exact Except.ok.inj checked ▸ current
            · contradiction
        | text mode =>
            by_cases empty : mode = ""
            · subst empty
              simp only at checked
              split at checked
              · next current => exact Except.ok.inj checked ▸ current
              · contradiction
            · simp only at checked
              split at checked
              · next current => exact Except.ok.inj checked ▸ current
              · contradiction
        | other shown => contradiction
      have both := reconcile next known (enabled.getD (decide (next ≠ "disabled")))
      cases normalized
      exact ⟨rfl, both.1, both.2⟩

/-- What is known of an update that the check accepts. -/
theorem accepted_of_validate {id : String} {enabled : Option Bool} {mode : RequestedMode}
    {proposed : Config}
    (accepted : validateConnectorUpdate registry rows id enabled mode = (some proposed, [])) :
    ∃ connector, registry.find id = some connector ∧ connector.manifest.id = id ∧
      proposed.connectorId = id ∧ proposed.Reconciled ∧
      sourceErrors registry (fun manifest =>
        (configForManifest rows manifest (Function.update rows id (some proposed))).mode) = [] := by
  unfold validateConnectorUpdate at accepted
  split at accepted
  · simp at accepted
  · next connector found =>
      have own : connector.manifest.id = id := by
        simpa using List.find?_some found
      split at accepted
      · simp at accepted
      · next normal normalized =>
          obtain ⟨named, reconciled⟩ := reconciled_of_normalizeUpdate normalized
          simp only [Prod.mk.injEq, Option.some.injEq, List.append_eq_nil_iff] at accepted
          obtain ⟨rfl, -, rules⟩ := accepted
          exact ⟨connector, found, own, named.trans own, reconciled, rules⟩

/-- A stored configuration that is reconciled is read back as it is. -/
theorem configForManifest_stored {manifest : ConnectorManifest} {saved : Config}
    (reconciled : saved.Reconciled) :
    (configForManifest (Function.update rows manifest.id (some saved)) manifest
        noOverrides).enabled = saved.enabled ∧
      (configForManifest (Function.update rows manifest.id (some saved)) manifest
        noOverrides).mode = saved.mode := by
  have known := reconciled.known
  have nonempty : saved.mode ≠ "" := by
    intro empty
    rw [empty] at known
    contradiction
  simp only [configForManifest, noOverrides, getConnectorConfig_id, Function.update_self,
    Option.none_or, if_neg nonempty, reconciled.enabled_iff, and_true]
  simp only [connectorModes, List.mem_cons, List.not_mem_nil, or_false] at known
  obtain disabled | dryRun | importing := known
  · rw [disabled]
    decide
  · rw [dryRun]
    decide
  · rw [importing]
    decide

/-! ## Requests -/

/-- The update was accepted and stored. -/
def Reply.persisted (reply : Reply) : Bool := reply.valid && reply.dryRun = some false

/-- A request stores what it validated, or leaves the configurations as they are. -/
theorem connectorConfig_cases (request : Request) :
    ((connectorConfig registry rows request).1.persisted = false ∧
      (connectorConfig registry rows request).2 = rows) ∨
    (connectorConfig registry rows request).1.persisted = true ∧ ∃ proposed saved,
      validateConnectorUpdate registry rows request.connectorId request.enabled request.mode =
        (some proposed, []) ∧
      saved.enabled = proposed.enabled ∧ saved.mode = proposed.mode ∧
      (connectorConfig registry rows request).2 =
        Function.update rows proposed.connectorId (some saved) := by
  unfold connectorConfig
  split
  · left
    exact ⟨rfl, rfl⟩
  · next proposed errors _ validated =>
      split
      · left
        exact ⟨rfl, rfl⟩
      · next noErrors =>
          split
          · left
            exact ⟨rfl, rfl⟩
          · split
            · left
              exact ⟨rfl, rfl⟩
            · next saved after persisted =>
                right
                obtain ⟨proposal, present, written⟩ := Option.bind_eq_some_iff.mp persisted
                unfold persistConnectorConfig at written
                split at written
                · contradiction
                · cases written
                  refine ⟨rfl, proposal, _, ?_, ?_, ?_, rfl⟩
                  · rw [validated, present, not_not.mp noErrors]
                  · rfl
                  · rfl

/-- What one accepted and persisted request achieves. -/
structure Kept (registry : Registry) (rows : Rows) (request : Request) : Prop where
  invariant : importModeInvariantViolations registry (connectorConfig registry rows request).2 = []
  read_back : ∃ connector proposed, registry.find request.connectorId = some connector ∧
    validateConnectorUpdate registry rows request.connectorId request.enabled request.mode =
      (some proposed, []) ∧
    (configForManifest (connectorConfig registry rows request).2 connector.manifest
      noOverrides).enabled = proposed.enabled ∧
    (configForManifest (connectorConfig registry rows request).2 connector.manifest
      noOverrides).mode = proposed.mode

theorem kept_of_persisted {request : Request}
    (persisted : (connectorConfig registry rows request).1.persisted = true) :
    Kept registry rows request := by
  cases @connectorConfig_cases registry rows request with
  | inl unchanged =>
      rw [unchanged.1] at persisted
      contradiction
  | inr stored =>
      obtain ⟨-, proposed, saved, accepted, enabled, mode, after⟩ := stored
      obtain ⟨connector, found, own, named, reconciled, rules⟩ := accepted_of_validate accepted
      have savedReconciled : saved.Reconciled := by
        constructor
        · rw [mode]
          exact reconciled.known
        · rw [enabled, mode]
          exact reconciled.enabled_iff
      constructor
      · rw [after, named, ← sourceErrors_configuredMode, ← rules]
        congr 1
        funext manifest
        exact mode_persisted mode manifest
      · have readBack := @configForManifest_stored rows connector.manifest saved
          savedReconciled
        rw [own] at readBack
        rw [after, named]
        exact ⟨connector, proposed, found, accepted, readBack.1.trans enabled,
          readBack.2.trans mode⟩

/-- The requests, one at a time. -/
def updates (registry : Registry) : Machine Rows Request where
  step rows request := some (connectorConfig registry rows request).2

theorem invariant_step {request : Request}
    (sound : importModeInvariantViolations registry rows = []) :
    importModeInvariantViolations registry (connectorConfig registry rows request).2 = [] := by
  cases @connectorConfig_cases registry rows request with
  | inl unchanged =>
      rw [unchanged.2]
      exact sound
  | inr stored => exact (kept_of_persisted stored.1).invariant

/-- From a configuration without violations no sequence of updates makes one, and each
update that is accepted and persisted is read back as it was validated. -/
theorem updates_keep_import_mode {start : Rows} {requests : List Request}
    (sound : importModeInvariantViolations registry start = [])
    (run : (updates registry).Run start requests rows) :
    importModeInvariantViolations registry rows = [] ∧
      ∀ request, (connectorConfig registry rows request).1.persisted = true →
        Kept registry rows request := by
  constructor
  · apply run.preserves (fun rows => importModeInvariantViolations registry rows = []) _ sound
    intro rows request after sound _ stepped
    cases stepped
    exact invariant_step sound
  · intro request persisted
    exact kept_of_persisted persisted

/-! ## A registry -/

/-- A source that is off by default, a required verifier and an output. -/
def smallRegistry : Registry where
  connectors :=
    [{ manifest :=
         { id := "tidal", kind := .source, defaultEnabled := false, required := false
           valid_id := by decide, enabled_of_required := by decide }
       isInstalled := true },
     { manifest :=
         { id := "ffprobe", kind := .verifier, defaultEnabled := true, required := true
           valid_id := by decide, enabled_of_required := by decide }
       isInstalled := true },
     { manifest :=
         { id := "lidarr", kind := .output, defaultEnabled := true, required := false
           valid_id := by decide, enabled_of_required := by decide }
       isInstalled := true }]
  distinct := by decide

/-- Switch the source on. -/
def switchOn : Request where
  connectorId := "tidal"
  mode := .text "import"

/-- The source is switched on, and then the output cannot be switched off. -/
theorem small_updates_kept :
    (connectorConfig smallRegistry noOverrides switchOn).1.status = 200 ∧
      (connectorConfig smallRegistry noOverrides switchOn).1.persisted = true ∧
      importModeInvariantViolations smallRegistry
        (connectorConfig smallRegistry noOverrides switchOn).2 = [] ∧
      (connectorConfig smallRegistry (connectorConfig smallRegistry noOverrides switchOn).2
        { connectorId := "lidarr", enabled := some false }).1.status = 409 := by
  have persisted : (connectorConfig smallRegistry noOverrides switchOn).1.persisted = true := by
    decide
  have kept : Kept smallRegistry noOverrides switchOn :=
    (@updates_keep_import_mode smallRegistry noOverrides noOverrides [] (by decide)
      (.nil _)).2 switchOn persisted
  refine ⟨?_, persisted, kept.invariant, ?_⟩
  · decide
  · decide

end Mintarr.Connectors
