import Mathlib.Data.List.Nodup
import Mathlib.Data.Rat.Defs
import Mathlib.Logic.Function.Basic

/-!
# Connectors and their configuration

The registry of connectors, the stored mode of each, and the request that changes one: the
check of the proposed mode against a snapshot, and the check of the running configuration.
Whether a connector is installed does not change.
-/

namespace Mintarr.Connectors

/-! ## The registry -/

/-- `ConnectorKind`. -/
inductive ConnectorKind where
  | source | verifier | output
  deriving DecidableEq, Repr

/-- `_CONNECTOR_ID_RE.match`; its `$` also stands before a newline at the end. -/
def isConnectorId (id : String) : Bool :=
  let allowed := fun char : Char =>
    ('a' ≤ char && char ≤ 'z') || ('0' ≤ char && char ≤ '9') || char = '_'
  let chars := if id.toList.getLast? = some '\n' then id.toList.dropLast else id.toList
  chars ≠ [] && chars.all allowed

/-- `ConnectorManifest`, with the checks of `__post_init__` on the fields that the
configuration reads. -/
structure ConnectorManifest where
  id : String
  kind : ConnectorKind
  defaultEnabled : Bool
  required : Bool
  valid_id : isConnectorId id = true
  enabled_of_required : required = true → defaultEnabled = true

/-- A registered connector. -/
structure Connector where
  manifest : ConnectorManifest
  isInstalled : Bool

/-- `_connectors`. -/
structure Registry where
  connectors : List Connector
  distinct : (connectors.map fun connector => connector.manifest.id).Nodup

namespace Registry

/-- `register`. -/
def register (registry : Registry) (connector : Connector) : Except String Registry :=
  if known : connector.manifest.id ∈ registry.connectors.map fun other => other.manifest.id then
    .error ("Connector '" ++ connector.manifest.id ++ "' already registered")
  else
    .ok
      { connectors := registry.connectors ++ [connector]
        distinct := by
          rw [List.map_append, List.nodup_append]
          refine ⟨registry.distinct, by simp, ?_⟩
          intro id present other alone same
          rw [List.map_singleton, List.mem_singleton] at alone
          exact known (alone ▸ same ▸ present) }

/-- The connector of an id, as both lookups find it. -/
def find (registry : Registry) (id : String) : Option Connector :=
  registry.connectors.find? fun connector => connector.manifest.id = id

/-- `required_connectors`. -/
def requiredConnectors (registry : Registry) : List Connector :=
  registry.connectors.filter fun connector => connector.manifest.required

end Registry

/-! ## Configurations -/

/-- A configuration, stored or proposed. -/
structure Config where
  connectorId : String
  enabled : Bool
  mode : String
  updatedAt : Option ℚ := none
  actor : Option String := none
  deriving DecidableEq, Repr

/-- Configurations by connector: the table `connector_config`, or a snapshot of it. -/
abbrev Rows := String → Option Config

/-- The values of `ConnectorMode`. -/
def connectorModes : List String := ["disabled", "dry_run", "import"]

/-- `default_config`. -/
def defaultConfig (manifest : ConnectorManifest) : Config where
  connectorId := manifest.id
  enabled := manifest.defaultEnabled
  mode := if manifest.defaultEnabled then "import" else "disabled"

/-- `get_connector_config`. -/
def getConnectorConfig (rows : Rows) (id : String) : Option Config :=
  if id = "" then none else rows id

/-- `config_for_manifest`. -/
def configForManifest (rows : Rows) (manifest : ConnectorManifest) (overrides : Rows) : Config :=
  match (overrides manifest.id).or (getConnectorConfig rows manifest.id) with
  | none => defaultConfig manifest
  | some row =>
      let mode := if row.mode = "" then "disabled" else row.mode
      { connectorId := manifest.id
        enabled :=
          if mode = "disabled" then false
          else if mode ∈ ["dry_run", "import"] then true
          else row.enabled
        mode := mode
        updatedAt := row.updatedAt
        actor := row.actor }

/-- No overrides. -/
def noOverrides : Rows := fun _ => none

/-- `configured_mode`. -/
def configuredMode (rows : Rows) (manifest : ConnectorManifest) : String :=
  (configForManifest rows manifest noOverrides).mode

/-! ## Updates -/

/-- The mode of a request: absent or falsy, a text, or anything else, as it is printed. -/
inductive RequestedMode where
  | missing
  | text (mode : String)
  | other (shown : String)
  deriving DecidableEq, Repr

/-- `normalize_update`; `enabled` is the truth of the value, if there is one. -/
def normalizeUpdate (rows : Rows) (enabled : Option Bool) (mode : RequestedMode)
    (manifest : ConnectorManifest) : Except String Config :=
  let current := configForManifest rows manifest noOverrides
  let checked : Except String String :=
    match mode with
    | .missing => if current.mode ∈ connectorModes then .ok current.mode else .error current.mode
    | .text "" => if current.mode ∈ connectorModes then .ok current.mode else .error current.mode
    | .text mode => if mode ∈ connectorModes then .ok mode else .error mode
    | .other shown => .error shown
  match checked with
  | .error shown => .error ("invalid connector mode: " ++ shown)
  | .ok nextMode =>
      let nextEnabled := enabled.getD (nextMode ≠ "disabled")
      .ok
        { connectorId := manifest.id
          enabled := nextEnabled && nextMode ≠ "disabled"
          mode := if nextEnabled then nextMode else "disabled"
          actor := some "user_dashboard" }

/-- The text about a verifier that does not import. -/
def verifierText (id : String) : String :=
  "source connectors in import mode require installed verifier: " ++ id

/-- The text about the outputs. -/
def outputText : String :=
  "source connectors in import mode require at least one installed output connector"

/-- The last part of `validate_connector_update`: what a source that imports needs, where
each connector has the given mode. -/
def sourceErrors (registry : Registry) (modeOf : ConnectorManifest → String) : List String :=
  let importing := fun item : Connector => item.isInstalled && modeOf item.manifest = "import"
  let sourceImporting := registry.connectors.filter fun item =>
    item.manifest.kind = .source && importing item
  if sourceImporting = [] then []
  else
    (registry.connectors.filterMap fun item =>
      if item.manifest.required && !importing item then some (verifierText item.manifest.id)
      else none) ++
    if registry.connectors.any fun item => item.manifest.kind = .output && importing item then []
    else [outputText]

/-- `validate_connector_update`. -/
def validateConnectorUpdate (registry : Registry) (rows : Rows) (id : String)
    (enabled : Option Bool) (mode : RequestedMode) : Option Config × List String :=
  match registry.find id with
  | none => (none, ["unknown connector"])
  | some connector =>
      match normalizeUpdate rows enabled mode connector.manifest with
      | .error text => (none, [text])
      | .ok proposed =>
          let snapshot : Rows := Function.update rows id (some proposed)
          let required :=
            if connector.manifest.required && proposed.mode ≠ "import" then
              ["required connectors must stay in import mode"]
            else []
          (some proposed, required ++ sourceErrors registry fun manifest =>
            (configForManifest rows manifest snapshot).mode)

/-- `persist_connector_config` at the time `now`; nothing where the write fails. -/
def persistConnectorConfig (rows : Rows) (now : ℚ) (written : Bool) (config : Config) :
    Option (Config × Rows) :=
  if config.connectorId = "" || !written then none
  else
    let saved :=
      { config with
        updatedAt := some now
        actor := some (if config.actor.getD "" = "" then "user_dashboard" else config.actor.getD "") }
    some (saved, Function.update rows config.connectorId (some saved))

/-- `import_mode_invariant_violations`. -/
def importModeInvariantViolations (registry : Registry) (rows : Rows) : List String :=
  let sourceImporting := registry.connectors.filter fun connector =>
    connector.manifest.kind = .source && connector.isInstalled &&
      configuredMode rows connector.manifest = "import"
  if sourceImporting = [] then []
  else
    ((registry.requiredConnectors.filter fun connector =>
      !connector.isInstalled || configuredMode rows connector.manifest ≠ "import").map
        fun connector => verifierText connector.manifest.id) ++
    if registry.connectors.any fun connector =>
        connector.manifest.kind = .output && connector.isInstalled &&
          configuredMode rows connector.manifest = "import" then []
    else [outputText]

/-! ## The request -/

/-- A `POST` to a connector's configuration, and what becomes of its write. -/
structure Request where
  connectorId : String
  enabled : Option Bool := none
  mode : RequestedMode := .missing
  dryRun : Bool := false
  now : ℚ := 0
  written : Bool := true
  deriving DecidableEq, Repr

/-- The reply. -/
structure Reply where
  status : Nat
  dryRun : Option Bool
  valid : Bool
  config : Option Config
  errors : List String
  deriving DecidableEq, Repr

/-- `error.startswith("invalid connector mode")`. -/
def isInvalidMode (error : String) : Bool :=
  "invalid connector mode".toList.isPrefixOf error.toList

/-- `connector_config`: the reply and the configurations after it. -/
def connectorConfig (registry : Registry) (rows : Rows) (request : Request) : Reply × Rows :=
  match validateConnectorUpdate registry rows request.connectorId request.enabled
      request.mode with
  | (none, ["unknown connector"]) =>
      ({ status := 404, dryRun := none, valid := false, config := none
         errors := ["unknown connector"] }, rows)
  | (proposed, errors) =>
      if errors ≠ [] then
        ({ status := if errors.any isInvalidMode then 400 else 409
           dryRun := some request.dryRun, valid := false, config := proposed, errors }, rows)
      else if request.dryRun then
        ({ status := 200, dryRun := some true, valid := true, config := proposed
           errors := [] }, rows)
      else
        match proposed.bind (persistConnectorConfig rows request.now request.written) with
        | none =>
            ({ status := 500, dryRun := some false, valid := false, config := none
               errors := ["failed to persist connector config"] }, rows)
        | some (saved, after) =>
            ({ status := 200, dryRun := some false, valid := true, config := some saved
               errors := [] }, after)

end Mintarr.Connectors
