/-
Project configurations and their validation.

A project is configured by one document: the adapters of its archive, the queries of its discovery,
how records are prepared from their answers, named transforms, the manifest of a run, patches of its
graph, and limits of the automation.  A document that has been read is checked as a whole; the
report lists every error with the path of the field that it is about.  The check against the JSON
schema of the document is made by a library and is a parameter here.

Main definitions:

* `Beampipe.Project.ProjectConfig` — the document;
* `Beampipe.Project.TransformRegistry` — its named transforms;
* `Beampipe.Project.validateTransformRefs`, `Beampipe.Project.validateGraphPatches` — two groups of
  checks;
* `Beampipe.Project.validateReport` — the errors of a document.
-/

import Beampipe.Discovery
import Beampipe.OutputInventory

set_option relaxedAutoImplicit false
set_option autoImplicit false

namespace Beampipe.Project

/-! ### Diagnostics -/

/-- `DiagnosticSeverity`. -/
inductive DiagnosticSeverity where
  | error
  | warning
  deriving DecidableEq, Repr

/-- `ValidationDiagnostic`. -/
structure Diagnostic where
  path : String
  severity : DiagnosticSeverity
  code : String
  message : String
  hint : Option String
  deriving DecidableEq, Repr

/-- `Diagnostic::error`. -/
def Diagnostic.error (path code message : String) : Diagnostic :=
  ⟨path, .error, code, message, none⟩

/-- `Diagnostic::with_hint`. -/
def Diagnostic.withHint (diagnostic : Diagnostic) (hint : String) : Diagnostic :=
  { diagnostic with hint := some hint }

/-- An error that is reported when a check fails. -/
def errorIf (fails : Bool) (path code message : String) : List Diagnostic :=
  if fails then [.error path code message] else []

/-! ### The document -/

/-- `TransformKind`. -/
inductive TransformKind where
  | identity
  | trim
  | lowercase
  | uppercase
  | replace
  | addPrefix
  | addSuffix
  | defaultIfEmpty
  | chain
  | stripPrefix
  | extractDigits
  | splitLast
  | isPresent
  | degreesToHms
  | degreesToDms
  | regexExtract
  | unknown
  deriving DecidableEq, Repr

/-- `TransformSpec`. -/
structure TransformSpec where
  kind : TransformKind
  prefixText : Option String := none
  suffix : Option String := none
  separators : Option (List String) := none
  pattern : Option String := none
  group : Option ℕ := none
  fromText : Option String := none
  toText : Option String := none
  default : Option String := none
  steps : Option (List String) := none
  deriving DecidableEq, Repr

/-- `TransformRef`. -/
inductive TransformRef where
  | name (name : String)
  | chain (steps : List String)
  deriving DecidableEq, Repr

/-- `MappingSpec`. -/
structure MappingSpec where
  fromPath : String
  transform : Option TransformRef := none
  deriving DecidableEq, Repr

/-- `TemplateVarSpec`. -/
structure TemplateVarSpec where
  fromValue : Option String := none
  transform : Option String := none
  deriving DecidableEq, Repr

/-- `SourceIdentityConfig`. -/
structure SourceIdentityConfig where
  canonical : String := "source_identifier"
  templateVars : BTreeMap TemplateVarSpec := ∅

/-- `TapEndpointMode`. -/
inductive TapEndpointMode where
  | syncGet
  | syncPost
  | asyncJob
  deriving DecidableEq, Repr

/-- `TapEndpointConfig`. -/
structure TapEndpointConfig where
  url : String
  mode : TapEndpointMode := .syncGet
  deriving DecidableEq, Repr

/-- `AdapterConfig`; of `tap` only the timeout is checked. -/
structure AdapterConfig where
  required : List String := []
  endpoints : BTreeMap TapEndpointConfig := ∅
  tapTimeoutSeconds : ℕ := 30

/-- `GraphConfig`. -/
structure GraphConfig where
  url : Option String := none
  path : Option String := none
  sha256 : Option String := none
  deriving DecidableEq, Repr

/-- `QueryIteration`. -/
structure QueryIteration where
  field : String
  variableName : Option String := none
  deriving DecidableEq, Repr

/-- `QueryResultPolicy`. -/
inductive QueryResultPolicy where
  | many
  | first
  | exactlyOne
  deriving DecidableEq, Repr

/-- `DiscoveryQuery`. -/
structure DiscoveryQuery where
  name : String
  adapter : String
  template : String
  forEach : Option QueryIteration := none
  result : QueryResultPolicy := .many
  required : Bool := false
  deriving DecidableEq, Repr

/-- `PrepareMetadataConfig`. -/
structure PrepareMetadataConfig where
  fieldMap : BTreeMap MappingSpec := ∅
  discoveryFlags : BTreeMap MappingSpec := ∅
  signature : Option SignatureOptions := none
  requiredFields : List String := []

/-- `DiscoveryConfig`. -/
structure DiscoverySection where
  queries : List DiscoveryQuery := []
  enrichments : List DiscoveryQuery := []
  prepareMetadata : Option PrepareMetadataConfig := none

/-- `ManifestConfig`, as far as it is checked. -/
structure ManifestConfig where
  groupsOutputField : String := "groups"
  groupKeyOutputField : String := "group_key"
  recordsOutputField : String := "records"
  deriving DecidableEq, Repr

/-- `GraphPatchMatchKind`. -/
inductive GraphPatchMatchKind where
  | nodeName
  | unknown
  deriving DecidableEq, Repr

/-- `GraphPatch`. -/
structure GraphPatch where
  matchKind : GraphPatchMatchKind := .unknown
  matchEquals : String := ""
  fields : BTreeMap Json := ∅

/-- `OutputVerificationConfig`. -/
structure OutputVerificationConfig where
  required : Bool := false
  inventorySchema : String := beampipeOutputInventorySchema
  expectedPatterns : List String := []
  deriving DecidableEq, Repr

/-- `DiscoveryAutomationConfig`. -/
structure DiscoveryAutomationConfig where
  enabled : Bool := false
  tickDiscoverySourceLimit : ℤ := 200
  batchSize : ℤ := 5
  staleAfterHours : ℤ := 24
  claimTtlMinutes : ℤ := 180
  queueMaxDepth : Option ℤ := none
  tickDiscoveryBatchLimit : Option ℤ := none
  concurrentDiscoveryBatchLimit : Option ℤ := none
  deriving DecidableEq, Repr

/-- A double, by its bits. -/
abbrev Double : Type := UInt64

/-- `f64::is_finite`. -/
def Double.isFinite (value : Double) : Bool := value.toNat / 4503599627370496 % 2048 != 2047

/-- The double is positive, if it is finite: its sign is not set and it is not zero. -/
def Double.isPositive (value : Double) : Bool :=
  decide (0 < value.toNat) && decide (value.toNat < 9223372036854775808)

/-- `ExecutionAutomationConfig`, as far as it is checked. -/
structure ExecutionAutomationConfig where
  enabled : Bool := false
  archiveName : String := "none"
  maxSourcesPerExecution : ℤ := 20
  tickExecutionSourceLimit : ℤ := 500
  tickExecutionRunLimit : ℤ := 20
  minSourcesToTrigger : ℤ := 1
  maxWaitMinutes : ℤ := 1440
  claimTtlMinutes : ℤ := 180
  concurrentExecutionRunLimit : Option ℤ := none
  executionSlurmRemotePollMaxRounds : Option ℤ := none
  executionRestRemotePollMaxRounds : Option ℤ := none
  executionRestRemotePollIntervalSeconds : Option Double := none
  executionSlurmRemotePollIntervalSeconds : Option Double := none
  deriving DecidableEq, Repr

/-- `AutomationConfig`. -/
structure AutomationConfig where
  execution : Option ExecutionAutomationConfig := none
  discovery : Option DiscoveryAutomationConfig := none
  deriving DecidableEq, Repr

/-- `ExtensionHook`. -/
inductive ExtensionHook where
  | prepareMetadata
  | manifest
  | graphPatches
  | unknown
  deriving DecidableEq, Repr

/-- `ProjectConfig`, as far as it is checked or read by a discovery; `hooks` are those of the
extension. -/
structure ProjectConfig where
  apiVersion : String := "beampipe.dev/v2"
  kind : String := "ProjectConfig"
  metadataId : String
  adapters : AdapterConfig := {}
  graph : Option GraphConfig := none
  discovery : DiscoverySection := {}
  manifest : Option ManifestConfig := none
  graphPatches : List GraphPatch := []
  outputVerification : OutputVerificationConfig := {}
  automation : AutomationConfig := {}
  hooks : List ExtensionHook := []
  transforms : Option (BTreeMap TransformSpec) := none
  sourceIdentity : Option SourceIdentityConfig := none

/-! ### Named transforms -/

/-- `TransformRegistry`. -/
structure TransformRegistry where
  named : BTreeMap TransformSpec

/-- `TransformRegistry::from_config`. -/
def TransformRegistry.fromConfig (config : ProjectConfig) : TransformRegistry :=
  ⟨config.transforms.getD ∅⟩

/-- `resolve_spec`. -/
def TransformRegistry.resolveSpec (registry : TransformRegistry) (name : String) :
    Option TransformSpec :=
  registry.named[name]?

/-- `check` of `validate_transform_refs`. -/
def checkTransform (registry : TransformRegistry) (name location : String) : List Diagnostic :=
  errorIf (registry.resolveSpec name).isNone location "unknown_transform"
    s!"unknown transform '{name}'"

/-- The steps of a chain are defined. -/
def checkSteps (registry : TransformRegistry) (steps : List String) (location : String) :
    List Diagnostic :=
  steps.zipIdx.flatMap fun step => checkTransform registry step.1 s!"{location}[{step.2}]"

/-- `check_transform_ref`. -/
def checkTransformRef (registry : TransformRegistry) (transform : TransformRef)
    (location : String) : List Diagnostic :=
  match transform with
  | .name name => checkTransform registry name location
  | .chain steps =>
      errorIf steps.isEmpty location "empty_transform_chain"
          "transform chain must include at least one step" ++
        checkSteps registry steps location

/-- A mapping of `field_map` or of `discovery_flags`. -/
def checkMapping (registry : TransformRegistry) (collection target : String) (spec : MappingSpec) :
    List Diagnostic :=
  errorIf (isBlank spec.fromPath) s!"discovery.prepare_metadata.{collection}.{target}.from"
      "required" s!"{collection} entries require from" ++
    match spec.transform with
    | some transform =>
        checkTransformRef registry transform
          s!"discovery.prepare_metadata.{collection}.{target}.transform"
    | none => []

/-- A text that a kind of transform requires. -/
def requireText (spec : TransformSpec) (name : String) (kind : TransformKind)
    (value : Option String) (field message : String) : List Diagnostic :=
  errorIf (spec.kind == kind && (value.getD "").isEmpty) s!"definitions.transforms.{name}.{field}"
    "required" message

/-- A named transform. -/
def checkTransformSpec (registry : TransformRegistry) (name : String) (spec : TransformSpec) :
    List Diagnostic :=
  errorIf (spec.kind == .unknown) s!"definitions.transforms.{name}.kind" "unknown_transform_kind"
      "transform has an unknown kind" ++
    requireText spec name .stripPrefix spec.prefixText "prefix" "strip_prefix requires prefix" ++
    requireText spec name .addPrefix spec.prefixText "prefix" "add_prefix requires prefix" ++
    requireText spec name .addSuffix spec.suffix "suffix" "add_suffix requires suffix" ++
    requireText spec name .replace spec.fromText "from" "replace requires from" ++
    requireText spec name .defaultIfEmpty spec.default "default"
      "default_if_empty requires default" ++
    errorIf (spec.kind == .splitLast && (spec.separators.getD []).isEmpty)
      s!"definitions.transforms.{name}.separators" "required"
      "split_last requires at least one separator" ++
    ((spec.separators.getD []).zipIdx.flatMap fun separator =>
      errorIf separator.1.isEmpty s!"definitions.transforms.{name}.separators[{separator.2}]"
        "required" "transform separators must be non-empty") ++
    requireText spec name .regexExtract spec.pattern "pattern" "regex_extract requires pattern" ++
    if spec.kind = .chain then
      errorIf (spec.steps.getD []).isEmpty s!"definitions.transforms.{name}.steps" "required"
          "chain requires steps" ++
        checkSteps registry (spec.steps.getD []) s!"definitions.transforms.{name}.steps"
    else []

/-- `validate_transform_refs`. -/
def validateTransformRefs (config : ProjectConfig) : List Diagnostic :=
  let registry := TransformRegistry.fromConfig config
  let identity := config.sourceIdentity.toList.flatMap fun identity =>
    identity.templateVars.toList.flatMap fun var =>
      match var.2.transform with
      | some name =>
          checkTransform registry name s!"source_identity.template_vars.{var.1}.transform"
      | none => []
  let mappings := config.discovery.prepareMetadata.toList.flatMap fun prepare =>
    (prepare.fieldMap.toList.flatMap fun field =>
        checkMapping registry "field_map" field.1 field.2) ++
      prepare.discoveryFlags.toList.flatMap fun flag =>
        checkMapping registry "discovery_flags" flag.1 flag.2
  let definitions := config.transforms.toList.flatMap fun transforms =>
    transforms.toList.flatMap fun transform =>
      checkTransformSpec registry transform.1 transform.2
  identity ++ mappings ++ definitions

/-! ### Patches of the graph -/

/-- A text that looks like an expression has one of the two forms. -/
def checkExpression (index : ℕ) (field : String) (value : Json) : List Diagnostic :=
  match value.asStr with
  | some expr =>
      let chars := expr.toList
      let closed := chars.getLast? == some ')'
      errorIf
        (chars.head? == some '$' &&
          !("$count(".toList.isPrefixOf chars && closed ||
            "$sum(".toList.isPrefixOf chars && closed))
        s!"graph_patches[{index}].set.{field}" "invalid_expression"
        "graph patch expressions must use existing $count(...) or $sum(...) forms"
  | none => []

/-- One patch of the graph. -/
def checkGraphPatch (index : ℕ) (patch : GraphPatch) : List Diagnostic :=
  (if patch.matchKind = .unknown then
      [(Diagnostic.error s!"graph_patches[{index}].match.kind" "unknown_graph_patch_match_kind"
        "graph patch match kind is unknown").withHint "allowed match kind is node_name"]
    else []) ++
    errorIf (isBlank patch.matchEquals) s!"graph_patches[{index}].match.equals" "required"
      "graph patch match equals must be non-empty" ++
    errorIf patch.fields.isEmpty s!"graph_patches[{index}].set" "required"
      "graph patch set must include at least one field" ++
    patch.fields.toList.flatMap fun field =>
      errorIf (isBlank field.1) s!"graph_patches[{index}].set" "required"
          "graph patch set field names must be non-empty" ++
        checkExpression index field.1 field.2

/-- `validate_graph_patches`. -/
def validateGraphPatches (config : ProjectConfig) : List Diagnostic :=
  config.graphPatches.zipIdx.flatMap fun patch => checkGraphPatch patch.2 patch.1

/-! ### The report -/

/-- A list of texts of which none may be blank. -/
def checkNonBlank (values : List String) (path message : String) : List Diagnostic :=
  values.zipIdx.flatMap fun value =>
    errorIf (isBlank value.1) s!"{path}[{value.2}]" "required" message

/-- A limit that has to be positive. -/
def checkPositive (collection path : String) (value : ℤ) : List Diagnostic :=
  errorIf (decide (value ≤ 0)) s!"{collection}.{path}" "invalid_limit"
    s!"{collection}.{path} must be > 0"

/-- A limit that has to be positive when it is set. -/
def checkPositiveWhenSet (collection path : String) (value : Option ℤ) : List Diagnostic :=
  errorIf (value.any fun value => decide (value ≤ 0)) s!"{collection}.{path}" "invalid_limit"
    s!"{collection}.{path} must be > 0 when set"

/-- An interval that has to be finite and positive when it is set. -/
def checkInterval (path : String) (value : Option Double) : List Diagnostic :=
  errorIf (value.any fun value => !Double.isFinite value || !Double.isPositive value)
    s!"automation.execution.{path}" "invalid_limit"
    s!"automation.execution.{path} must be finite and > 0 when set"

/-- The adapters of a project. -/
def checkAdapters (adapters : AdapterConfig) : List Diagnostic :=
  errorIf adapters.required.isEmpty "adapters.required" "required"
      "adapters.required must include at least one adapter" ++
    (adapters.required.zipIdx.flatMap fun adapter =>
      if isBlank adapter.1 then
        [.error s!"adapters.required[{adapter.2}]" "required"
          "adapter identifiers must be non-empty"]
      else
        errorIf (!adapters.endpoints.contains adapter.1) s!"adapters.required[{adapter.2}]"
          "endpoint_not_configured"
          s!"required adapter '{adapter.1}' must have an adapters.endpoints entry") ++
    (adapters.endpoints.toList.flatMap fun endpoint =>
      errorIf (isBlank endpoint.1) "adapters.endpoints" "required"
          "adapter endpoint names must be non-empty" ++
        errorIf (isBlank endpoint.2.url) s!"adapters.endpoints.{endpoint.1}.url" "required"
          "adapter endpoint URLs must be non-empty") ++
    errorIf (decide (64 < adapters.endpoints.size)) "adapters.endpoints" "too_many_endpoints"
      "adapters.endpoints must contain at most 64 entries" ++
    errorIf (adapters.tapTimeoutSeconds == 0) "adapters.tap.timeout_seconds" "invalid_limit"
      "adapters.tap.timeout_seconds must be > 0"

/-- The limits of automatic discoveries. -/
def checkDiscoveryAutomation (discovery : DiscoveryAutomationConfig) : List Diagnostic :=
  checkPositive "automation.discovery" "batch_size" discovery.batchSize ++
    checkPositive "automation.discovery" "tick_discovery_source_limit"
      discovery.tickDiscoverySourceLimit ++
    checkPositive "automation.discovery" "stale_after_hours" discovery.staleAfterHours ++
    checkPositive "automation.discovery" "claim_ttl_minutes" discovery.claimTtlMinutes ++
    checkPositiveWhenSet "automation.discovery" "queue_max_depth" discovery.queueMaxDepth ++
    checkPositiveWhenSet "automation.discovery" "tick_discovery_batch_limit"
      discovery.tickDiscoveryBatchLimit ++
    checkPositiveWhenSet "automation.discovery" "concurrent_discovery_batch_limit"
      discovery.concurrentDiscoveryBatchLimit

/-- The limits of automatic executions. -/
def checkExecutionAutomation (adapters : AdapterConfig) (execution : ExecutionAutomationConfig) :
    List Diagnostic :=
  errorIf (execution.enabled && !adapters.required.contains execution.archiveName)
      "automation.execution.archive_name" "unknown_adapter"
      "automation.execution.archive_name must name an adapter in adapters.required" ++
    checkPositive "automation.execution" "max_sources_per_execution"
      execution.maxSourcesPerExecution ++
    checkPositive "automation.execution" "tick_execution_run_limit"
      execution.tickExecutionRunLimit ++
    checkPositive "automation.execution" "tick_execution_source_limit"
      execution.tickExecutionSourceLimit ++
    checkPositive "automation.execution" "min_sources_to_trigger" execution.minSourcesToTrigger ++
    checkPositive "automation.execution" "max_wait_minutes" execution.maxWaitMinutes ++
    checkPositive "automation.execution" "claim_ttl_minutes" execution.claimTtlMinutes ++
    checkPositiveWhenSet "automation.execution" "concurrent_execution_run_limit"
      execution.concurrentExecutionRunLimit ++
    checkPositiveWhenSet "automation.execution" "execution_slurm_remote_poll_max_rounds"
      execution.executionSlurmRemotePollMaxRounds ++
    checkPositiveWhenSet "automation.execution" "execution_rest_remote_poll_max_rounds"
      execution.executionRestRemotePollMaxRounds ++
    checkInterval "execution_rest_remote_poll_interval_seconds"
      execution.executionRestRemotePollIntervalSeconds ++
    checkInterval "execution_slurm_remote_poll_interval_seconds"
      execution.executionSlurmRemotePollIntervalSeconds

/-- `valid_output_glob`. -/
def validOutputGlob (pattern : String) : Bool :=
  let components := splitSlash pattern.toList
  !pattern.isEmpty && trim pattern == pattern && decide (pattern.utf8ByteSize ≤ 256) &&
    pattern.toList.head? != some '/' && !pattern.toList.contains '\\' &&
    !(pattern.toList.any fun c => isControl c || ['[', ']', '{', '}'].contains c) &&
    (components.all fun component => component != [] && component != ['.'] &&
      component != ['.', '.']) &&
    components.all fun component => !containsChars ['*', '*'] component || component == ['*', '*']

/-- The expected patterns; `seen` are the ones so far, `index` that of the first. -/
def checkPatterns : ℕ → List String → List String → List Diagnostic
  | _, _, [] => []
  | index, seen, pattern :: patterns =>
      if !validOutputGlob pattern then
        .error s!"output_verification.expected_patterns[{index}]" "unsafe_relative_glob"
            ("expected pattern must be a trimmed relative glob without empty, '.', '..', " ++
              "backslash, or control-character components; '**' must be a complete path component")
          :: checkPatterns (index + 1) seen patterns
      else
        errorIf (seen.contains pattern) s!"output_verification.expected_patterns[{index}]"
            "duplicate" "expected output patterns must be unique" ++
          checkPatterns (index + 1) (pattern :: seen) patterns

/-- The policy for the outputs of a run. -/
def checkOutputVerification (policy : OutputVerificationConfig) : List Diagnostic :=
  errorIf (policy.inventorySchema != beampipeOutputInventorySchema)
      "output_verification.inventory_schema" "unsupported_output_inventory_schema"
      ("output_verification.inventory_schema must be " ++ beampipeOutputInventorySchema) ++
    errorIf (policy.required && policy.expectedPatterns.isEmpty)
      "output_verification.expected_patterns" "required"
      "required output verification must declare at least one expected relative glob" ++
    errorIf (decide (32 < policy.expectedPatterns.length)) "output_verification.expected_patterns"
      "too_many" "at most 32 expected output patterns are allowed" ++
    checkPatterns 0 [] policy.expectedPatterns

/-- `u8::is_ascii_hexdigit`. -/
def isAsciiHexdigit (c : Char) : Bool :=
  isAsciiDigit c || ('a' ≤ c && c ≤ 'f') || ('A' ≤ c && c ≤ 'F')

/-- The graph of a project. -/
def checkGraph (graph : GraphConfig) : List Diagnostic :=
  errorIf (graph.url.isSome == graph.path.isSome) "graph" "mutually_exclusive"
      "graph must use exactly one of url or path" ++
    errorIf (graph.url.any isBlank) "graph.url" "required" "graph.url must be non-empty when set" ++
    errorIf (graph.path.any isBlank) "graph.path" "required"
      "graph.path must be non-empty when set" ++
    match graph.sha256 with
    | none =>
        [.error "graph.sha256" "required" "graph.sha256 is required to pin graph content"]
    | some value =>
        errorIf (value.utf8ByteSize != 64 || !value.toList.all isAsciiHexdigit) "graph.sha256"
          "invalid_sha256" "graph.sha256 must contain exactly 64 hexadecimal characters"

/-- One query of a collection. -/
def checkQuery (adapters : AdapterConfig) (collection : String) (index : ℕ)
    (query : DiscoveryQuery) : List Diagnostic :=
  let requireField (field value : String) :=
    errorIf (isBlank value) s!"discovery.{collection}[{index}].{field}" "required"
      s!"discovery {collection} {field} must be non-empty"
  requireField "name" query.name ++ requireField "adapter" query.adapter ++
    requireField "template" query.template ++
    errorIf (!isBlank query.adapter && !adapters.endpoints.contains query.adapter)
      s!"discovery.{collection}[{index}].adapter" "endpoint_not_configured"
      s!"discovery adapter '{query.adapter}' must have an adapters.endpoints entry" ++
    errorIf (collection == "enrichments" && query.forEach.isNone)
      s!"discovery.{collection}[{index}].for_each" "required"
      "enrichment queries must declare their iteration field" ++
    query.forEach.toList.flatMap fun iteration =>
      errorIf (isBlank iteration.field) s!"discovery.{collection}[{index}].for_each.field"
          "required" "query iteration field must be non-empty" ++
        errorIf (iteration.variableName.any isBlank)
          s!"discovery.{collection}[{index}].for_each.variable" "required"
          "query iteration variable must be non-empty when set"

/-- The queries of a collection. -/
def checkQueries (adapters : AdapterConfig) (collection : String) (queries : List DiscoveryQuery) :
    List Diagnostic :=
  queries.zipIdx.flatMap fun query => checkQuery adapters collection query.2 query.1

/-- The identity of the sources. -/
def checkSourceIdentity (identity : SourceIdentityConfig) : List Diagnostic :=
  errorIf (isBlank identity.canonical) "source_identity.canonical" "required"
      "source_identity.canonical must be non-empty" ++
    identity.templateVars.toList.flatMap fun var =>
      errorIf (isBlank var.1) "source_identity.template_vars" "required"
        "template variable names must be non-empty"

/-- The hooks of the extension. -/
def checkHooks (hooks : List ExtensionHook) : List Diagnostic :=
  hooks.zipIdx.flatMap fun hook =>
    if hook.1 = .unknown then
      [(Diagnostic.error s!"extension.hooks[{hook.2}]" "unknown_extension_hook"
        "extension.hooks contains an unknown hook").withHint
          "allowed hooks are prepare_metadata, manifest, and graph_patches"]
    else []

/-- A prepared record has the two generic identities. -/
def requireIdentity (prepare : PrepareMetadataConfig) (required : String) : List Diagnostic :=
  errorIf (!prepare.fieldMap.contains required) s!"discovery.prepare_metadata.field_map.{required}"
    "required" s!"prepared metadata must define the generic '{required}' identity"

/-- How records are prepared. -/
def checkPrepareMetadata (prepare : PrepareMetadataConfig) : List Diagnostic :=
  requireIdentity prepare "group_key" ++ requireIdentity prepare "record_id" ++
    checkNonBlank prepare.requiredFields "discovery.prepare_metadata.required_fields"
      "required prepared-metadata fields must be non-empty" ++
    checkNonBlank (excludedFields prepare.signature)
      "discovery.prepare_metadata.signature.exclude_fields"
      "signature exclude fields must be non-empty"

/-- The fields of the manifest. -/
def checkManifest (manifest : ManifestConfig) : List Diagnostic :=
  let requireField (field value : String) :=
    errorIf (isBlank value) s!"manifest.{field}" "required" s!"manifest.{field} must be non-empty"
  requireField "groups_output_field" manifest.groupsOutputField ++
    requireField "group_key_output_field" manifest.groupKeyOutputField ++
    requireField "records_output_field" manifest.recordsOutputField

/-- The errors of `validate_report`; `schema` is the check against the JSON schema. -/
def validateReport (schema : ProjectConfig → List Diagnostic) (config : ProjectConfig) :
    List Diagnostic :=
  schema config ++
    (if config.apiVersion ≠ "beampipe.dev/v2" then
      [(Diagnostic.error "apiVersion" "invalid_api_version"
        "apiVersion must be beampipe.dev/v2").withHint "set apiVersion to beampipe.dev/v2"]
    else []) ++
    errorIf (config.kind != "ProjectConfig") "kind" "invalid_kind" "kind must be ProjectConfig" ++
    errorIf (isBlank config.metadataId) "metadata.id" "required" "metadata.id is required" ++
    checkAdapters config.adapters ++
    config.automation.discovery.toList.flatMap checkDiscoveryAutomation ++
    config.automation.execution.toList.flatMap (checkExecutionAutomation config.adapters) ++
    checkOutputVerification config.outputVerification ++
    config.graph.toList.flatMap checkGraph ++
    checkQueries config.adapters "queries" config.discovery.queries ++
    checkQueries config.adapters "enrichments" config.discovery.enrichments ++
    config.sourceIdentity.toList.flatMap checkSourceIdentity ++
    checkHooks config.hooks ++
    validateTransformRefs config ++
    validateGraphPatches config ++
    config.discovery.prepareMetadata.toList.flatMap checkPrepareMetadata ++
    config.manifest.toList.flatMap checkManifest

/-- `valid` of the report. -/
def Valid (schema : ProjectConfig → List Diagnostic) (config : ProjectConfig) : Prop :=
  validateReport schema config = []

instance (schema : ProjectConfig → List Diagnostic) (config : ProjectConfig) :
    Decidable (Valid schema config) :=
  inferInstanceAs (Decidable (validateReport schema config = []))

end Beampipe.Project
