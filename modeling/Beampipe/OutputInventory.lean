/-
The inventory of durable outputs.

After an execution has finished outside, its outputs are published and an inventory of them is left
behind for retrieval: the products with their sizes and digests, how often each expected pattern
matches, where the products are and who acknowledged the publication.  An inventory is valid for one
attempt of one execution under the policy that was pinned when the execution was admitted, and it is
stored as an artifact that is rebuilt from the report itself.

The serializer, the digest, the deserializer of a report, the compiler of globs and the parser of URLs
are parameters.

Main definitions:

* `Beampipe.ExecutionOutputVerificationRequest` — the report;
* `Beampipe.validateOutputVerificationRequestAt` — the checks of a report, in order;
* `Beampipe.buildOutputInventoryArtifact` — the artifact of a report;
* `Beampipe.acceptInventory` — what an artifact has to pass to be accepted for an attempt.

Main results:

* `Beampipe.acceptInventory_ok` — an accepted artifact is the one built from a valid report;
* `Beampipe.acceptInventory_mono` — it is accepted later, too;
* `Beampipe.acceptInventory_unique` — its document and metadata determine it.
-/

import Beampipe.StableJson
import Beampipe.SubmissionStore

set_option relaxedAutoImplicit false
set_option autoImplicit false

namespace Beampipe

/-! ### The report -/

/-- `OutputInventoryProduct`. -/
structure OutputInventoryProduct where
  path : String
  bytes : ℕ
  sha256 : String
  deriving DecidableEq, Repr

/-- `OutputPublicationAcknowledgement`; instants are nanoseconds. -/
structure OutputPublicationAcknowledgement where
  acknowledged : Bool
  publisher : String
  receiptId : String
  publishedAt : ℤ
  deriving DecidableEq, Repr

/-- `ExecutionOutputVerificationRequest`. -/
structure ExecutionOutputVerificationRequest where
  executionId : Uuid
  executionAttempt : ℤ
  schema : String
  patterns : List String
  patternCounts : BTreeMap ℕ
  products : List OutputInventoryProduct
  inventorySha256 : String
  durableDestinationUri : String
  publication : OutputPublicationAcknowledgement

/-- The parts of a URL that the checks read. -/
structure Url where
  scheme : String
  username : String
  password : Option String
  hostStr : Option String
  path : String
  query : Option String
  fragment : Option String
  deriving DecidableEq, Repr

/-- What the code does not contain: `serde_json`, SHA-256, `globset` and `url`. -/
structure InventoryEnv where
  text : ScalarText
  digest : List Char → String
  uuidText : Uuid → String
  timeText : ℤ → String
  fromValue : Json → Except String ExecutionOutputVerificationRequest
  buildGlob : String → Option (String → Bool)
  parseUrl : String → Option Url

/-- `OutputInventoryValidationKind`. -/
inductive OutputInventoryValidationKind where
  | invalidReport
  | policyConflict
  deriving DecidableEq, Repr

/-- `OutputInventoryValidationError`. -/
structure OutputInventoryValidationError where
  kind : OutputInventoryValidationKind
  message : String
  deriving DecidableEq, Repr

/-- `OutputInventoryValidationError::invalid`. -/
def OutputInventoryValidationError.invalid (message : String) : OutputInventoryValidationError :=
  ⟨.invalidReport, message⟩

/-- `OutputInventoryValidationError::conflict`. -/
def OutputInventoryValidationError.conflict (message : String) : OutputInventoryValidationError :=
  ⟨.policyConflict, message⟩

/-- `MAX_OUTPUT_INVENTORY_BYTES`. -/
def maxOutputInventoryBytes : ℕ := 32 * 1024 * 1024

/-- `MAX_OUTPUT_PRODUCTS`. -/
def maxOutputProducts : ℕ := 100000

/-- `MAX_OUTPUT_PATTERN_LENGTH`. -/
def maxOutputPatternLength : ℕ := 256

/-- `BEAMPIPE_OUTPUT_INVENTORY_SCHEMA`. -/
def beampipeOutputInventorySchema : String := "beampipe-output-inventory/v1"

/-- `output_inventory_media_type`. -/
def outputInventoryMediaType (schema : String) : Option String :=
  if schema = beampipeOutputInventorySchema then
    some "application/vnd.beampipe.output-inventory+json"
  else none

/-! ### Paths and patterns -/

/-- A component of a relative path that leads nowhere or elsewhere. -/
def isUnsafeComponent (component : List Char) : Bool :=
  component.isEmpty || component == ['.'] || component == ['.', '.']

/-- The path, without white space at its ends, is not a safe relative path. -/
def isUnsafePath (productPath : String) : Bool :=
  let path := (trim productPath).toList
  path.isEmpty || decide (4096 < (trim productPath).utf8ByteSize) || path.head? == some '/' ||
    path.contains '\\' || path.contains (Char.ofNat 0) || (splitSlash path).any isUnsafeComponent

/-- `valid_output_glob`. -/
def validOutputGlob (pattern : String) : Bool :=
  let chars := pattern.toList
  !pattern.isEmpty && trim pattern == pattern &&
    decide (pattern.utf8ByteSize ≤ maxOutputPatternLength) && chars.head? != some '/' &&
    !chars.contains '\\' && !(chars.any fun c => isControl c || ['[', ']', '{', '}'].contains c) &&
    !(splitSlash chars).any isUnsafeComponent &&
    (splitSlash chars).all fun component =>
      !containsChars ['*', '*'] component || component == ['*', '*']

/-- `OutputGlob::compile`. -/
def compileOutputGlob (env : InventoryEnv) (pattern : String) : Option (String → Bool) :=
  if validOutputGlob pattern then env.buildGlob pattern else none

/-- `valid_sha256`. -/
def validSha256 (value : String) : Bool := Store.isLowerHexDigest value

/-! ### Values -/

/-- The serialized product. -/
def OutputInventoryProduct.toValue (product : OutputInventoryProduct) : Json :=
  .obj [("path", .str product.path), ("bytes", .num (.int product.bytes)),
    ("sha256", .str product.sha256)]

section Env

variable (env : InventoryEnv)

/-- The serialized acknowledgement. -/
def OutputPublicationAcknowledgement.toValue (publication : OutputPublicationAcknowledgement) :
    Json :=
  .obj [("acknowledged", .bool publication.acknowledged), ("publisher", .str publication.publisher),
    ("receipt_id", .str publication.receiptId),
    ("published_at", .str (env.timeText publication.publishedAt))]

/-- The serialized report. -/
def ExecutionOutputVerificationRequest.toValue (request : ExecutionOutputVerificationRequest) :
    Json :=
  .obj [("execution_id", .str (env.uuidText request.executionId)),
    ("execution_attempt", .num (.int request.executionAttempt)),
    ("schema", .str request.schema),
    ("patterns", .arr (request.patterns.map .str)),
    ("pattern_counts", .obj (request.patternCounts.toList.map fun entry =>
      (entry.1, .num (.int entry.2)))),
    ("products", .arr (request.products.map OutputInventoryProduct.toValue)),
    ("inventory_sha256", .str request.inventorySha256),
    ("durable_destination_uri", .str request.durableDestinationUri),
    ("publication", request.publication.toValue env)]

/-- `canonical_json_bytes`: it writes what `stable_json` writes. -/
def canonicalJsonBytes (value : Json) : List Char := value.stableJson env.text

/-- `canonical_products_sha256`. -/
def canonicalProductsSha256 (products : List OutputInventoryProduct) : String :=
  env.digest (canonicalJsonBytes env (.arr (products.map OutputInventoryProduct.toValue)))

/-! ### The checks -/

/-- The check passes, or this is its error. -/
def ensure (passes : Bool) (error : OutputInventoryValidationError) :
    Except OutputInventoryValidationError Unit :=
  if passes then .ok () else .error error

/-- What succeeds after a check goes on to succeed when the rest does. -/
theorem bind_ok_mono {ε α β : Type} {x : Except ε α} {f g : α → Except ε β} {b : β}
    (h : ∀ a, f a = .ok b → g a = .ok b) (hok : x >>= f = .ok b) : x >>= g = .ok b := by
  cases x with
  | error error => cases hok
  | ok a => exact h a hok

/-- What succeeds after a check goes on to succeed when the check asks for less. -/
theorem ensure_bind_mono {passes passes' : Bool} {error : OutputInventoryValidationError} {β : Type}
    {f : Unit → Except OutputInventoryValidationError β} {b : β}
    (h : passes = true → passes' = true) (hok : ensure passes error >>= f = .ok b) :
    ensure passes' error >>= f = .ok b := by
  cases hpasses : passes with
  | false =>
      rw [hpasses] at hok
      cases hok
  | true =>
      rw [h hpasses]
      rwa [hpasses] at hok

/-- `validate_durable_destination_uri`. -/
def validateDurableDestinationUri (value : String) : Except OutputInventoryValidationError Unit :=
  match env.parseUrl value with
  | none => .error (.invalid "durable_destination_uri must be an absolute URI")
  | some url => do
      ensure (url.query.isNone && url.fragment.isNone && url.username.isEmpty &&
          url.password.isNone)
        (.invalid
          "durable_destination_uri must not contain credentials, a query, or a fragment")
      let admitted :=
        match url.scheme with
        | "s3" | "gs" | "https" => url.hostStr.isSome
        | "file" => url.path.toList.head? == some '/' && decide (1 < url.path.utf8ByteSize)
        | _ => false
      ensure admitted
        (.invalid "durable_destination_uri must use s3, gs, https, or an absolute file URI")

/-- The products one after the other, with the paths seen so far and the size so far. -/
def validateProducts : List String → ℕ → List OutputInventoryProduct →
    Except OutputInventoryValidationError ℕ
  | _, total, [] => .ok total
  | paths, total, product :: products => do
      ensure (!isUnsafePath product.path)
        (.invalid ("every output product requires a safe relative path without '.', '..', or "
          ++ "empty components"))
      ensure (product.bytes != 0)
        (.invalid s!"output product '{product.path}' must be non-empty")
      ensure (!paths.contains product.path)
        (.invalid s!"output product path is duplicated: {product.path}")
      ensure (validSha256 product.sha256)
        (.invalid s!"output product '{product.path}' has an invalid lowercase SHA-256")
      ensure (decide (total + product.bytes < 18446744073709551616))
        (.invalid "total output product size overflows u64")
      validateProducts (product.path :: paths) (total + product.bytes) products

/-- The count of one expected pattern is the number of products that it matches. -/
def validatePatternCount (request : ExecutionOutputVerificationRequest) (pattern : String) :
    Except OutputInventoryValidationError Unit :=
  match compileOutputGlob env pattern with
  | none => .error (.conflict "pinned output policy has an invalid glob")
  | some isMatch =>
      let actualCount := (request.products.filter fun product => isMatch product.path).length
      let claimedCount := request.patternCounts[pattern]?.getD 0
      ensure (actualCount != 0 && claimedCount == actualCount)
        (.invalid (s!"pattern_counts['{pattern}'] must equal the positive match count "
          ++ s!"{actualCount} computed from products"))

/-- An acknowledgement names its publisher and its receipt. -/
def validatePublicationField (field value : String) :
    Except OutputInventoryValidationError Unit :=
  ensure (!isBlank value && decide (value.utf8ByteSize ≤ 256))
    (.invalid s!"{field} must contain 1-256 characters")

/-- The expected patterns of the policy, when all of them are strings. -/
def expectedPatterns (policy : Json) : Option (List String) :=
  match policy.get "expected_patterns" with
  | some (.arr patterns) => patterns.mapM Json.asStr
  | _ => none

/-- `validate_output_verification_request_at`: the total size of the products. -/
def validateOutputVerificationRequestAt (request : ExecutionOutputVerificationRequest)
    (outputVerificationRequired : Bool) (outputVerificationPolicy : Json)
    (expectedExecutionId : Uuid) (expectedExecutionAttempt : ℤ) (now : ℤ) :
    Except OutputInventoryValidationError ℕ := do
  ensure outputVerificationRequired
    (.conflict "this execution explicitly opts out of output verification")
  ensure (request.executionId == expectedExecutionId)
    (.conflict (s!"inventory execution_id {env.uuidText request.executionId} does not match "
      ++ s!"execution {env.uuidText expectedExecutionId}"))
  ensure (request.executionAttempt == expectedExecutionAttempt)
    (.conflict (s!"inventory execution_attempt {request.executionAttempt} does not match the "
      ++ s!"current execution attempt {expectedExecutionAttempt}"))
  match (outputVerificationPolicy.get "inventory_schema").bind Json.asStr with
  | none => .error (.conflict "pinned output policy is invalid")
  | some expectedSchema => do
      ensure (request.schema == expectedSchema)
        (.conflict (s!"inventory schema '{request.schema}' does not match pinned schema "
          ++ s!"'{expectedSchema}'"))
      ensure (outputInventoryMediaType expectedSchema).isSome
        (.conflict s!"pinned output inventory schema '{expectedSchema}' is unsupported")
      match expectedPatterns outputVerificationPolicy with
      | none => .error (.conflict "pinned output policy has no valid expected_patterns")
      | some patterns => do
          ensure (!patterns.isEmpty)
            (.conflict "required output policy has no expected patterns")
          ensure (request.patterns == patterns)
            (.conflict ("inventory patterns do not exactly match the execution's pinned "
              ++ "expected_patterns"))
          ensure (decide request.patterns.Nodup &&
              request.patternCounts.size == request.patterns.length &&
              (request.patterns.all fun pattern => request.patternCounts.contains pattern &&
                (compileOutputGlob env pattern).isSome) &&
              request.patternCounts.toList.all fun entry => entry.2 != 0)
            (.invalid ("patterns must be unique safe relative patterns and pattern_counts must "
              ++ "contain one positive count for each pattern"))
          ensure (!request.products.isEmpty &&
              decide (request.products.length ≤ maxOutputProducts))
            (.invalid s!"products must contain between 1 and {maxOutputProducts} entries")
          let totalBytes ← validateProducts [] 0 request.products
          patterns.forM (validatePatternCount env request)
          ensure (validSha256 request.inventorySha256)
            (.invalid "inventory_sha256 must be 64 lowercase hexadecimal characters")
          ensure (request.inventorySha256 == canonicalProductsSha256 env request.products)
            (.invalid ("inventory_sha256 does not match canonical products JSON (expected "
              ++ s!"{canonicalProductsSha256 env request.products})"))
          validateDurableDestinationUri env request.durableDestinationUri
          ensure request.publication.acknowledged
            (.invalid "publication.acknowledged must be true")
          validatePublicationField "publication.publisher" request.publication.publisher
          validatePublicationField "publication.receipt_id" request.publication.receiptId
          ensure (decide (request.publication.publishedAt ≤ now + 300000000000))
            (.invalid ("publication.published_at cannot be more than five minutes in the "
              ++ "future"))
          pure totalBytes

/-- A report that is valid stays valid as time goes on. -/
theorem validateOutputVerificationRequestAt_mono {request : ExecutionOutputVerificationRequest}
    {required : Bool} {policy : Json} {executionId : Uuid} {attempt now later : ℤ} {total : ℕ}
    (hle : now ≤ later)
    (h : validateOutputVerificationRequestAt env request required policy executionId attempt now =
      .ok total) :
    validateOutputVerificationRequestAt env request required policy executionId attempt later =
      .ok total := by
  revert h
  unfold validateOutputVerificationRequestAt
  iterate 3 refine bind_ok_mono fun _ => ?_
  split
  · intro h
    cases h
  iterate 2 refine bind_ok_mono fun _ => ?_
  split
  · intro h
    cases h
  -- of the remaining checks only the last one reads the clock
  iterate 12 refine bind_ok_mono fun _ => ?_
  refine ensure_bind_mono fun hpublished => ?_
  rw [decide_eq_true_iff] at hpublished ⊢
  omega

/-! ### The artifact -/

/-- The number of bytes of a text. -/
def utf8Length (text : List Char) : ℕ := text.foldl (fun bytes c => bytes + c.utf8Size) 0

/-- `build_output_inventory_artifact`, as the artifact that it becomes. -/
def buildOutputInventoryArtifact (request : ExecutionOutputVerificationRequest)
    (totalProductBytes : ℕ) : Except OutputInventoryValidationError ExecutionArtifactInput := do
  let report := request.toValue env
  ensure (decide (utf8Length (canonicalJsonBytes env report) ≤ maxOutputInventoryBytes))
    (.invalid s!"output inventory report exceeds {maxOutputInventoryBytes} bytes")
  match outputInventoryMediaType request.schema with
  | none => .error (.conflict s!"output inventory schema '{request.schema}' is unsupported")
  | some mediaType =>
      pure
        { kind := "output_inventory"
          storageKind := "remote"
          uri := some request.durableDestinationUri
          inlineJson := some report
          mediaType := mediaType
          sha256 := report
          producerPhase := "publication_acknowledged"
          metadata :=
            .obj [("execution_id", .str (env.uuidText request.executionId)),
              ("execution_attempt", .num (.int request.executionAttempt)),
              ("inventory_schema", .str request.schema),
              ("inventory_sha256", .str request.inventorySha256),
              ("product_count", .num (.int request.products.length)),
              ("total_product_bytes", .num (.int totalProductBytes)),
              ("publication", request.publication.toValue env)] }

/-- Apart from its metadata, the artifact of a report does not depend on the size of the products. -/
theorem buildOutputInventoryArtifact_ok {request : ExecutionOutputVerificationRequest} {total : ℕ}
    {artifact : ExecutionArtifactInput}
    (h : buildOutputInventoryArtifact env request total = .ok artifact) :
    ∃ mediaType, outputInventoryMediaType request.schema = some mediaType ∧
      artifact =
        { kind := "output_inventory"
          storageKind := "remote"
          uri := some request.durableDestinationUri
          inlineJson := some (request.toValue env)
          mediaType := mediaType
          sha256 := request.toValue env
          producerPhase := "publication_acknowledged"
          metadata := artifact.metadata } := by
  unfold buildOutputInventoryArtifact at h
  cases hmedia : outputInventoryMediaType request.schema with
  | none =>
      simp only [hmedia, ensure] at h
      split at h <;> cases h
  | some mediaType =>
      refine ⟨mediaType, rfl, ?_⟩
      simp only [hmedia, ensure] at h
      split at h
      · cases h
        rfl
      · cases h

/-- What `verify_execution_outputs` asks of an artifact: its report is valid for the attempt, and the
artifact is the one built from the report. -/
def acceptInventory (required : Bool) (policy : Json) (executionId : Uuid) (attempt : ℕ) (now : ℤ)
    (artifact : ExecutionArtifactInput) : Except String Unit :=
  match artifact.inlineJson with
  | none => .error "output inventory report is missing"
  | some value =>
      match env.fromValue value with
      | .error error => .error s!"output inventory report is invalid: {error}"
      | .ok report =>
          match validateOutputVerificationRequestAt env report required policy executionId attempt
              now with
          | .error error => .error error.message
          | .ok total =>
              match buildOutputInventoryArtifact env report total with
              | .error error => .error error.message
              | .ok canonical =>
                  if artifact = canonical then .ok ()
                  else .error "output inventory artifact does not match its canonical report"

/-- An accepted artifact is the one built from a report that is valid for the attempt. -/
theorem acceptInventory_ok {env : InventoryEnv} {required : Bool} {policy : Json}
    {executionId : Uuid} {attempt : ℕ} {now : ℤ} {artifact : ExecutionArtifactInput}
    (h : acceptInventory env required policy executionId attempt now artifact = .ok ()) :
    ∃ value report total, artifact.inlineJson = some value ∧ env.fromValue value = .ok report ∧
      validateOutputVerificationRequestAt env report required policy executionId attempt now =
        .ok total ∧
      buildOutputInventoryArtifact env report total = .ok artifact := by
  unfold acceptInventory at h
  split at h
  · cases h
  next value hvalue =>
    split at h
    · cases h
    next report hreport =>
      split at h
      · cases h
      next total htotal =>
        split at h
        · cases h
        next canonical hcanonical =>
          split at h
          next hsame => exact ⟨value, report, total, hvalue, hreport, htotal, hsame ▸ hcanonical⟩
          · cases h

/-- What is accepted at one time is accepted later. -/
theorem acceptInventory_mono {env : InventoryEnv} {required : Bool} {policy : Json}
    {executionId : Uuid} {attempt : ℕ} {now later : ℤ} {artifact : ExecutionArtifactInput}
    (hle : now ≤ later)
    (h : acceptInventory env required policy executionId attempt now artifact = .ok ()) :
    acceptInventory env required policy executionId attempt later artifact = .ok () := by
  obtain ⟨value, report, total, hvalue, hreport, hvalid, hbuild⟩ := acceptInventory_ok h
  have hlater := validateOutputVerificationRequestAt_mono env hle hvalid
  simp [acceptInventory, hvalue, hreport, hlater, hbuild]

/-- Accepted artifacts with the same document and metadata are equal. -/
theorem acceptInventory_unique {env : InventoryEnv} {required : Bool} {policy : Json}
    {executionId : Uuid} {attempt attempt' : ℕ} {now now' : ℤ}
    {artifact artifact' : ExecutionArtifactInput} {row : ExecutionArtifactRow}
    (h : acceptInventory env required policy executionId attempt now artifact = .ok ())
    (h' : acceptInventory env required policy executionId attempt' now' artifact' = .ok ())
    (hrow : row.Holds artifact) (hrow' : row.Holds artifact') : artifact' = artifact := by
  obtain ⟨value, report, total, hvalue, hreport, -, hbuild⟩ := acceptInventory_ok h
  obtain ⟨value', report', total', hvalue', hreport', -, hbuild'⟩ := acceptInventory_ok h'
  have hsame : some value' = some value := by
    rw [← hvalue, ← hvalue', ← hrow.inlineJson, ← hrow'.inlineJson]
  obtain rfl := Option.some.inj hsame
  obtain rfl := Except.ok.inj (hreport'.symm.trans hreport)
  have hmetadata : artifact'.metadata = artifact.metadata := by
    rw [← hrow.metadata, ← hrow'.metadata]
  -- all the rest is a function of the report
  obtain ⟨mediaType, hmedia, heq⟩ := buildOutputInventoryArtifact_ok env hbuild
  obtain ⟨mediaType', hmedia', heq'⟩ := buildOutputInventoryArtifact_ok env hbuild'
  obtain rfl := Option.some.inj (hmedia'.symm.trans hmedia)
  rw [heq, heq', hmetadata]

end Env

end Beampipe
