/-
**Preparing a logical graph for a manifest.**

The manifest is embedded in the graph as a configuration of its ingest node, and the patches of the
manifest are applied to the fields of the nodes, one after the other.  A patch with a target fails
when it finds no node of the name, or no field of a name that it sets, but it takes every node and
every field that it finds: an ambiguous target is not an error.

A patch changes values only, so names stay what they are, and what a patch finds does not depend on
the patches before it.  In the end a field holds the value of the last patch that names it, and
everything else in the graph is as it was.

Main definitions:

* `Beampipe.Graph.injectManifestConfigIntoGraph`, `Beampipe.Graph.applyManifestGraphOverrides`,
  `Beampipe.Graph.prepareGraphForManifest` — the preparation;
* `Beampipe.Graph.nodeWrites` — what the patches write to the fields of a node;
* `Beampipe.Graph.FaithfulPreparation` — what the preparation should ensure;
* `Beampipe.Graph.UniqueTargets`, `Beampipe.Graph.ReadableManifest` — when it does.

Main results:

* `Beampipe.Graph.applyPatches_ok` — the patches together, and what they have found;
* `Beampipe.Graph.fieldPatched_foldl` — **the last write to a field counts**;
* `Beampipe.Graph.faithfulPreparation_iff` — when the preparation is faithful.
-/

import Beampipe.JsonText
import Beampipe.LastWrite
import Beampipe.PhysicalGraph
import Mathlib.Data.List.Induction

set_option relaxedAutoImplicit false
set_option autoImplicit false

namespace Beampipe.Graph

/-! ### Reading a graph -/

/-- The array under a key. -/
def arrayAt (key : String) (value : Json) : Option (List Json) :=
  match value.get key with
  | some (.arr items) => some items
  | _ => none

/-- The name of a node, of a field, or of an entry of a patch. -/
def nameOf (value : Json) : Option String := (value.get "name").bind Json.asStr

/-- The id of the first field for the path of the manifest, up to what is no object. -/
def manifestField : List Json → Option String
  | [] => none
  | field :: fields =>
      if !field.isObject then none
      else if nameOf field = some "manifest_path" then (field.get "id").bind Json.asStr
      else manifestField fields

/-- `resolve_beampipe_ingest_uuids`. -/
def resolveBeampipeIngestUuids (graph : Json) : Option (String × String) := do
  let nodes ← arrayAt "nodeDataArray" graph
  let node ← nodes.find? fun node => nameOf node == some "beampipe-ingest"
  let nodeId ← (node.get "id").bind Json.asStr
  let fields ← arrayAt "fields" node
  let fieldId ← manifestField fields
  some (nodeId, fieldId)

/-! ### Embedding the manifest -/

/-- Why a graph is not prepared. -/
inductive GraphError where
  | graphNotObject
  | graphPatchNodeNotFound (node : String)
  | graphPatchFieldNotFound (node field : String)
  deriving DecidableEq, Repr

section Preparation

variable (t : ScalarText)

/-- The members of the manifest that are embedded. -/
def embedContent : Json → Json
  | .obj fields => .obj (Json.removeField "graph_overrides" fields)
  | _ => .obj []

/-- The text that is embedded. -/
def embeddedText (manifest : Json) : String := String.ofList ((embedContent manifest).toText t)

/-- The configuration with the manifest, at a time. -/
def manifestConfig (configId nodeId fieldId : String) (now : ℤ) (graph manifest : Json) : Json :=
  .obj [
    ("id", .str configId),
    ("modelData", .obj [
      ("name", .str "beampipe-core Auto-generated Manifest"),
      ("shortDescription",
        .str "Manifest embedded automatically by beampipe-core at submit time."),
      ("detailedDescription", .str ("This configuration was auto-generated by beampipe and " ++
        "embeds the data manifest via the beampipe-ingest node.")),
      ("type", .str "GraphConfig"),
      ("schemaVersion", .str "1.0"),
      ("readonly", .bool true),
      ("location", .obj [
        ("repositoryService", .str "Beampipe"),
        ("repositoryBranch", .str ""),
        ("repositoryName", .str ""),
        ("repositoryPath", .str ""),
        ("repositoryFileName", .str ""),
        ("commitHash", .str ""),
        ("downloadUrl", .str "")]),
      ("generatorVersion", .str "beampipe-v1"),
      ("generatorCommitHash", .str ""),
      ("generatorName", .str "beampipe"),
      ("repositoryUrl", .str ""),
      ("graphLocation", .obj []),
      ("signature", .str ""),
      ("lastModifiedName", .str "beampipe-core System"),
      ("lastModifiedEmail", .str ""),
      ("lastModifiedDatetime", .num (.int now)),
      ("numLGNodes", .num (.int ((arrayAt "nodeDataArray" graph).getD []).length))]),
    ("nodes", .obj [(nodeId, .obj [("fields", .obj [(fieldId,
      .obj [("value", .str (embeddedText t manifest)), ("comment", .str "")])])])])]

/-- `inject_manifest_config_into_graph`, with the id of the configuration and the time. -/
def injectManifestConfigIntoGraph (configId : String) (now : ℤ) (graph manifest : Json) :
    Except GraphError Json :=
  match resolveBeampipeIngestUuids graph with
  | none => .ok graph
  | some (nodeId, fieldId) =>
      match (graph.get "graphConfigurations").getD (.obj []) with
      | .obj configs =>
          let config := manifestConfig t configId nodeId fieldId now graph manifest
          .ok <| Json.insert "activeGraphConfigId" (.str configId) <|
            Json.insert "graphConfigurations" (.obj (Json.insertField configId config configs))
              graph
      | _ => .error .graphNotObject

/-! ### Patches -/

/-- A patch that is applied: what it matches, and the fields it sets. -/
structure Patch where
  kind : Option String
  expected : Option String
  fields : List Json
  deriving Repr

/-- The patch, unless it lacks the object that says what it matches or the array of its fields. -/
def readPatch (patch : Json) : Option Patch :=
  match patch.get "match" with
  | some (.obj spec) =>
      (arrayAt "fields" patch).map fun fields =>
        { kind := (Json.lookupField "kind" spec).bind Json.asStr
          expected := (Json.lookupField "equals" spec).bind Json.asStr
          fields := fields }
  | _ => none

/-- The node is one that the patch matches. -/
def Patch.matchesNode (patch : Patch) (node : Json) : Bool :=
  node.isObject &&
    match patch.kind, patch.expected with
    | some "node_name", some expected => nameOf node == some expected
    | _, some expected => nameOf node == some expected
    | _, none => true

/-- The name and the value an entry of a patch sets. -/
def fieldWrite (entry : Json) : Option (String × Json) :=
  (nameOf entry).map fun name => (name, (entry.get "value").getD .null)

/-- What the patch sets. -/
def Patch.writes (patch : Patch) : List (String × Json) := patch.fields.filterMap fieldWrite

/-- The type of the field is `Integer`. -/
def isInteger (field : Json) : Bool := (field.get "type").bind Json.asStr == some "Integer"

/-- A field after a write; only one of the name takes the value. -/
def writeField (field : Json) (write : String × Json) : Json :=
  if nameOf field = some write.1 then
    let written := Json.insert "value" write.2 field
    if isInteger written then
      Json.insert "defaultValue" (.str (String.ofList (write.2.toText t))) written
    else written
  else field

/-- A node after a patch. -/
def patchNode (patch : Patch) (node : Json) : Json :=
  if patch.matchesNode node then
    match arrayAt "fields" node with
    | some fields =>
        Json.insert "fields" (.arr (patch.writes.foldl
          (fun fields write => fields.map fun field => writeField t field write) fields)) node
    | none => node
  else node

/-- Some node that the patch matches has a field of the name. -/
def Patch.findsField (patch : Patch) (nodes : List Json) (name : String) : Bool :=
  nodes.any fun node => patch.matchesNode node &&
    ((arrayAt "fields" node).getD []).any fun field => nameOf field == some name

/-- The body of the loop over the patches. -/
def applyPatch (nodes : List Json) (patch : Patch) : Except GraphError (List Json) :=
  match patch.expected with
  | none => .ok (nodes.map (patchNode t patch))
  | some expected =>
      if !nodes.any patch.matchesNode then .error (.graphPatchNodeNotFound expected)
      else
        match patch.writes.find? fun write => !patch.findsField nodes write.1 with
        | some write => .error (.graphPatchFieldNotFound expected write.1)
        | none => .ok (nodes.map (patchNode t patch))

/-- The loop over the patches. -/
def applyPatches : List Json → List Json → Except GraphError (List Json)
  | nodes, [] => .ok nodes
  | nodes, patch :: patches =>
      match readPatch patch with
      | none => applyPatches nodes patches
      | some patch => do
          let nodes ← applyPatch t nodes patch
          applyPatches nodes patches

/-- The patches of a manifest. -/
def overridePatches (manifest : Json) : Option (List Json) :=
  (manifest.get "graph_overrides").bind (arrayAt "patches")

/-- `apply_manifest_graph_overrides`. -/
def applyManifestGraphOverrides (graph manifest : Json) : Except GraphError Json :=
  match overridePatches manifest with
  | none => .ok graph
  | some patches =>
      match arrayAt "nodeDataArray" graph with
      | none => .error .graphNotObject
      | some nodes => do
          let nodes ← applyPatches t nodes patches
          .ok (Json.insert "nodeDataArray" (.arr nodes) graph)

/-- `prepare_graph_for_manifest`. -/
def prepareGraphForManifest (configId : String) (now : ℤ) (graph manifest : Json) :
    Except GraphError Json := do
  let graph ← injectManifestConfigIntoGraph t configId now graph manifest
  applyManifestGraphOverrides t graph manifest

/-! ### Writes to a field -/

theorem get_insert_eq {key other : String} {value json : Json} (h : json.isObject = true) :
    (Json.insert key value json).get other =
      if other = key then some value else json.get other := by
  cases json with
  | obj fields =>
      by_cases hkey : other = key
      · subst hkey
        rw [if_pos rfl, Json.get_insert_self]
      · rw [if_neg hkey, Json.get_insert_ne hkey]
  | _ => cases h

@[simp] theorem isObject_insert (key : String) (value json : Json) :
    (Json.insert key value json).isObject = json.isObject := by
  cases json <;> rfl

theorem isObject_of_get {key : String} {value json : Json} (h : json.get key = some value) :
    json.isObject = true := by
  cases json with
  | obj fields => rfl
  | _ => cases h

theorem nameOf_insert {key : String} (h : "name" ≠ key) (value json : Json) :
    nameOf (Json.insert key value json) = nameOf json := by
  rw [nameOf, Json.get_insert_ne h, nameOf]

theorem isInteger_insert {key : String} (h : "type" ≠ key) (value json : Json) :
    isInteger (Json.insert key value json) = isInteger json := by
  rw [isInteger, Json.get_insert_ne h, isInteger]

@[simp] theorem nameOf_writeField (field : Json) (write : String × Json) :
    nameOf (writeField t field write) = nameOf field := by
  by_cases hname : nameOf field = some write.1
  · by_cases hinteger : isInteger (Json.insert "value" write.2 field)
    · simp [writeField, hname, hinteger, nameOf_insert]
    · simp [writeField, hname, hinteger, nameOf_insert]
  · simp [writeField, hname]

@[simp] theorem nameOf_foldl_writeField (writes : List (String × Json)) (field : Json) :
    nameOf (writes.foldl (writeField t) field) = nameOf field := by
  induction writes generalizing field with
  | nil => rfl
  | cons write writes ih => rw [List.foldl_cons, ih, nameOf_writeField]

/-- The value of the last write to a name. -/
def lastWrite (writes : List (String × Json)) (name : String) : Option Json :=
  LastWrite.last (fun write => some write.1) Prod.snd writes name

/-- What the last write to the field is. -/
def fieldValue (writes : List (String × Json)) (field : Json) : Option Json :=
  (nameOf field).bind (lastWrite writes)

/-- A field after writes: it holds the value of the last write to its name, an integer has its text
as the default as well, and the rest of the field is unchanged; without a write all of it is. -/
structure FieldPatched (writes : List (String × Json)) (field field' : Json) : Prop where
  unwritten : fieldValue writes field = none → field' = field
  value : ∀ value, fieldValue writes field = some value →
    field'.get "value" = some value ∧
      (isInteger field = true →
        field'.get "defaultValue" = some (.str (String.ofList (value.toText t))))
  others : ∀ key, key ≠ "value" → (isInteger field = true → key ≠ "defaultValue") →
    field'.get key = field.get key

/-- One more write to a field. -/
theorem fieldValue_append (writes : List (String × Json)) (write : String × Json) (field : Json) :
    fieldValue (writes ++ [write]) field =
      if nameOf field = some write.1 then some write.2 else fieldValue writes field := by
  unfold fieldValue
  cases hname : nameOf field with
  | none => simp
  | some name =>
      simp only [Option.bind_some, lastWrite, LastWrite.last_append, LastWrite.last,
        Option.some.injEq]
      by_cases hwrite : name = write.1
      · subst hwrite
        simp
      · simp [hwrite, Ne.symm hwrite]

/-- **The last write to a field counts.** -/
theorem fieldPatched_foldl (writes : List (String × Json)) (field : Json) :
    FieldPatched t writes field (writes.foldl (writeField t) field) := by
  induction writes using List.reverseRecOn with
  | nil =>
      have hnone : fieldValue [] field = none := by
        cases hname : nameOf field <;> simp [fieldValue, hname, lastWrite, LastWrite.last]
      refine ⟨fun _ => rfl, fun value h => ?_, fun _ _ _ => rfl⟩
      rw [hnone] at h
      cases h
  | append_singleton writes write ih =>
      rw [List.foldl_append, List.foldl_cons, List.foldl_nil]
      generalize hwritten : writes.foldl (writeField t) field = written at ih
      have hname : nameOf written = nameOf field := by
        rw [← hwritten, nameOf_foldl_writeField]
      have htype : isInteger written = isInteger field := by
        rw [isInteger, ih.others "type" (by decide) fun _ => by decide, isInteger]
      by_cases hmatches : nameOf field = some write.1
      · have hobject : written.isObject = true := by
          rw [← hname] at hmatches
          obtain ⟨value, hvalue, -⟩ := Option.bind_eq_some_iff.mp hmatches
          exact isObject_of_get hvalue
        have hget : ∀ key, (writeField t written write).get key =
            if key = "defaultValue" ∧ isInteger field = true then
              some (.str (String.ofList (write.2.toText t)))
            else if key = "value" then some write.2 else written.get key := by
          intro key
          rw [writeField, hname, if_pos hmatches]
          simp only [isInteger_insert (show "type" ≠ "value" by decide), htype]
          by_cases hinteger : isInteger field = true
          · simp [hinteger, get_insert_eq, hobject]
          · simp [hinteger, get_insert_eq, hobject]
        have hvalue : fieldValue (writes ++ [write]) field = some write.2 := by
          rw [fieldValue_append, if_pos hmatches]
        refine ⟨fun hnone => ?_, fun value hsome => ?_, fun key hkey hdefault => ?_⟩
        · rw [hvalue] at hnone
          cases hnone
        · cases hvalue.symm.trans hsome
          refine ⟨by simp [hget], fun hinteger => by simp [hget, hinteger]⟩
        · rw [hget, if_neg fun h => hdefault h.2 h.1, if_neg hkey, ih.others key hkey hdefault]
      · have hsame : writeField t written write = written := by
          rw [writeField, hname, if_neg hmatches]
        have hvalue : fieldValue (writes ++ [write]) field = fieldValue writes field := by
          rw [fieldValue_append, if_neg hmatches]
        rw [hsame]
        exact ⟨fun h => ih.unwritten (hvalue ▸ h), fun value h => ih.value value (hvalue ▸ h),
          ih.others⟩

/-! ### Writes to a node -/

theorem arrayAt_eq_some_iff {key : String} {value : Json} {items : List Json} :
    arrayAt key value = some items ↔ value.get key = some (.arr items) := by
  unfold arrayAt
  cases value.get key with
  | none => simp
  | some found => cases found <;> simp

/-- A node after writes to its fields. -/
def writeNode (writes : List (String × Json)) (node : Json) : Json :=
  match arrayAt "fields" node with
  | some fields => Json.insert "fields" (.arr (fields.map (writes.foldl (writeField t)))) node
  | none => node

/-- What a patch writes to the fields of a node. -/
def Patch.writesTo (patch : Patch) (node : Json) : List (String × Json) :=
  if patch.matchesNode node then patch.writes else []

/-- What the patches write to the fields of a node. -/
def nodeWrites (patches : List Json) (node : Json) : List (String × Json) :=
  (patches.filterMap readPatch).flatMap fun patch => patch.writesTo node

theorem writeNode_nil (node : Json) : writeNode t [] node = node := by
  unfold writeNode
  cases hfields : arrayAt "fields" node with
  | none => rfl
  | some fields =>
      cases node with
      | obj members =>
          have hsame : fields.map (List.foldl (writeField t) · []) = fields := by
            simp
          have hget := arrayAt_eq_some_iff.mp hfields
          simp only [hsame]
          exact congrArg Json.obj (Json.insertField_eq_self hget)
      | _ => cases hfields

/-- Each field takes the writes one after the other. -/
theorem foldl_map_writeField (writes : List (String × Json)) (fields : List Json) :
    writes.foldl (fun fields write => fields.map fun field => writeField t field write) fields =
      fields.map (writes.foldl (writeField t)) := by
  induction writes generalizing fields with
  | nil => simp
  | cons write writes ih =>
      rw [List.foldl_cons, ih, List.map_map]
      rfl

theorem patchNode_eq (patch : Patch) (node : Json) :
    patchNode t patch node = writeNode t (patch.writesTo node) node := by
  by_cases hmatches : patch.matchesNode node = true
  · rw [patchNode, if_pos hmatches, writeNode, Patch.writesTo, if_pos hmatches]
    simp only [foldl_map_writeField]
  · rw [patchNode, if_neg hmatches, Patch.writesTo, if_neg hmatches, writeNode_nil]

theorem arrayAt_writeNode (writes : List (String × Json)) (node : Json) :
    arrayAt "fields" (writeNode t writes node) =
      (arrayAt "fields" node).map fun fields => fields.map (writes.foldl (writeField t)) := by
  cases hfields : arrayAt "fields" node with
  | none =>
      rw [writeNode, hfields]
      exact hfields
  | some fields =>
      have hobject := isObject_of_get (arrayAt_eq_some_iff.mp hfields)
      rw [writeNode, hfields, Option.map_some, arrayAt_eq_some_iff]
      simp only [get_insert_eq hobject, if_true]

/-- The other members of the node are unchanged. -/
theorem get_writeNode (writes : List (String × Json)) (node : Json) {key : String}
    (hkey : key ≠ "fields") : (writeNode t writes node).get key = node.get key := by
  unfold writeNode
  cases arrayAt "fields" node with
  | none => rfl
  | some fields => exact Json.get_insert_ne hkey _ _

@[simp] theorem nameOf_writeNode (writes : List (String × Json)) (node : Json) :
    nameOf (writeNode t writes node) = nameOf node := by
  rw [nameOf, get_writeNode t writes node (by decide), nameOf]

@[simp] theorem isObject_writeNode (writes : List (String × Json)) (node : Json) :
    (writeNode t writes node).isObject = node.isObject := by
  unfold writeNode
  cases arrayAt "fields" node with
  | none => rfl
  | some fields => exact isObject_insert _ _ _

theorem writeNode_append (a b : List (String × Json)) (node : Json) :
    writeNode t (a ++ b) node = writeNode t b (writeNode t a node) := by
  cases hfields : arrayAt "fields" node with
  | none =>
      have hsame : ∀ writes : List (String × Json), writeNode t writes node = node := by
        intro writes
        rw [writeNode, hfields]
      rw [hsame a, hsame b, hsame]
  | some fields =>
      have hagain := arrayAt_writeNode t a node
      rw [hfields, Option.map_some] at hagain
      have hleft : writeNode t (a ++ b) node = Json.insert "fields"
          (.arr (fields.map ((a ++ b).foldl (writeField t)))) node := by
        rw [writeNode, hfields]
      have hright : writeNode t a node =
          Json.insert "fields" (.arr (fields.map (a.foldl (writeField t)))) node := by
        rw [writeNode, hfields]
      rw [hleft, writeNode, hagain, hright]
      simp only [List.map_map]
      cases node with
      | obj members =>
          refine congrArg Json.obj ?_
          rw [Json.insertField_insertField]
          congr 3
          funext field
          rw [List.foldl_append, Function.comp_apply]
      | _ => cases hfields

/-! ### What a patch finds does not depend on the writes before it -/

@[simp] theorem matchesNode_writeNode (patch : Patch) (writes : List (String × Json))
    (node : Json) : patch.matchesNode (writeNode t writes node) = patch.matchesNode node := by
  rw [Patch.matchesNode, Patch.matchesNode, isObject_writeNode, nameOf_writeNode]

theorem nodeWrites_writeNode (patches : List Json) (writes : List (String × Json)) (node : Json) :
    nodeWrites patches (writeNode t writes node) = nodeWrites patches node := by
  simp only [nodeWrites, Patch.writesTo, matchesNode_writeNode]

/-- The names of the fields of a node. -/
def fieldNames (node : Json) : List (Option String) :=
  ((arrayAt "fields" node).getD []).map nameOf

@[simp] theorem fieldNames_writeNode (writes : List (String × Json)) (node : Json) :
    fieldNames (writeNode t writes node) = fieldNames node := by
  unfold fieldNames
  rw [arrayAt_writeNode]
  cases arrayAt "fields" node with
  | none => rfl
  | some fields =>
      simp only [Option.map_some, Option.getD_some, List.map_map]
      exact List.map_congr_left fun field _ => nameOf_foldl_writeField t writes field

theorem findsField_eq (patch : Patch) (nodes : List Json) (name : String) :
    patch.findsField nodes name =
      nodes.any fun node => patch.matchesNode node && (fieldNames node).contains (some name) := by
  unfold Patch.findsField fieldNames
  congr 1
  funext node
  rw [Bool.eq_iff_iff]
  simp

/-- The patch has found its target, and every field it sets. -/
def Patch.Found (patch : Patch) (nodes : List Json) : Prop :=
  ∀ expected, patch.expected = some expected →
    nodes.any patch.matchesNode = true ∧
      ∀ write ∈ patch.writes, patch.findsField nodes write.1 = true

theorem found_map_writeNode (patch : Patch) (writes : Json → List (String × Json))
    (nodes : List Json) :
    patch.Found (nodes.map fun node => writeNode t (writes node) node) ↔ patch.Found nodes := by
  simp only [Patch.Found, findsField_eq, List.any_map, Function.comp_def, matchesNode_writeNode,
    fieldNames_writeNode]

theorem applyPatch_ok {nodes nodes' : List Json} {patch : Patch}
    (h : applyPatch t nodes patch = .ok nodes') :
    nodes' = nodes.map (patchNode t patch) ∧ patch.Found nodes := by
  unfold applyPatch at h
  split at h
  next hexpected =>
    cases h
    refine ⟨rfl, fun expected hsome => ?_⟩
    rw [hexpected] at hsome
    cases hsome
  next expected hexpected =>
    split at h
    · cases h
    next hany =>
      split at h
      · cases h
      next hfind =>
        cases h
        refine ⟨rfl, fun _ _ => ⟨by simpa using hany, fun write hwrite => ?_⟩⟩
        simpa using List.find?_eq_none.mp hfind write hwrite

/-- **The patches together**: every node takes the writes of the patches that match it, in their
order, and every patch with a target has found it. -/
theorem applyPatches_ok {nodes nodes' patches : List Json}
    (h : applyPatches t nodes patches = .ok nodes') :
    nodes' = nodes.map (fun node => writeNode t (nodeWrites patches node) node) ∧
      ∀ patch ∈ patches.filterMap readPatch, patch.Found nodes := by
  induction patches generalizing nodes with
  | nil =>
      cases h
      refine ⟨?_, fun patch hpatch => (List.not_mem_nil hpatch).elim⟩
      simp [nodeWrites, writeNode_nil]
  | cons patch patches ih =>
      unfold applyPatches at h
      cases hread : readPatch patch with
      | none =>
          simp only [hread] at h
          obtain ⟨hnodes, hfound⟩ := ih h
          refine ⟨?_, ?_⟩
          · rw [hnodes]
            simp only [nodeWrites, List.filterMap_cons, hread]
          · simpa only [List.filterMap_cons, hread] using hfound
      | some p =>
          simp only [hread] at h
          obtain ⟨middle, hmiddle, h⟩ := exceptBind_ok h
          obtain ⟨rfl, hself⟩ := applyPatch_ok t hmiddle
          obtain ⟨hnodes, hfound⟩ := ih h
          have hpatched : nodes.map (patchNode t p) =
              nodes.map fun node => writeNode t (p.writesTo node) node :=
            List.map_congr_left fun node _ => patchNode_eq t p node
          rw [hpatched] at hnodes hfound
          refine ⟨?_, ?_⟩
          · rw [hnodes, List.map_map]
            refine List.map_congr_left fun node _ => ?_
            rw [Function.comp_apply, nodeWrites_writeNode, ← writeNode_append]
            simp only [nodeWrites, List.filterMap_cons, hread, List.flatMap_cons]
          · simp only [List.filterMap_cons, hread, List.forall_mem_cons]
            refine ⟨hself, fun other hother => ?_⟩
            exact (found_map_writeNode t other _ nodes).mp (hfound other hother)

/-! ### Faithful preparations -/

/-- The patches of a manifest, if it has any. -/
def patchesOf (manifest : Json) : List Json := (overridePatches manifest).getD []

/-- The name of the node that a patch is for. -/
def equalsTarget (patch : Json) : Option String :=
  ((patch.get "match").bind (Json.get "equals")).bind Json.asStr

/-- The entries of a patch. -/
def entriesOf (patch : Json) : List Json := (arrayAt "fields" patch).getD []

/-- The nodes of a graph. -/
def nodesOf (graph : Json) : List Json := (arrayAt "nodeDataArray" graph).getD []

/-- The manifest without its patches. -/
def withoutOverrides : Json → Json
  | .obj fields => .obj (Json.removeField "graph_overrides" fields)
  | manifest => manifest

/-- The text that a configuration has for a field of a node. -/
def configText (nodeId fieldId : String) (config : Json) : Option String :=
  ((((config.get "nodes").bind (Json.get nodeId)).bind (Json.get "fields")).bind
    (Json.get fieldId)).bind fun field => (field.get "value").bind Json.asStr

/-- A node after the patches: its fields hold what the last patches that name them have written,
and the rest of it is unchanged. -/
structure NodePatched (patches : List Json) (node node' : Json) : Prop where
  others : ∀ key, key ≠ "fields" → node'.get key = node.get key
  fields : ∀ fields, arrayAt "fields" node = some fields → ∃ fields',
    arrayAt "fields" node' = some fields' ∧
      List.Forall₂ (FieldPatched t (nodeWrites patches node)) fields fields'
  noFields : arrayAt "fields" node = none → node' = node

/-- What the preparation should ensure: each target of a patch was exactly one node and each of its
entries exactly one field of that node; the fields hold what the last patches have written; every
other part of the graph is unchanged, but for the configuration that is added and made the active
one; and the embedded text is read back as the manifest without its patches. -/
structure FaithfulPreparation (reader : ScalarReader) (configId : String)
    (graph manifest out : Json) : Prop where
  targets : ∀ patch ∈ patchesOf manifest, ∀ target, equalsTarget patch = some target →
    ((nodesOf graph).map nameOf).count (some target) = 1 ∧
      ∀ entry ∈ entriesOf patch, ∃ name, nameOf entry = some name ∧
        ∀ node ∈ nodesOf graph, nameOf node = some target →
          (fieldNames node).count (some name) = 1
  nodes : ∀ nodes, arrayAt "nodeDataArray" graph = some nodes → ∃ nodes',
    arrayAt "nodeDataArray" out = some nodes' ∧
      List.Forall₂ (NodePatched t (patchesOf manifest)) nodes nodes'
  noNodes : arrayAt "nodeDataArray" graph = none →
    out.get "nodeDataArray" = graph.get "nodeDataArray"
  others : ∀ key, key ≠ "nodeDataArray" → key ≠ "graphConfigurations" →
    key ≠ "activeGraphConfigId" → out.get key = graph.get key
  notEmbedded : resolveBeampipeIngestUuids graph = none →
    out.get "graphConfigurations" = graph.get "graphConfigurations" ∧
      out.get "activeGraphConfigId" = graph.get "activeGraphConfigId"
  embedded : ∀ nodeId fieldId, resolveBeampipeIngestUuids graph = some (nodeId, fieldId) →
    out.get "activeGraphConfigId" = some (.str configId) ∧
      ∃ configs config text, out.get "graphConfigurations" = some (.obj configs) ∧
        Json.lookupField configId configs = some config ∧
        (∀ key, key ≠ configId → Json.lookupField key configs =
          (graph.get "graphConfigurations").bind (Json.get key)) ∧
        configText nodeId fieldId config = some text ∧
        parseJson reader text.toList = some (withoutOverrides manifest)

/-- No two nodes bear the name that a patch is for, and no two fields of its node a name that it
sets; all entries have names, and a patch without an array of entries has a node nevertheless. -/
structure UniqueTargets (graph manifest : Json) : Prop where
  nodes : ∀ patch ∈ patchesOf manifest, ∀ target, equalsTarget patch = some target →
    ((nodesOf graph).map nameOf).count (some target) ≤ 1
  fields : ∀ patch ∈ patchesOf manifest, ∀ target, equalsTarget patch = some target →
    ∀ entry ∈ entriesOf patch, ∀ name, nameOf entry = some name →
      ∀ node ∈ nodesOf graph, nameOf node = some target → (fieldNames node).count (some name) ≤ 1
  named : ∀ patch ∈ patchesOf manifest, ∀ target, equalsTarget patch = some target →
    ∀ entry ∈ entriesOf patch, nameOf entry ≠ none
  bare : ∀ patch ∈ patchesOf manifest, ∀ target, equalsTarget patch = some target →
    arrayAt "fields" patch = none → some target ∈ (nodesOf graph).map nameOf

/-- What is embedded is an object whose numbers are read back. -/
structure ReadableManifest (reader : ScalarReader) (graph manifest : Json) : Prop where
  object : resolveBeampipeIngestUuids graph ≠ none → manifest.isObject = true
  numbers : resolveBeampipeIngestUuids graph ≠ none →
    (withoutOverrides manifest).NumbersReadBack t reader

theorem nodePatched_writeNode (patches : List Json) (node : Json) :
    NodePatched t patches node (writeNode t (nodeWrites patches node) node) := by
  refine ⟨fun key hkey => get_writeNode t _ node hkey, fun fields hfields => ?_, fun hnone => ?_⟩
  · refine ⟨_, (arrayAt_writeNode t _ node).trans (by rw [hfields, Option.map_some]), ?_⟩
    rw [List.forall₂_map_right_iff]
    exact List.forall₂_same.mpr fun field _ => fieldPatched_foldl t _ field
  · rw [writeNode, hnone]

/-- What the embedding changes. -/
theorem injectManifestConfigIntoGraph_ok {configId : String} {now : ℤ}
    {graph manifest out : Json}
    (h : injectManifestConfigIntoGraph t configId now graph manifest = .ok out) :
    (∀ key, key ≠ "graphConfigurations" → key ≠ "activeGraphConfigId" →
      out.get key = graph.get key) ∧
    (resolveBeampipeIngestUuids graph = none → out = graph) ∧
    ∀ nodeId fieldId, resolveBeampipeIngestUuids graph = some (nodeId, fieldId) →
      out.get "activeGraphConfigId" = some (.str configId) ∧
        ∃ configs, (graph.get "graphConfigurations").getD (.obj []) = .obj configs ∧
          out.get "graphConfigurations" = some (.obj (Json.insertField configId
            (manifestConfig t configId nodeId fieldId now graph manifest) configs)) := by
  unfold injectManifestConfigIntoGraph at h
  cases hresolve : resolveBeampipeIngestUuids graph with
  | none =>
      rw [hresolve] at h
      cases h
      refine ⟨fun _ _ _ => rfl, fun _ => rfl, fun nodeId fieldId hsome => ?_⟩
      cases hsome
  | some ids =>
      have hobject : graph.isObject = true := by
        obtain ⟨nodes, hnodes, -⟩ := Option.bind_eq_some_iff.mp hresolve
        exact isObject_of_get (arrayAt_eq_some_iff.mp hnodes)
      obtain ⟨nodeId, fieldId⟩ := ids
      simp only [hresolve] at h
      split at h
      next configs hconfigs =>
        cases h
        refine ⟨fun key hconfig hactive => ?_, fun hnone => ?_, fun nodeId' fieldId' hsome => ?_⟩
        · rw [Json.get_insert_ne hactive, Json.get_insert_ne hconfig]
        · cases hnone
        · cases hsome
          refine ⟨?_, configs, hconfigs, ?_⟩
          · rw [get_insert_eq (by simpa using hobject), if_pos rfl]
          · rw [Json.get_insert_ne (by decide), get_insert_eq hobject, if_pos rfl]
      · cases h

/-- What the patches change. -/
theorem applyManifestGraphOverrides_ok {graph manifest out : Json}
    (h : applyManifestGraphOverrides t graph manifest = .ok out) :
    (∀ key, key ≠ "nodeDataArray" → out.get key = graph.get key) ∧
    (arrayAt "nodeDataArray" graph = none → out = graph) ∧
    (∀ nodes, arrayAt "nodeDataArray" graph = some nodes →
      arrayAt "nodeDataArray" out = some (nodes.map fun node =>
        writeNode t (nodeWrites (patchesOf manifest) node) node)) ∧
    ∀ patch ∈ (patchesOf manifest).filterMap readPatch, patch.Found (nodesOf graph) := by
  unfold applyManifestGraphOverrides at h
  unfold patchesOf
  cases hpatches : overridePatches manifest with
  | none =>
      rw [hpatches] at h
      cases h
      refine ⟨fun _ _ => rfl, fun _ => rfl, fun nodes hnodes => ?_, fun patch hpatch => ?_⟩
      · simp [nodeWrites, writeNode_nil, hnodes]
      · exact (List.not_mem_nil hpatch).elim
  | some patches =>
      simp only [hpatches] at h
      cases hnodes : arrayAt "nodeDataArray" graph with
      | none =>
          simp only [hnodes] at h
          cases h
      | some nodes =>
          simp only [hnodes] at h
          obtain ⟨nodes', hnodes', h⟩ := exceptBind_ok h
          cases h
          obtain ⟨rfl, hfound⟩ := applyPatches_ok t hnodes'
          have hobject := isObject_of_get (arrayAt_eq_some_iff.mp hnodes)
          refine ⟨fun key hkey => Json.get_insert_ne hkey _ _, fun hnone => ?_,
            fun found hsome => ?_, fun patch hpatch => ?_⟩
          · cases hnone
          · cases hsome
            rw [arrayAt_eq_some_iff, get_insert_eq hobject, if_pos rfl]
            rfl
          · rw [nodesOf, hnodes]
            exact hfound patch hpatch

/-! ### Targets -/

theorem readPatch_of_target {patch : Json} {target : String} {entries : List Json}
    (htarget : equalsTarget patch = some target)
    (hentries : arrayAt "fields" patch = some entries) :
    ∃ p, readPatch patch = some p ∧ p.expected = some target ∧ p.fields = entries := by
  obtain ⟨found, hfound, hequals⟩ := Option.bind_eq_some_iff.mp htarget
  obtain ⟨spec, hspec, hget⟩ := Option.bind_eq_some_iff.mp hfound
  cases spec with
  | obj members =>
      have hexpected : (Json.lookupField "equals" members).bind Json.asStr = some target := by
        rw [Option.bind_eq_some_iff]
        exact ⟨found, hget, hequals⟩
      exact ⟨_, by rw [readPatch, hspec, hentries]; rfl, hexpected, rfl⟩
  | _ => cases hget

theorem matchesNode_iff {patch : Patch} {target : String} (h : patch.expected = some target)
    (node : Json) : patch.matchesNode node = true ↔ nameOf node = some target := by
  have hobject : nameOf node = some target → node.isObject = true := by
    intro hname
    obtain ⟨value, hvalue, -⟩ := Option.bind_eq_some_iff.mp hname
    exact isObject_of_get hvalue
  unfold Patch.matchesNode
  rw [h]
  cases patch.kind with
  | none => simpa using hobject
  | some kind =>
      by_cases hkind : kind = "node_name"
      · subst hkind
        simpa using hobject
      · simpa [hkind] using hobject

/-- With one item of a name at most, all of them are the same. -/
theorem eq_of_count_le_one {items : List Json} {name : Option String}
    (h : (items.map nameOf).count name ≤ 1) {a b : Json} (ha : a ∈ items) (hb : b ∈ items)
    (hname : nameOf a = name) (hname' : nameOf b = name) : a = b := by
  induction items with
  | nil => cases ha
  | cons item items ih =>
      rw [List.map_cons, List.count_cons] at h
      have hlater : ∀ c ∈ items, nameOf c = name → 0 < (items.map nameOf).count name := by
        rintro c hc rfl
        exact List.count_pos_iff.mpr (List.mem_map_of_mem hc)
      rcases List.mem_cons.mp ha with rfl | ha'
      · rcases List.mem_cons.mp hb with rfl | hb'
        · rfl
        · have hpos := hlater b hb' hname'
          rw [hname, beq_self_eq_true, if_pos rfl] at h
          omega
      · rcases List.mem_cons.mp hb with rfl | hb'
        · have hpos := hlater a ha' hname
          rw [hname', beq_self_eq_true, if_pos rfl] at h
          omega
        · exact ih (by omega) ha' hb'

/-- Where every patch has found its target, each is unique exactly when none is ambiguous. -/
theorem targets_iff {graph manifest : Json}
    (hfound : ∀ patch ∈ (patchesOf manifest).filterMap readPatch, patch.Found (nodesOf graph)) :
    (∀ patch ∈ patchesOf manifest, ∀ target, equalsTarget patch = some target →
      ((nodesOf graph).map nameOf).count (some target) = 1 ∧
        ∀ entry ∈ entriesOf patch, ∃ name, nameOf entry = some name ∧
          ∀ node ∈ nodesOf graph, nameOf node = some target →
            (fieldNames node).count (some name) = 1) ↔
      UniqueTargets graph manifest := by
  constructor
  · intro h
    refine ⟨fun patch hpatch target htarget => ?_, fun patch hpatch target htarget entry hentry name
      hname node hnode htargeted => ?_, fun patch hpatch target htarget entry hentry hnone => ?_,
      fun patch hpatch target htarget _ => ?_⟩
    · exact (h patch hpatch target htarget).1.le
    · obtain ⟨name', hname', hcount⟩ := (h patch hpatch target htarget).2 entry hentry
      cases hname.symm.trans hname'
      exact (hcount node hnode htargeted).le
    · obtain ⟨name, hname, -⟩ := (h patch hpatch target htarget).2 entry hentry
      rw [hnone] at hname
      cases hname
    · have hcount := (h patch hpatch target htarget).1
      exact List.count_pos_iff.mp (by omega)
  · intro h patch hpatch target htarget
    have hmost := h.nodes patch hpatch target htarget
    cases hfields : arrayAt "fields" patch with
    | none =>
        have hpos := List.count_pos_iff.mpr (h.bare patch hpatch target htarget hfields)
        refine ⟨by omega, fun entry hentry => ?_⟩
        simp [entriesOf, hfields] at hentry
    | some entries =>
        obtain ⟨p, hread, hexpected, hentries⟩ := readPatch_of_target htarget hfields
        obtain ⟨hany, hwrites⟩ :=
          hfound p (List.mem_filterMap.mpr ⟨patch, hpatch, hread⟩) target hexpected
        obtain ⟨node, hnode, hmatches⟩ := List.any_eq_true.mp hany
        rw [matchesNode_iff hexpected] at hmatches
        have hpos : 0 < ((nodesOf graph).map nameOf).count (some target) :=
          List.count_pos_iff.mpr (hmatches ▸ List.mem_map_of_mem hnode)
        refine ⟨by omega, fun entry hentry => ?_⟩
        obtain ⟨name, hname⟩ :=
          Option.ne_none_iff_exists'.mp (h.named patch hpatch target htarget entry hentry)
        refine ⟨name, hname, fun node' hnode' htargeted => ?_⟩
        have hfield := h.fields patch hpatch target htarget entry hentry name hname node' hnode'
          htargeted
        have hwrite : (name, (entry.get "value").getD .null) ∈ p.writes := by
          refine List.mem_filterMap.mpr ⟨entry, ?_, by rw [fieldWrite, hname]; rfl⟩
          rw [hentries]
          simpa [entriesOf, hfields] using hentry
        have hfinds := hwrites _ hwrite
        rw [findsField_eq] at hfinds
        obtain ⟨found, hmem, hcontains⟩ := List.any_eq_true.mp hfinds
        rw [Bool.and_eq_true, matchesNode_iff hexpected, List.contains_iff_mem] at hcontains
        -- the node with the field is the only one of the name
        obtain rfl := eq_of_count_le_one hmost hmem hnode' hcontains.1 htargeted
        have hone : 0 < (fieldNames found).count (some name) := List.count_pos_iff.mpr hcontains.2
        omega

/-! ### The whole preparation -/

@[simp] theorem configText_manifestConfig (configId nodeId fieldId : String) (now : ℤ)
    (graph manifest : Json) :
    configText nodeId fieldId (manifestConfig t configId nodeId fieldId now graph manifest) =
      some (embeddedText t manifest) := by
  simp [configText, manifestConfig, Json.get, Json.lookupField, Json.asStr]

/-- The embedded text is read back exactly when it is that of an object whose numbers are. -/
theorem parseJson_embeddedText_iff {reader : ScalarReader} (ht : t.Faithful)
    (hr : reader.Reads t) (manifest : Json) :
    parseJson reader (embeddedText t manifest).toList = some (withoutOverrides manifest) ↔
      manifest.isObject = true ∧ (withoutOverrides manifest).NumbersReadBack t reader := by
  rw [embeddedText, String.toList_ofList]
  have hempty : parseJson reader ((Json.obj []).toText t) = some (.obj []) :=
    (parseJson_toText_iff ht hr).mpr (.obj fun field hfield => (List.not_mem_nil hfield).elim)
  cases manifest with
  | obj fields => exact (parseJson_toText_iff ht hr).trans ⟨fun h => ⟨rfl, h⟩, And.right⟩
  | _ =>
      change parseJson reader ((Json.obj []).toText t) = _ ↔ _
      rw [hempty]
      simp [withoutOverrides, Json.isObject]

/-- **When the preparation is faithful.** -/
theorem faithfulPreparation_iff {reader : ScalarReader} (ht : t.Faithful) (hr : reader.Reads t)
    {configId : String} {now : ℤ} {graph manifest out : Json}
    (h : prepareGraphForManifest t configId now graph manifest = .ok out) :
    FaithfulPreparation t reader configId graph manifest out ↔
      UniqueTargets graph manifest ∧ ReadableManifest t reader graph manifest := by
  obtain ⟨middle, hinject, happly⟩ := exceptBind_ok h
  obtain ⟨hkept, hnone, hsome⟩ := injectManifestConfigIntoGraph_ok t hinject
  obtain ⟨hother, hbare, hnodes, hfound⟩ := applyManifestGraphOverrides_ok t happly
  have hget := hkept "nodeDataArray" (by decide) (by decide)
  have harray : arrayAt "nodeDataArray" middle = arrayAt "nodeDataArray" graph := by
    rw [arrayAt, hget, arrayAt]
  rw [nodesOf, harray, ← nodesOf] at hfound
  have htargets := targets_iff hfound
  have hembedded : ∀ nodeId fieldId, resolveBeampipeIngestUuids graph = some (nodeId, fieldId) →
      out.get "activeGraphConfigId" = some (.str configId) ∧
        ∃ configs, (graph.get "graphConfigurations").getD (.obj []) = .obj configs ∧
          out.get "graphConfigurations" = some (.obj (Json.insertField configId
            (manifestConfig t configId nodeId fieldId now graph manifest) configs)) := by
    intro nodeId fieldId hresolve
    rw [hother _ (by decide), hother _ (by decide)]
    exact hsome nodeId fieldId hresolve
  constructor
  · intro hfaithful
    have hread : resolveBeampipeIngestUuids graph ≠ none → manifest.isObject = true ∧
        (withoutOverrides manifest).NumbersReadBack t reader := by
      intro hresolve
      obtain ⟨⟨nodeId, fieldId⟩, hids⟩ := Option.ne_none_iff_exists'.mp hresolve
      obtain ⟨-, configs, config, text, hconfigs, hconfig, -, htext, hparse⟩ :=
        hfaithful.embedded nodeId fieldId hids
      obtain ⟨-, old, -, hnew⟩ := hembedded nodeId fieldId hids
      cases hconfigs.symm.trans hnew
      rw [Json.lookupField_insertField_self] at hconfig
      cases hconfig
      rw [configText_manifestConfig] at htext
      cases htext
      exact (parseJson_embeddedText_iff t ht hr manifest).mp hparse
    exact ⟨htargets.mp hfaithful.targets,
      ⟨fun hresolve => (hread hresolve).1, fun hresolve => (hread hresolve).2⟩⟩
  · rintro ⟨hunique, hmanifest⟩
    refine ⟨htargets.mpr hunique, fun nodes harr => ?_, fun harr => ?_, fun key hkey hconfig
      hactive => ?_, fun hresolve => ?_, fun nodeId fieldId hresolve => ?_⟩
    · refine ⟨_, hnodes nodes (harray.trans harr), ?_⟩
      rw [List.forall₂_map_right_iff]
      exact List.forall₂_same.mpr fun node _ => nodePatched_writeNode t _ node
    · rw [hbare (harray.trans harr), hget]
    · rw [hother key hkey, hkept key hconfig hactive]
    · rw [hother _ (by decide), hother _ (by decide), hnone hresolve]
      exact ⟨rfl, rfl⟩
    · obtain ⟨hactive, configs, hold, hnew⟩ := hembedded nodeId fieldId hresolve
      have hids : resolveBeampipeIngestUuids graph ≠ none := by
        rw [hresolve]
        exact Option.some_ne_none _
      refine ⟨hactive, _, _, _, hnew, Json.lookupField_insertField_self _ _ _,
        fun key hkey => ?_, configText_manifestConfig t configId nodeId fieldId now graph manifest,
        (parseJson_embeddedText_iff t ht hr manifest).mpr
          ⟨hmanifest.object hids, hmanifest.numbers hids⟩⟩
      rw [Json.lookupField_insertField_ne hkey]
      cases hget : graph.get "graphConfigurations" with
      | none =>
          rw [hget] at hold
          cases hold
          rfl
      | some found =>
          rw [hget] at hold
          cases hold
          rfl

end Preparation

/-! ### Two graphs -/

/-- A scatter with its number of copies. -/
def scatterNode : Json :=
  .obj [("name", .str "Scatter"),
    ("fields", .arr [.obj [("name", .str "num_of_copies"), ("type", .str "Integer")]])]

/-- A patch of the number of copies of the scatter. -/
def scatterPatch : Json :=
  .obj [("match", .obj [("equals", .str "Scatter")]),
    ("fields", .arr [.obj [("name", .str "num_of_copies"), ("value", .num (.int 3))]])]

/-- A graph with an ingest node and scatters. -/
def scatterGraph (scatters : List Json) : Json :=
  .obj [("nodeDataArray", .arr (.obj [("id", .str "n1"), ("name", .str "beampipe-ingest"),
    ("fields", .arr [.obj [("id", .str "f1"), ("name", .str "manifest_path")]])] :: scatters))]

/-- A manifest with the patch. -/
def scatterManifest : Json :=
  .obj [("sources", .arr [.str "s1"]),
    ("graph_overrides", .obj [("patches", .arr [scatterPatch])])]

/-- With one scatter the preparation is faithful. -/
theorem faithfulPreparation_scatterGraph :
    ∃ out, prepareGraphForManifest .plain "c1" 0 (scatterGraph [scatterNode]) scatterManifest =
        .ok out ∧
      FaithfulPreparation .plain .plain "c1" (scatterGraph [scatterNode]) scatterManifest out := by
  have hok : (prepareGraphForManifest .plain "c1" 0 (scatterGraph [scatterNode])
      scatterManifest).isOk = true := by decide +kernel
  have hpatches : patchesOf scatterManifest = [scatterPatch] := by decide +kernel
  have htarget : equalsTarget scatterPatch = some "Scatter" := by decide +kernel
  have hunique : UniqueTargets (scatterGraph [scatterNode]) scatterManifest := by
    constructor
    all_goals
      intro patch hpatch target hequals
      rw [hpatches, List.mem_singleton] at hpatch
      subst hpatch
      cases htarget.symm.trans hequals
    · decide +kernel
    · intro entry hentry name hname
      have hentries : entriesOf scatterPatch =
          [.obj [("name", .str "num_of_copies"), ("value", .num (.int 3))]] := by decide +kernel
      rw [hentries, List.mem_singleton] at hentry
      subst hentry
      cases hname
      decide +kernel
    · decide +kernel
    · decide +kernel
  have hreadable : ReadableManifest .plain .plain (scatterGraph [scatterNode]) scatterManifest := by
    refine ⟨fun _ => rfl, fun _ => .obj fun field hfield => ?_⟩
    have hfields : Json.removeField "graph_overrides"
        [("sources", .arr [.str "s1"]),
          ("graph_overrides", .obj [("patches", .arr [scatterPatch])])] =
        [("sources", .arr [.str "s1"])] := by decide +kernel
    rw [hfields, List.mem_singleton] at hfield
    subst hfield
    refine .arr fun item hitem => ?_
    obtain rfl := List.mem_singleton.mp hitem
    exact .str "s1"
  cases h : prepareGraphForManifest .plain "c1" 0 (scatterGraph [scatterNode]) scatterManifest with
  | error error => simp [h, Except.isOk, Except.toBool] at hok
  | ok out =>
      exact ⟨out, rfl, (faithfulPreparation_iff .plain ScalarText.plain_faithful
        ScalarReader.plain_reads h).mpr ⟨hunique, hreadable⟩⟩

/-- With two scatters of the name both are patched, though the target is ambiguous. -/
theorem prepareGraphForManifest_two_scatters :
    ¬ ∀ configId now graph manifest out,
      prepareGraphForManifest .plain configId now graph manifest = .ok out →
        FaithfulPreparation .plain .plain configId graph manifest out := by
  intro hall
  have hok : (prepareGraphForManifest .plain "c1" 0 (scatterGraph [scatterNode, scatterNode])
      scatterManifest).isOk = true := by decide +kernel
  cases h : prepareGraphForManifest .plain "c1" 0 (scatterGraph [scatterNode, scatterNode])
      scatterManifest with
  | error error => simp [h, Except.isOk, Except.toBool] at hok
  | ok out =>
      have hpatch : scatterPatch ∈ patchesOf scatterManifest := by decide +kernel
      have hone := ((hall _ _ _ _ _ h).targets scatterPatch hpatch "Scatter" (by decide +kernel)).1
      exact absurd hone (by decide +kernel)

end Beampipe.Graph
