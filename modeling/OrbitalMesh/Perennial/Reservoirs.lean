import OrbitalMesh.Signals.Envelope

/-!
# Projections of a sensitive reservoir

A value of a reservoir may be hashed, counted, used in place, or projected with everything taken
away but the fields that the reservoir allows.  The projection goes down through objects and
lists and looks at the keys of objects alone, so what stands under no key goes through it.
`reveals_allowed_iff` says which values this concerns.
-/

namespace OrbitalMesh.Reservoirs

open OrbitalMesh.Decision OrbitalMesh.Signals

def textsSchema : Schema := .listOf .text 0

/-- A text or `None`. -/
def nullableText : Schema := { types := [.string, .null] }

/-- `perennial/sensitive-reservoir.schema.json`. -/
def sensitiveReservoirSchema : Schema :=
  .record
    ["contract", "reservoir_id", "name", "owner", "classification", "locality", "access_policy",
      "projection", "crypto"]
    [("contract", .textIn ["perennial.sensitive_reservoir.v1"]),
      ("reservoir_id", .text),
      ("name", .text),
      ("owner", .record ["team", "service_owner", "data_steward"]
        [("team", .text), ("service_owner", .text), ("data_steward", .text)]),
      ("classification", .record ["data_classes", "sensitivity", "trainable"]
        [("data_classes", .listOf (.textIn ["operational", "security", "compliance", "customer",
            "source_code", "secret_adjacent", "regulated", "audit_only"]) 1),
          ("sensitivity",
            .textIn ["public", "internal", "confidential", "restricted", "regulated"]),
          ("trainable", .textIn ["prohibited", "opt_in", "allowed_redacted"])]),
      ("locality", .record ["boundary", "region", "storage_ref", "external_egress_default"]
        [("boundary", .textIn ["on_prem"]),
          ("region", .text),
          ("storage_ref", .text),
          ("external_egress_default", .textIn ["deny"])]),
      ("access_policy", .record
        ["allowed_purposes", "allowed_compute_modes", "approval_required", "retention_days"]
        [("allowed_purposes", .listOf (.textIn ["rca", "feedback", "audit", "policy_check",
            "training", "export"]) 1),
          ("allowed_compute_modes", .listOf (.textIn ["in_place", "redacted_projection",
            "hash_only", "aggregate_only"]) 1),
          ("approval_required", { types := [.boolean] }),
          ("retention_days", { types := [.integer] })]),
      ("projection", .record
        ["redaction_profile", "max_snippet_chars", "hash_algorithm", "allowed_index_fields"]
        [("redaction_profile", .text),
          ("max_snippet_chars", { types := [.integer] }),
          ("hash_algorithm", .text),
          ("allowed_index_fields", textsSchema)]),
      ("crypto", .record ["encryption_profile", "signing_profile", "pqc_profile"]
        [("encryption_profile", .text),
          ("signing_profile", nullableText),
          ("pqc_profile", nullableText)])]

/-- `perennial/agent-action-record.schema.json`. -/
def agentActionRecordSchema : Schema :=
  .record
    ["contract", "action_record_id", "observed_at", "actor", "action", "context", "governance",
      "outcome", "boundary"]
    [("contract", .textIn ["perennial.agent_action_record.v1"]),
      ("action_record_id", .text),
      ("observed_at", .text),
      ("actor", .record ["actor_type", "actor_id", "display_name", "authority_source"]
        [("actor_type",
            .textIn ["human", "agent", "service", "watcher", "model", "external_system"]),
          ("actor_id", .text),
          ("display_name", nullableText),
          ("authority_source",
            .textIn ["proxy_header", "service_account", "registry", "inferred", "unknown"])]),
      ("action", .record ["action_class", "action_type", "target", "production_impact"]
        [("action_class", .textIn ["observe", "retrieve", "propose", "approve", "deny", "execute",
            "rollback", "export", "attest"]),
          ("action_type", .text),
          ("target", .record
            ["environment", "service", "namespace", "resource_ref", "reservoir_id"]
            [("environment", .text),
              ("service", nullableText),
              ("namespace", nullableText),
              ("resource_ref", nullableText),
              ("reservoir_id", nullableText)]),
          ("production_impact", .textIn ["none", "possible", "direct"])]),
      ("context", .record
        ["run_id", "run_event_id", "decision_id", "evaluation_id", "feedback_id", "source_system"]
        [("run_id", nullableText),
          ("run_event_id", nullableText),
          ("decision_id", nullableText),
          ("evaluation_id", nullableText),
          ("feedback_id", nullableText),
          ("source_system", .text)]),
      ("governance", .record
        ["risk_tier", "autonomy_tier", "policy_refs", "evidence_refs", "proof_refs",
          "operator_authority_refs"]
        [("risk_tier", .textIn ["minimal", "moderate", "high", "unacceptable", "unknown"]),
          ("autonomy_tier",
            .textIn ["no_action", "advisory", "approval_required", "autonomous", "escalated"]),
          ("policy_refs", textsSchema),
          ("evidence_refs", textsSchema),
          ("proof_refs", textsSchema),
          ("operator_authority_refs", textsSchema)]),
      ("outcome", .record ["status", "denial_reasons", "rollback_ref", "side_effect_refs"]
        [("status", .textIn ["observed", "proposed", "approved", "denied", "executed", "failed",
            "rolled_back", "superseded"]),
          ("denial_reasons", textsSchema),
          ("rollback_ref", nullableText),
          ("side_effect_refs", textsSchema)]),
      ("boundary", .record ["tenant_id", "data_boundary", "reservoir_refs"]
        [("tenant_id", .text),
          ("data_boundary", .textIn ["on_prem", "approved_egress", "public_demo"]),
          ("reservoir_refs", textsSchema)])]

variable (reservoir : Dict)

def assertReservoirDefaultDeny : Except PyError Dict := do
  validatePayload sensitiveReservoirSchema (.obj reservoir)
  let locality := objectAt reservoir "locality"
  refuseIf (locality.get? "boundary" != some (.str "on_prem"))
    "$.locality.boundary: reservoir must remain on_prem"
  refuseIf (locality.get? "external_egress_default" != some (.str "deny"))
    "$.locality.external_egress_default: raw reservoir egress must default deny"
  refuseIf ((objectAt reservoir "classification").get? "trainable" == some (.str "allowed"))
    "$.classification.trainable: use opt_in or allowed_redacted, never raw allowed"
  return reservoir

/-- `d[key]`, where the schema has made it a list of texts. -/
def textsAt (d : Dict) (key : String) : List String := (itemsAt d key).map Json.asStr

def allowedPurposes : List String :=
  textsAt (objectAt reservoir "access_policy") "allowed_purposes"

/-- `allowed_compute_modes`. -/
def allowedModes : List String :=
  textsAt (objectAt reservoir "access_policy") "allowed_compute_modes"

/-- `allowed_index_fields`. -/
def allowedFields : List String :=
  textsAt (objectAt reservoir "projection") "allowed_index_fields"

def maxSnippetChars : Int :=
  wholeAt (objectAt reservoir "projection") "max_snippet_chars"

def hashAlgorithm : String :=
  textAt (objectAt reservoir "projection") "hash_algorithm"

/-- `isinstance(value, int | float) and not isinstance(value, bool)`. -/
def isNumeric : Json → Bool
  | .int _ | .float _ _ _ => true
  | _ => false

def aggregateSummary : Json → Dict
  | .obj members =>
    [("shape", .str "object"),
      ("field_count", .int members.length),
      ("numeric_field_count", .int (members.countP fun member => isNumeric member.2))]
  | .arr items =>
    [("shape", .str "array"),
      ("item_count", .int items.length),
      ("numeric_item_count", .int (items.countP isNumeric))]
  | .str text => [("shape", .str "string"), ("length", .int text.length)]
  | value => [("shape", .str (typeName value))]

/-- `str(value)[:n]`. -/
def snippet (n : Nat) (value : Json) : String := String.ofList ((pyStr value).toList.take n)

mutual

/-- `_redacted_projection`, for `max(0, max_snippet_chars)` characters. -/
def redactedProjection (fields : List String) (n : Nat) : Json → Json
  | .obj members => if n = 0 then .null else .obj (redactedMembers fields n members)
  | .arr items => if n = 0 then .null else .arr ((redactedItems fields n items).take 10)
  | .null => if n = 0 then .null else .str (snippet n .null)
  | .bool b => if n = 0 then .null else .str (snippet n (.bool b))
  | .int i => if n = 0 then .null else .str (snippet n (.int i))
  | .float neg mant exp => if n = 0 then .null else .str (snippet n (.float neg mant exp))
  | .str text => if n = 0 then .null else .str (snippet n (.str text))

def redactedItems (fields : List String) (n : Nat) : List Json → List Json
  | [] => []
  | item :: rest => redactedProjection fields n item :: redactedItems fields n rest

def redactedMembers (fields : List String) (n : Nat) : List (String × Json) → List (String × Json)
  | [] => []
  | (key, value) :: rest =>
    if fields.contains key then
      (key, redactedProjection fields n value) :: redactedMembers fields n rest
    else redactedMembers fields n rest

end

variable (sha : Sha256)

def projectValue (reservoir : Dict) (value : Json) (mode : String) :
    Except PyError Dict := do
  let projection := objectAt reservoir "projection"
  refuseIf (hashAlgorithm reservoir != "sha256")
    "$.projection.hash_algorithm: only sha256 is supported"
  let contentHash := sha.ofJson value.canon
  let common : Dict :=
    [("projection_ref", .str ("reservoir://" ++ textAt reservoir "reservoir_id" ++
        "/projection/" ++ mode ++ "/" ++ contentHash)),
      ("mode", .str mode),
      ("hash_algorithm", .str "sha256"),
      ("content_hash", .str contentHash)]
  if mode = "hash_only" then return common
  else if mode = "aggregate_only" then
    return common ++ [("summary", .obj (aggregateSummary value))]
  else if mode = "redacted_projection" then
    return common ++
      [("redaction_profile", getOr projection "redaction_profile" .null),
        ("redacted", redactedProjection (allowedFields reservoir)
          (maxSnippetChars reservoir).toNat value)]
  else if mode = "in_place" then
    return common ++ [("execution_boundary", .str "reservoir_local_only")]
  else .error ⟨.schemaValidationError,
    "$.access_policy.allowed_compute_modes: unsupported compute mode " ++ pyRepr mode⟩

/-- Who asks, and when. -/
structure Caller where
  actorId : String
  tenantId : String
  runId : Option String
  observedAt : Option String
  /-- `timestamp()` -/
  now : String

def stableId (start : String) (parts : List Json) : String :=
  start ++ "_" ++ String.ofList ((sha.ofJson (Json.arr parts).canon).toList.take 16)

/-- What an action record says of the kind of action it is about. -/
structure RecordedAction where
  recordId : String
  actorType : String
  authoritySource : String
  actionClass : String
  actionType : String
  sourceSystem : String
  riskTier : String
  policyRef : String
  evidenceRefs : List String
  status : String
  denialReasons : List String

variable (reservoirId : String) (caller : Caller)

def actionRecord (action : RecordedAction) : Dict :=
  [("contract", .str "perennial.agent_action_record.v1"),
    ("action_record_id", .str action.recordId),
    ("observed_at", .str (match caller.observedAt with
      | none => caller.now
      | some text => if text = "" then caller.now else text)),
    ("actor", .obj [
      ("actor_type", .str action.actorType),
      ("actor_id", .str caller.actorId),
      ("display_name", .null),
      ("authority_source", .str action.authoritySource)]),
    ("action", .obj [
      ("action_class", .str action.actionClass),
      ("action_type", .str action.actionType),
      ("target", .obj [
        ("environment", .str "pilot"),
        ("service", .null),
        ("namespace", .null),
        ("resource_ref", .str ("reservoir/" ++ reservoirId)),
        ("reservoir_id", .str reservoirId)]),
      ("production_impact", .str "none")]),
    ("context", .obj [
      ("run_id", textOrNull caller.runId),
      ("run_event_id", .null),
      ("decision_id", .null),
      ("evaluation_id", .null),
      ("feedback_id", .null),
      ("source_system", .str action.sourceSystem)]),
    ("governance", .obj [
      ("risk_tier", .str action.riskTier),
      ("autonomy_tier", .str "no_action"),
      ("policy_refs", .arr [.str action.policyRef]),
      ("evidence_refs", .arr (action.evidenceRefs.map .str)),
      ("proof_refs", .arr []),
      ("operator_authority_refs", .arr [])]),
    ("outcome", .obj [
      ("status", .str action.status),
      ("denial_reasons", .arr (action.denialReasons.map .str)),
      ("rollback_ref", .null),
      ("side_effect_refs", .arr [])]),
    ("boundary", .obj [
      ("tenant_id", .str caller.tenantId),
      ("data_boundary", .str "on_prem"),
      ("reservoir_refs", .arr [.str reservoirId])])]

/-- The action of `reservoir_denial_record`. -/
def denialAction (denialReasons : List String) : RecordedAction where
  recordId := stableId sha "aar" [.str "reservoir_denial", .str reservoirId, .str caller.actorId,
    textOrNull caller.runId]
  actorType := "model"
  authoritySource := "unknown"
  actionClass := "deny"
  actionType := "raw_reservoir_export"
  sourceSystem := "darkharness-boundary-check"
  riskTier := "unacceptable"
  policyRef := "policy://darkharness/pilot/raw-egress-deny"
  evidenceRefs := ["reservoir://" ++ reservoirId ++ "/policy"]
  status := "denied"
  denialReasons

/-- The action of `_reservoir_projection_record`. -/
def projectionAction (purpose mode : String) (evidenceRefs : List String) : RecordedAction where
  recordId := stableId sha "aar" [.str "reservoir_projection", .str reservoirId, .str purpose,
    .str mode, textOrNull caller.runId]
  actorType := "service"
  authoritySource := "service_account"
  actionClass := if mode != "in_place" then "retrieve" else "attest"
  actionType := "reservoir_" ++ mode
  sourceSystem := "darkharness-reservoir-projection"
  riskTier := "moderate"
  policyRef := "policy://darkharness/reservoir/" ++ purpose ++ "/" ++ mode
  evidenceRefs
  status := "observed"
  denialReasons := []

/-- `validate` of an action record. -/
def validated (record : Dict) : Except PyError Dict := do
  validatePayload agentActionRecordSchema (.obj record)
  return record

/-- `_reservoir_projection_denied`.  The record is checked as it comes and again with the reason
of this denial. -/
def reservoirProjectionDenied (reservoir : Dict) (caller : Caller)
    (denialReason : String) : Except PyError Dict := do
  let reservoirId := textAt reservoir "reservoir_id"
  let _ ← validated (actionRecord reservoirId caller
    (denialAction sha reservoirId caller ["raw reservoir egress denied by default"]))
  let record ← validated (actionRecord reservoirId caller
    (denialAction sha reservoirId caller [denialReason]))
  return [("status", .str "denied"),
    ("reservoir_id", getOr reservoir "reservoir_id" .null),
    ("raw_sensitive_data_included", .bool false),
    ("projection", .null),
    ("denial_reasons", .arr [.str denialReason]),
    ("action_record", .obj record)]

def projectReservoirAccess (reservoir : Dict) (value : Json)
    (purpose mode : String) (caller : Caller) : Except PyError Dict := do
  let checked ← assertReservoirDefaultDeny reservoir
  if !(allowedPurposes checked).contains purpose then
    reservoirProjectionDenied sha checked caller
      ("reservoir purpose " ++ pyRepr purpose ++ " is not allowed")
  else if !(allowedModes checked).contains mode then
    reservoirProjectionDenied sha checked caller
      ("reservoir compute mode " ++ pyRepr mode ++ " is not allowed")
  else
    let projection ← projectValue sha checked value mode
    let reservoirId := textAt checked "reservoir_id"
    let record ← validated (actionRecord reservoirId caller
      (projectionAction sha reservoirId caller purpose mode [textAt projection "projection_ref"]))
    return [("status", .str "allowed"),
      ("reservoir_id", getOr checked "reservoir_id" .null),
      ("purpose", .str purpose),
      ("compute_mode", .str mode),
      ("raw_sensitive_data_included", .bool false),
      ("projection", .obj projection),
      ("action_record", .obj record)]

mutual

def allowedIn (fields : List String) : Json → Json
  | .obj members => .obj (allowedMembers fields members)
  | .arr items => .arr (allowedItems fields items)
  | .null => .null
  | .bool b => .bool b
  | .int i => .int i
  | .float neg mant exp => .float neg mant exp
  | .str text => .str text

def allowedItems (fields : List String) : List Json → List Json
  | [] => []
  | item :: rest => allowedIn fields item :: allowedItems fields rest

def allowedMembers (fields : List String) : List (String × Json) → List (String × Json)
  | [] => []
  | (key, value) :: rest =>
    if fields.contains key then (key, allowedIn fields value) :: allowedMembers fields rest
    else allowedMembers fields rest

end

mutual

/-- What is left of a value when all is taken away that stands under no allowed key. -/
def parts (fields : List String) : Json → Option Json
  | .obj members =>
    match allowedMembers fields members with
    | [] => none
    | kept => some (.obj kept)
  | .arr items =>
    match partsOfItems fields items with
    | [] => none
    | kept => some (.arr kept)
  | .null => none
  | .bool _ => none
  | .int _ => none
  | .float _ _ _ => none
  | .str _ => none

def partsOfItems (fields : List String) : List Json → List Json
  | [] => []
  | item :: rest =>
    match parts fields item with
    | none => partsOfItems fields rest
    | some kept => kept :: partsOfItems fields rest

end

section

variable {sha : Sha256} {reservoir : Dict} {caller : Caller} {purpose mode : String}

theorem validated_projection (sha : Sha256) (reservoirId : String) (caller : Caller)
    (purpose mode : String) (evidenceRef : String) :
    validated (actionRecord reservoirId caller
        (projectionAction sha reservoirId caller purpose mode [evidenceRef])) =
      .ok (actionRecord reservoirId caller
        (projectionAction sha reservoirId caller purpose mode [evidenceRef])) := by
  have hpasses : validatePayload agentActionRecordSchema (.obj (actionRecord reservoirId caller
      (projectionAction sha reservoirId caller purpose mode [evidenceRef]))) = .ok () := by
    obtain ⟨actorId, tenantId, runId, observedAt, now⟩ := caller
    unfold projectionAction
    cases runId with
    | none | some text =>
      by_cases hmode : (mode != "in_place") = true
      · rw [if_pos hmode]
        rfl
      · rw [if_neg hmode]
        rfl
  rw [validated, hpasses]
  rfl

def grantedAnswer (sha : Sha256) (reservoir : Dict) (purpose mode : String) (caller : Caller)
    (projection : Dict) : Dict :=
  [("status", .str "allowed"),
    ("reservoir_id", getOr reservoir "reservoir_id" .null),
    ("purpose", .str purpose),
    ("compute_mode", .str mode),
    ("raw_sensitive_data_included", .bool false),
    ("projection", .obj projection),
    ("action_record", .obj (actionRecord (textAt reservoir "reservoir_id") caller
      (projectionAction sha (textAt reservoir "reservoir_id") caller purpose mode
        [textAt projection "projection_ref"])))]

def Accepted (reservoir : Dict) : Prop := assertReservoirDefaultDeny reservoir = .ok reservoir

theorem reservoirProjectionDenied_projection {denialReason : String} {answer : Dict}
    (h : reservoirProjectionDenied sha reservoir caller denialReason = .ok answer) :
    answer.get? "status" = some (.str "denied") ∧ answer.get? "projection" = some .null := by
  obtain ⟨_, -, h⟩ := bind_ok h
  obtain ⟨record, -, h⟩ := bind_ok h
  cases h
  exact ⟨rfl, rfl⟩

theorem access_denied (h : purpose ∉ allowedPurposes reservoir ∨ mode ∉ allowedModes reservoir)
    (haccepted : Accepted reservoir) (value value' : Json) :
    projectReservoirAccess sha reservoir value purpose mode caller =
        projectReservoirAccess sha reservoir value' purpose mode caller ∧
      ∀ answer, projectReservoirAccess sha reservoir value purpose mode caller = .ok answer →
        answer.get? "status" = some (.str "denied") ∧
          answer.get? "projection" = some .null := by
  unfold Accepted at haccepted
  simp only [projectReservoirAccess, haccepted, ok_bind]
  by_cases hpurpose : purpose ∈ allowedPurposes reservoir
  · have hmode : mode ∉ allowedModes reservoir := h.resolve_left (not_not.mpr hpurpose)
    simp only [List.contains_iff_mem.mpr hpurpose, Bool.not_true, Bool.false_eq_true, if_false,
      List.contains_eq_mem, decide_eq_false hmode, Bool.not_false, if_true]
    exact ⟨trivial, fun answer => reservoirProjectionDenied_projection⟩
  · simp only [List.contains_eq_mem, decide_eq_false hpurpose, Bool.not_false, if_true]
    exact ⟨trivial, fun answer => reservoirProjectionDenied_projection⟩

theorem access_granted (haccepted : Accepted reservoir)
    (hpurpose : purpose ∈ allowedPurposes reservoir) (hmode : mode ∈ allowedModes reservoir)
    (value : Json) :
    projectReservoirAccess sha reservoir value purpose mode caller =
      (projectValue sha reservoir value mode).map
        (grantedAnswer sha reservoir purpose mode caller) := by
  unfold Accepted at haccepted
  simp only [projectReservoirAccess, haccepted, ok_bind, List.contains_iff_mem.mpr hpurpose,
    List.contains_iff_mem.mpr hmode, Bool.not_true, Bool.false_eq_true, if_false]
  cases projectValue sha reservoir value mode with
  | error e => rfl
  | ok projection =>
    simp only [ok_bind, validated_projection]
    rfl

def Grants (sha : Sha256) (reservoir : Dict) (value : Json) (purpose mode : String)
    (caller : Caller) (projection : Dict) : Prop :=
  ∃ answer, projectReservoirAccess sha reservoir value purpose mode caller = .ok answer ∧
    answer.get? "status" = some (.str "allowed") ∧
      answer.get? "projection" = some (.obj projection)

theorem grants_iff (haccepted : Accepted reservoir) {value : Json} {projection : Dict} :
    Grants sha reservoir value purpose mode caller projection ↔
      purpose ∈ allowedPurposes reservoir ∧ mode ∈ allowedModes reservoir ∧
        projectValue sha reservoir value mode = .ok projection := by
  by_cases hallowed : purpose ∈ allowedPurposes reservoir ∧ mode ∈ allowedModes reservoir
  · have hgranted := @access_granted sha reservoir caller purpose mode haccepted hallowed.1
      hallowed.2 value
    simp only [Grants, hgranted, hallowed, true_and]
    cases hvalue : projectValue sha reservoir value mode with
    | error e =>
      constructor
      · rintro ⟨answer, h, -⟩
        cases h
      · intro h
        cases h
    | ok projection' =>
      constructor
      · rintro ⟨answer, h, -, hprojection⟩
        cases h
        cases hprojection
        rfl
      · intro h
        cases h
        exact ⟨_, rfl, rfl, rfl⟩
  · refine iff_of_false ?_ fun h => hallowed ⟨h.1, h.2.1⟩
    rintro ⟨answer, h, hstatus, -⟩
    have hdenied := (@access_denied sha reservoir caller purpose mode
      (not_and_or.mp hallowed) haccepted value value).2 answer h
    rw [hdenied.1] at hstatus
    exact absurd hstatus (by decide)

end

mutual

theorem redactedProjection_allowedIn (fields : List String) (n : Nat) : (value : Json) →
    redactedProjection fields n (allowedIn fields value) = redactedProjection fields n value
  | .obj members => by
    rw [allowedIn, redactedProjection, redactedProjection,
      redactedMembers_allowedMembers fields n members]
  | .arr items => by
    rw [allowedIn, redactedProjection, redactedProjection,
      redactedItems_allowedItems fields n items]
  | .null | .bool _ | .int _ | .float _ _ _ | .str _ => by rw [allowedIn]

theorem redactedItems_allowedItems (fields : List String) (n : Nat) : (items : List Json) →
    redactedItems fields n (allowedItems fields items) = redactedItems fields n items
  | [] => rfl
  | item :: rest => by
    rw [allowedItems, redactedItems, redactedItems, redactedProjection_allowedIn fields n item,
      redactedItems_allowedItems fields n rest]

theorem redactedMembers_allowedMembers (fields : List String) (n : Nat) :
    (members : List (String × Json)) →
    redactedMembers fields n (allowedMembers fields members) = redactedMembers fields n members
  | [] => rfl
  | (key, value) :: rest => by
    rw [allowedMembers, redactedMembers]
    split
    · next h =>
      rw [redactedMembers, if_pos h, redactedProjection_allowedIn fields n value,
        redactedMembers_allowedMembers fields n rest]
    · exact redactedMembers_allowedMembers fields n rest

end

def HasField (fields : List String) (value : Json) : Prop :=
  ∃ members, value = .obj members ∧ allowedMembers fields members ≠ []

variable {fields : List String}

theorem parts_obj {members : Dict} (h : allowedMembers fields members ≠ []) :
    parts fields (.obj members) = some (.obj (allowedMembers fields members)) := by
  rw [parts]
  split
  · next hempty => exact absurd hempty h
  · rfl

variable {value value' : Json}

/-- Only an object leaves an object. -/
theorem eq_obj_of_parts {kept : Dict} (h : parts fields value = some (.obj kept)) :
    ∃ members, value = .obj members ∧ allowedMembers fields members = kept := by
  cases value with
  | obj members =>
    rw [parts] at h
    split at h
    · cases h
    · cases h
      exact ⟨members, rfl, rfl⟩
  | arr items =>
    rw [parts] at h
    split at h
    · cases h
    · cases h
  | _ =>
    cases h

theorem redactedProjection_congr (n : Nat) (hfield : HasField fields value)
    (h : parts fields value = parts fields value') :
    redactedProjection fields n value = redactedProjection fields n value' := by
  obtain ⟨members, rfl, hsome⟩ := hfield
  rw [parts_obj hsome] at h
  obtain ⟨members', rfl, hsame⟩ := eq_obj_of_parts h.symm
  rw [redactedProjection, redactedProjection, ← redactedMembers_allowedMembers fields n members,
    ← redactedMembers_allowedMembers fields n members', hsame]

theorem exists_double {n : Nat} (hpos : 0 < n) (hfield : ¬ HasField fields value) :
    ∃ value', parts fields value = parts fields value' ∧
      redactedProjection fields n value ≠ redactedProjection fields n value' := by
  have hn : n ≠ 0 := by omega
  have hnil : parts fields (.arr []) = none := rfl
  have hnilRedacted : redactedProjection fields n (.arr []) = .arr [] := by
    rw [redactedProjection, if_neg hn]
    rfl
  cases value with
  | obj members =>
    have hnone : allowedMembers fields members = [] := by
      by_contra hsome
      exact hfield ⟨members, rfl, hsome⟩
    refine ⟨.arr [], ?_, ?_⟩
    · rw [parts, hnone, hnil]
    · rw [hnilRedacted, redactedProjection, if_neg hn]
      exact fun heq => by cases heq
  | arr items =>
    -- a scalar or a list in front leaves nothing, and one of the two is not there yet
    have hfront : ∀ first : Json, parts fields first = none →
        parts fields (.arr items) = parts fields (.arr (first :: items)) := by
      intro first hfirst
      rw [parts, parts, partsOfItems, hfirst]
    have hlist : ∀ first : Json, redactedProjection fields n (.arr (first :: items)) =
        .arr (redactedProjection fields n first ::
          (redactedItems fields n items).take 9) := by
      intro first
      rw [redactedProjection, if_neg hn, redactedItems]
      rfl
    have hnull : redactedProjection fields n .null ≠ redactedProjection fields n (.arr []) := by
      rw [hnilRedacted, redactedProjection, if_neg hn]
      exact fun heq => by cases heq
    by_cases hsame : redactedProjection fields n (.arr items) =
        redactedProjection fields n (.arr (.null :: items))
    · refine ⟨.arr (.arr [] :: items), hfront _ hnil, fun heq => ?_⟩
      rw [hsame, hlist, hlist] at heq
      simp only [Json.arr.injEq, List.cons.injEq] at heq
      exact hnull heq.1
    · exact ⟨.arr (.null :: items), hfront _ rfl, hsame⟩
  | _ =>
    refine ⟨.arr [], rfl, ?_⟩
    rw [hnilRedacted, redactedProjection, if_neg hn]
    exact fun heq => by cases heq

def sizeOf : Json → Nat
  | .obj members => members.length
  | .arr items => items.length
  | .str text => text.length
  | _ => 0

def numericOf : Json → Nat
  | .obj members => members.countP fun member => isNumeric member.2
  | .arr items => items.countP isNumeric
  | _ => 0

structure SameCounts (value value' : Json) : Prop where
  type : typeName value = typeName value'
  size : sizeOf value = sizeOf value'
  numeric : numericOf value = numericOf value'

theorem aggregateSummary_congr (h : SameCounts value value') :
    aggregateSummary value = aggregateSummary value' := by
  obtain ⟨htype, hsize, hnumeric⟩ := h
  have hrow : ∀ value, aggregateSummary value =
      if typeName value = "dict" then
        [("shape", .str "object"), ("field_count", .int (sizeOf value)),
          ("numeric_field_count", .int (numericOf value))]
      else if typeName value = "list" then
        [("shape", .str "array"), ("item_count", .int (sizeOf value)),
          ("numeric_item_count", .int (numericOf value))]
      else if typeName value = "str" then
        [("shape", .str "string"), ("length", .int (sizeOf value))]
      else [("shape", .str (typeName value))] := by
    intro value
    cases value <;> rfl
  rw [hrow, hrow, htype, hsize, hnumeric]

mutual

def Bounded (chars : Int) : Json → Prop
  | .obj members => BoundedMembers chars members
  | .arr items => items.length ≤ 10 ∧ BoundedItems chars items
  | .str text => (text.length : Int) ≤ chars
  | .null => True
  | .bool _ => True
  | .int _ => True
  | .float _ _ _ => True

def BoundedItems (chars : Int) : List Json → Prop
  | [] => True
  | item :: rest => Bounded chars item ∧ BoundedItems chars rest

def BoundedMembers (chars : Int) : List (String × Json) → Prop
  | [] => True
  | (_, value) :: rest => Bounded chars value ∧ BoundedMembers chars rest

end

theorem BoundedItems.take {chars : Int} {items : List Json} (h : BoundedItems chars items)
    (k : Nat) : BoundedItems chars (items.take k) := by
  induction items generalizing k with
  | nil =>
    rw [List.take_nil]
    exact h
  | cons item rest ih =>
    cases k with
    | zero =>
      trivial
    | succ k =>
      exact ⟨h.1, ih h.2 k⟩

theorem length_snippet_le (n : Nat) (value : Json) : (snippet n value).length ≤ n := by
  rw [snippet, String.length_ofList]
  exact List.length_take_le n _

mutual

theorem bounded_redactedProjection (fields : List String) (n : Nat) : (value : Json) →
    Bounded n (redactedProjection fields n value)
  | .obj members => by
    rw [redactedProjection]
    split
    · trivial
    · rw [Bounded]
      exact bounded_redactedMembers fields n members
  | .arr items => by
    rw [redactedProjection]
    split
    · trivial
    · rw [Bounded]
      exact ⟨List.length_take_le _ _, (bounded_redactedItems fields n items).take 10⟩
  | .null | .bool _ | .int _ | .float _ _ _ | .str _ => by
    rw [redactedProjection]
    split
    · trivial
    · exact Int.ofNat_le.mpr (length_snippet_le n _)

theorem bounded_redactedItems (fields : List String) (n : Nat) : (items : List Json) →
    BoundedItems n (redactedItems fields n items)
  | [] => by
    rw [redactedItems, BoundedItems]
    trivial
  | item :: rest => by
    rw [redactedItems, BoundedItems]
    exact ⟨bounded_redactedProjection fields n item, bounded_redactedItems fields n rest⟩

theorem bounded_redactedMembers (fields : List String) (n : Nat) :
    (members : List (String × Json)) → BoundedMembers n (redactedMembers fields n members)
  | [] => by
    rw [redactedMembers, BoundedMembers]
    trivial
  | (key, value) :: rest => by
    rw [redactedMembers]
    split
    · rw [BoundedMembers]
      exact ⟨bounded_redactedProjection fields n value, bounded_redactedMembers fields n rest⟩
    · exact bounded_redactedMembers fields n rest

end

def withoutHash (projection : Dict) : Dict :=
  projection.filter fun member => member.1 != "projection_ref" && member.1 != "content_hash"

/-- A denial tells nothing of the value, a grant only its parts under allowed keys, and what is
redacted keeps to the bounds. -/
structure RevealsAllowed (reservoir : Dict) (purpose mode : String)
    (caller : Caller) (value : Json) : Prop where
  denied : purpose ∉ allowedPurposes reservoir ∨ mode ∉ allowedModes reservoir → ∀ value',
    projectReservoirAccess sha reservoir value purpose mode caller =
        projectReservoirAccess sha reservoir value' purpose mode caller ∧
      ∀ answer, projectReservoirAccess sha reservoir value purpose mode caller = .ok answer →
        answer.get? "status" = some (.str "denied") ∧ answer.get? "projection" = some .null
  same : ∀ value' projection projection',
    Grants sha reservoir value purpose mode caller projection →
      Grants sha reservoir value' purpose mode caller projection' →
        parts (allowedFields reservoir) value = parts (allowedFields reservoir) value' →
          (mode = "aggregate_only" → SameCounts value value') →
            withoutHash projection = withoutHash projection'
  bounded : ∀ projection redacted, Grants sha reservoir value purpose mode caller projection →
    projection.get? "redacted" = some redacted → Bounded (maxSnippetChars reservoir) redacted

def Confined (purpose mode : String) (value : Json) : Prop :=
  mode ≠ "redacted_projection" ∨ purpose ∉ allowedPurposes reservoir ∨
    mode ∉ allowedModes reservoir ∨ hashAlgorithm reservoir ≠ "sha256" ∨
      maxSnippetChars reservoir ≤ 0 ∨ HasField (allowedFields reservoir) value

section

variable {sha : Sha256} {reservoir : Dict} {purpose mode : String} {caller : Caller}
  {value value' : Json} {projection projection' : Dict}

def commonMembers (sha : Sha256) (reservoir : Dict) (value : Json) (mode : String) : Dict :=
  [("projection_ref", .str ("reservoir://" ++ textAt reservoir "reservoir_id" ++
      "/projection/" ++ mode ++ "/" ++ sha.ofJson value.canon)),
    ("mode", .str mode),
    ("hash_algorithm", .str "sha256"),
    ("content_hash", .str (sha.ofJson value.canon))]

def modeMembers (reservoir : Dict) (value : Json) (mode : String) : Dict :=
  if mode = "hash_only" then []
  else if mode = "aggregate_only" then [("summary", .obj (aggregateSummary value))]
  else if mode = "redacted_projection" then
    [("redaction_profile", getOr (objectAt reservoir "projection") "redaction_profile" .null),
      ("redacted", redactedProjection (allowedFields reservoir)
        (maxSnippetChars reservoir).toNat value)]
  else [("execution_boundary", .str "reservoir_local_only")]

theorem projectValue_ok (h : projectValue sha reservoir value mode = .ok projection) :
    hashAlgorithm reservoir = "sha256" ∧
      projection = commonMembers sha reservoir value mode ++ modeMembers reservoir value mode := by
  obtain ⟨_, hhash, h⟩ := bind_ok h
  have hsha : hashAlgorithm reservoir = "sha256" := by
    by_contra hne
    rw [refuseIf, rejectIf, if_pos (by simpa using hne)] at hhash
    cases hhash
  refine ⟨hsha, ?_⟩
  unfold modeMembers commonMembers
  split at h
  · next hmode =>
    cases h
    rw [if_pos hmode, List.append_nil]
  · next hhashOnly =>
    rw [if_neg hhashOnly]
    split at h
    · next hmode =>
      cases h
      rw [if_pos hmode]
    · next haggregate =>
      rw [if_neg haggregate]
      split at h
      · next hmode =>
        cases h
        rw [if_pos hmode]
      · next hredacted =>
        rw [if_neg hredacted]
        split at h
        · cases h
          rfl
        · cases h

theorem projectValue_redacted (hhash : hashAlgorithm reservoir = "sha256") (value : Json) :
    projectValue sha reservoir value "redacted_projection" =
      .ok (commonMembers sha reservoir value "redacted_projection" ++
        modeMembers reservoir value "redacted_projection") := by
  simp only [projectValue, hhash]
  rfl

theorem withoutHash_projection : withoutHash (commonMembers sha reservoir value mode ++
    modeMembers reservoir value mode) =
      [("mode", .str mode), ("hash_algorithm", .str "sha256")] ++
        modeMembers reservoir value mode := by
  have hkeep : withoutHash (modeMembers reservoir value mode) =
      modeMembers reservoir value mode := by
    unfold modeMembers
    split
    · rfl
    · split
      · rfl
      · split
        · rfl
        · rfl
  rw [withoutHash, List.filter_append, ← withoutHash, ← withoutHash, hkeep]
  rfl

/-- **An access reveals the allowed fields alone, exactly of confined values.** -/
theorem reveals_allowed_iff (sha : Sha256) (reservoir : Dict) (purpose mode : String)
    (caller : Caller) (value : Json) (haccepted : Accepted reservoir) :
    RevealsAllowed sha reservoir purpose mode caller value ↔
      Confined reservoir purpose mode value := by
  constructor
  · intro h
    by_contra hnot
    simp only [Confined, not_or, not_not, not_le] at hnot
    obtain ⟨rfl, hpurpose, hmode, hhash, hpos, hfield⟩ := hnot
    obtain ⟨value', hparts, hne⟩ := exists_double (n := (maxSnippetChars reservoir).toNat)
      (by omega) hfield
    have hgrants : ∀ value, Grants sha reservoir value purpose "redacted_projection" caller
        (commonMembers sha reservoir value "redacted_projection" ++
          modeMembers reservoir value "redacted_projection") := fun value =>
      (grants_iff haccepted).mpr ⟨hpurpose, hmode, projectValue_redacted hhash value⟩
    have hsame := h.same value' _ _ (hgrants value) (hgrants value') hparts
      (fun hmode => absurd hmode (by decide))
    rw [withoutHash_projection, withoutHash_projection, List.append_cancel_left_eq] at hsame
    simp only [modeMembers] at hsame
    rw [if_neg (by decide), if_neg (by decide), if_pos trivial, if_neg (by decide),
      if_neg (by decide), if_pos trivial] at hsame
    simp only [List.cons.injEq, Prod.mk.injEq, true_and, and_true] at hsame
    exact hne hsame
  · intro h
    refine ⟨fun hdenied value' => access_denied hdenied haccepted value value',
      fun value' projection projection' hgrant hgrant' hparts hcounts => ?_,
      fun projection redacted hgrant hredacted => ?_⟩
    · obtain ⟨hpurpose, hmode, hvalue⟩ := (grants_iff haccepted).mp hgrant
      obtain ⟨-, -, hvalue'⟩ := (grants_iff haccepted).mp hgrant'
      obtain ⟨hhash, rfl⟩ := projectValue_ok hvalue
      obtain ⟨-, rfl⟩ := projectValue_ok hvalue'
      rw [withoutHash_projection, withoutHash_projection, List.append_cancel_left_eq]
      unfold modeMembers
      split
      · rfl
      · split
        · next haggregate => rw [aggregateSummary_congr (hcounts haggregate)]
        · split
          · next hredacted =>
            have hcases : maxSnippetChars reservoir ≤ 0 ∨
                HasField (allowedFields reservoir) value := by
              rcases h with hne | hne | hne | hne | hor
              · exact absurd hredacted hne
              · exact absurd hpurpose hne
              · exact absurd hmode hne
              · exact absurd hhash hne
              · exact hor
            have hequal : redactedProjection (allowedFields reservoir)
                (maxSnippetChars reservoir).toNat value =
                  redactedProjection (allowedFields reservoir)
                    (maxSnippetChars reservoir).toNat value' := by
              rcases hcases with hzero | hfield
              · have hnull : ∀ value, redactedProjection (allowedFields reservoir)
                    (maxSnippetChars reservoir).toNat value = .null := by
                  intro value
                  have hn : (maxSnippetChars reservoir).toNat = 0 := by omega
                  rw [hn]
                  cases value <;> rfl
                rw [hnull, hnull]
              · exact redactedProjection_congr _ hfield hparts
            rw [hequal]
          · rfl
    · obtain ⟨-, -, hvalue⟩ := (grants_iff haccepted).mp hgrant
      obtain ⟨-, rfl⟩ := projectValue_ok hvalue
      have hget : (modeMembers reservoir value mode).get? "redacted" = some redacted := hredacted
      unfold modeMembers at hget
      split at hget
      · cases hget
      · split at hget
        · cases hget
        · split at hget
          · cases hget
            have hbounded := bounded_redactedProjection (allowedFields reservoir)
              (maxSnippetChars reservoir).toNat value
            by_cases hpos : 0 ≤ maxSnippetChars reservoir
            · rw [Int.toNat_of_nonneg hpos] at hbounded
              exact hbounded
            · -- with no characters to show, there is nothing
              have hn : (maxSnippetChars reservoir).toNat = 0 := by omega
              rw [hn]
              cases value <;> trivial
          · cases hget

end

def findings : Dict :=
  [("contract", .str "perennial.sensitive_reservoir.v1"),
    ("reservoir_id", .str "reservoir_findings"),
    ("name", .str "findings"),
    ("owner", .obj [("team", .str "security"), ("service_owner", .str "scanner"),
      ("data_steward", .str "steward")]),
    ("classification", .obj [("data_classes", .arr [.str "security"]),
      ("sensitivity", .str "restricted"), ("trainable", .str "prohibited")]),
    ("locality", .obj [("boundary", .str "on_prem"), ("region", .str "eu"),
      ("storage_ref", .str "vault"), ("external_egress_default", .str "deny")]),
    ("access_policy", .obj [("allowed_purposes", .arr [.str "audit"]),
      ("allowed_compute_modes", .arr [.str "redacted_projection"]),
      ("approval_required", .bool true), ("retention_days", .int 30)]),
    ("projection", .obj [("redaction_profile", .str "strict"), ("max_snippet_chars", .int 16),
      ("hash_algorithm", .str "sha256"), ("allowed_index_fields", .arr [.str "severity"])]),
    ("crypto", .obj [("encryption_profile", .str "customer-managed-aes256"),
      ("signing_profile", .null), ("pqc_profile", .null)])]

def auditor : Caller where
  actorId := "auditor"
  tenantId := "customer-a"
  runId := none
  observedAt := none
  now := "2024-01-01T00:00:00+00:00"

theorem reveals_allowed_iff_finding :
    RevealsAllowed checksumHash findings "audit" "redacted_projection" auditor
        (.obj [("finding", .str "stack trace"), ("severity", .str "high")]) ↔
      Confined findings "audit" "redacted_projection"
        (.obj [("finding", .str "stack trace"), ("severity", .str "high")]) :=
  reveals_allowed_iff checksumHash findings "audit" "redacted_projection" auditor
    (.obj [("finding", .str "stack trace"), ("severity", .str "high")]) rfl

/-- A bare text is shown, though it stands under no allowed key. -/
theorem bare_text_is_shown :
    ¬ ∀ (sha : Sha256) (reservoir : Dict) (purpose mode : String) (caller : Caller)
        (value : Json), Accepted reservoir →
      RevealsAllowed sha reservoir purpose mode caller value := by
  intro hall
  have haccepted : Accepted findings := rfl
  have h := hall checksumHash findings "audit" "redacted_projection" auditor
    (.str "password=hunter2") haccepted
  have hgrants : ∀ text : String,
      Grants checksumHash findings (.str text) "audit" "redacted_projection" auditor
        (commonMembers checksumHash findings (.str text) "redacted_projection" ++
          modeMembers findings (.str text) "redacted_projection") := fun text =>
    (grants_iff haccepted).mpr ⟨by decide, by decide, projectValue_redacted rfl _⟩
  have hsame := h.same (.str "nothing") _ _ (hgrants "password=hunter2") (hgrants "nothing") rfl
    (fun hmode => absurd hmode (by decide))
  have hredacted : (withoutHash (commonMembers checksumHash findings (.str "password=hunter2")
      "redacted_projection" ++ modeMembers findings (.str "password=hunter2")
        "redacted_projection")).get? "redacted" = some (.str "password=hunter2") := by
    decide +kernel
  have hredacted' : (withoutHash (commonMembers checksumHash findings (.str "nothing")
      "redacted_projection" ++ modeMembers findings (.str "nothing")
        "redacted_projection")).get? "redacted" = some (.str "nothing") := by
    decide +kernel
  rw [hsame, hredacted'] at hredacted
  exact absurd hredacted (by decide)

end OrbitalMesh.Reservoirs
