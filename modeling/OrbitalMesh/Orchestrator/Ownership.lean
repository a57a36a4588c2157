import OrbitalMesh.Decision.Trigger

/-!
# Who owns an incident

Two places look up the ownership record of an incident.  A run stores the boundary that
`build_ownership_boundary` makes from its signal, and the topology resolver looks into the same
registry for the trigger that the signal leads to.  The first prefers the record of the
incident's environment to one of any environment.  The second takes the first record of that
environment or of production, and knows no record of any environment.
-/

namespace OrbitalMesh.Ownership

open OrbitalMesh.Decision

def textsSchema (minItems : Nat) : Schema := .listOf .text minItems

/-- `{"type": "boolean"}`. -/
def flagSchema : Schema := { types := [.boolean] }

/-- `data_boundary`. -/
def dataBoundarySchema : Schema :=
  .record
    ["classification", "export_allowed", "retention_days", "reservoir_refs", "export_policy",
      "legal_action_scope"]
    [("classification", .text),
      ("export_allowed", flagSchema),
      ("retention_days", { types := [.integer] }),
      ("reservoir_refs", textsSchema 0),
      ("export_policy", .record ["allowed", "allowed_destinations", "redaction_required"]
        [("allowed", flagSchema),
          ("allowed_destinations", textsSchema 0),
          ("redaction_required", flagSchema)]),
      ("legal_action_scope", .record ["allowed", "review_required", "authority_ref"]
        [("allowed", flagSchema),
          ("review_required", flagSchema),
          ("authority_ref", .text)])]

def ownershipRecordSchema : Schema :=
  .record
    ["record_id", "service", "environment", "namespace", "tenant_id", "customer_id",
      "customer_boundary", "owner", "approver_roles", "rollback_authority", "escalation_route",
      "allowed_action_classes", "policy_refs", "data_boundary"]
    [("record_id", .text),
      ("service", .text),
      ("environment", .text),
      ("namespace", .text),
      ("tenant_id", .text),
      ("customer_id", .text),
      ("customer_boundary", .text),
      ("owner", .object),
      ("approver_roles", textsSchema 1),
      ("rollback_authority", .object),
      ("escalation_route", .text),
      ("allowed_action_classes", textsSchema 1),
      ("policy_refs", textsSchema 1),
      ("data_boundary", dataBoundarySchema)]

/-- `ownership-registry.schema.json`. -/
def ownershipRegistrySchema : Schema :=
  .record ["version", "records"]
    [("version", .text), ("records", .listOf ownershipRecordSchema 1)]

/-- `ownership-boundary.schema.json`. -/
def ownershipBoundarySchema : Schema :=
  .record
    ["boundary_version", "record_id", "resolved", "service", "environment", "namespace",
      "tenant_id", "customer_id", "customer_boundary", "owner", "approver_roles",
      "rollback_authority", "escalation_route", "allowed_action_classes", "policy_refs",
      "data_boundary", "source_refs", "blockers"]
    [("boundary_version", .text),
      ("record_id", .text),
      ("resolved", flagSchema),
      ("service", .text),
      ("environment", .text),
      ("namespace", .text),
      ("tenant_id", .text),
      ("customer_id", .text),
      ("customer_boundary", .text),
      ("owner", .object),
      ("approver_roles", textsSchema 0),
      ("rollback_authority", .object),
      ("escalation_route", .text),
      ("allowed_action_classes", textsSchema 0),
      ("policy_refs", textsSchema 0),
      ("data_boundary", dataBoundarySchema),
      ("source_refs", textsSchema 0),
      ("blockers", textsSchema 0)]

/-- The configured path, and what stands there. -/
structure RegistryFile where
  sourceRef : Option String
  payload : Option Json

/-- `load_ownership_registry`, of a file that parses. -/
def loadOwnershipRegistry (file : RegistryFile) : Except PyError (Option Json) :=
  match file.payload with
  | none => .ok none
  | some payload => do
    validatePayload ownershipRegistrySchema payload
    return some payload

def firstText : List Json → String
  | [] => "unknown"
  | .str text :: rest => if pyStrip text = "" then firstText rest else pyStrip text
  | _ :: rest => firstText rest

/-- `_nested(payload, "kubernetes", key)`. -/
def nestedKubernetes (signal : Dict) (key : String) : Json :=
  match signal.get? "kubernetes" with
  | some (.obj members) => getOr members key .null
  | _ => .null

/-- The service that `build_ownership_boundary` looks for. -/
def ownedService (signal : Dict) : String :=
  firstText [getOr signal "service" .null, getOr signal "deployment_name" .null,
    nestedKubernetes signal "deployment_name", .str "unknown"]

/-- The environment that `build_ownership_boundary` looks for. -/
def ownedEnvironment (signal : Dict) (defaultEnvironment : String) : String :=
  firstText [getOr signal "environment" .null, .str defaultEnvironment, .str "local"]

/-- `registry.get("records")`, where it is a list. -/
def recordsOf : Json → List Json
  | .obj members =>
    match Dict.get? members "records" with
    | some (.arr items) => items
    | _ => []
  | _ => []

/-- `record.get(key) == text`. -/
def textIs (key text : String) (record : Dict) : Bool := record.get? key == some (.str text)

/-- `record.get("environment") in {"*", "any"}`. -/
def isWildcard (record : Dict) : Bool :=
  textIs "environment" "*" record || textIs "environment" "any" record

/-- `_match_record`.  The registry has passed its schema here, so every environment is a text. -/
def matchRecord (records : List Json) (service environment : String) : Option Dict :=
  let candidates := (records.filterMap Json.asObj?).filter (textIs "service" service)
  match candidates.find? (textIs "environment" environment) with
  | some record => some record
  | none => candidates.find? isWildcard

/-- The member `key` of a record as a text. -/
def recordText (record : Dict) (key : String) : Json := .str (pyStr (getOr record key .null))

variable (sourceRefs : List String)

def resolvedBoundary (record : Dict) : Dict :=
  [("boundary_version", .str "ownership.boundary.v1"),
    ("record_id", recordText record "record_id"),
    ("resolved", .bool true),
    ("service", recordText record "service"),
    ("environment", recordText record "environment"),
    ("namespace", recordText record "namespace"),
    ("tenant_id", recordText record "tenant_id"),
    ("customer_id", recordText record "customer_id"),
    ("customer_boundary", recordText record "customer_boundary"),
    ("owner", getOr record "owner" .null),
    ("approver_roles", getOr record "approver_roles" .null),
    ("rollback_authority", getOr record "rollback_authority" .null),
    ("escalation_route", recordText record "escalation_route"),
    ("allowed_action_classes", getOr record "allowed_action_classes" .null),
    ("policy_refs", getOr record "policy_refs" .null),
    ("data_boundary", getOr record "data_boundary" .null),
    ("source_refs", .arr (sourceRefs.map .str)),
    ("blockers", .arr [])]

/-- `_unresolved_boundary`, for a missing record. -/
def unresolvedBoundary (service environment : String) : Dict :=
  [("boundary_version", .str "ownership.boundary.v1"),
    ("record_id", .str "unresolved"),
    ("resolved", .bool false),
    ("service", .str service),
    ("environment", .str environment),
    ("namespace", .str "unknown"),
    ("tenant_id", .str "unknown"),
    ("customer_id", .str "unknown"),
    ("customer_boundary", .str "unknown"),
    ("owner", .obj [("owner_id", .str "unassigned"), ("source_refs", .arr [])]),
    ("approver_roles", .arr []),
    ("rollback_authority", .obj []),
    ("escalation_route", .str ""),
    ("allowed_action_classes", .arr []),
    ("policy_refs", .arr []),
    ("data_boundary", .obj [
      ("classification", .str "unknown"),
      ("export_allowed", .bool false),
      ("retention_days", .int 0),
      ("reservoir_refs", .arr []),
      ("export_policy", .obj [
        ("allowed", .bool false),
        ("allowed_destinations", .arr []),
        ("redaction_required", .bool true)]),
      ("legal_action_scope", .obj [
        ("allowed", .bool false),
        ("review_required", .bool true),
        ("authority_ref", .str "unresolved")])]),
    ("source_refs", .arr (sourceRefs.map .str)),
    ("blockers", .arr [.str "ownership_record_missing"])]

/-- The boundary for what the registry is found to say. -/
def boundaryFor (service environment : String) : Option Dict → Dict
  | none => unresolvedBoundary sourceRefs service environment
  | some record => resolvedBoundary sourceRefs record

def buildOwnershipBoundary (file : RegistryFile) (signal : Dict)
    (defaultEnvironment : String) : Except PyError Dict := do
  let service := ownedService signal
  let environment := ownedEnvironment signal defaultEnvironment
  let registry ← loadOwnershipRegistry file
  let sourceRefs := file.sourceRef.toList
  let boundary := boundaryFor sourceRefs service environment
    (registry.bind fun payload => matchRecord (recordsOf payload) service environment)
  validatePayload ownershipBoundarySchema (.obj boundary)
  return boundary

/-- The loop of `_ownership_boundary` over the records. -/
def topologyRecord (service environment : String) : List Json → Except PyError (Option Dict)
  | [] => .ok none
  | .obj record :: rest =>
    if !textIs "service" service record then topologyRecord service environment rest
    else if environment.isEmpty then .ok (some record)
    else
      match getOr record "environment" .null with
      | .arr _ => typeError "unhashable type: 'list'"
      | .obj _ => typeError "unhashable type: 'dict'"
      | value =>
        if value = .str environment ∨ value = .str "production" then .ok (some record)
        else topologyRecord service environment rest
  | item :: _ => .error ⟨.exception, "'" ++ typeName item ++ "' object has no attribute 'get'"⟩

/-- The evidence for what the registry is found to say. -/
def evidenceFor : Option Dict → Dict
  | none => [("matched", .bool false), ("blockers", .arr [.str "ownership_record_missing"])]
  | some record =>
    [("matched", .bool true),
      ("record_id", getOr record "record_id" .null),
      ("tenant_id", getOr record "tenant_id" .null),
      ("customer_id", getOr record "customer_id" .null),
      ("namespace", getOr record "namespace" .null),
      ("customer_boundary", getOr record "customer_boundary" .null),
      ("owner", getOr record "owner" .null),
      ("approver_roles", getOr record "approver_roles" (.arr [])),
      ("allowed_action_classes", getOr record "allowed_action_classes" (.arr [])),
      ("data_boundary", getOr record "data_boundary" (.obj []))]

/-- `_ownership_boundary`, of what `_load_json` reads. -/
def ownershipBoundary (payload : Json) (trigger : Trigger) : Except PyError Dict := do
  let record ← topologyRecord trigger.service trigger.environment (recordsOf payload)
  return evidenceFor record

section

variable {payload : Json} {record : Dict}

def Accepted (record : Dict) : Prop :=
  ∃ place, validateNode (.obj record) ownershipRecordSchema place = .ok ()

theorem accepted_of_mem (h : validatePayload ownershipRegistrySchema payload = .ok ())
    {item : Json} (hmem : item ∈ recordsOf payload) : ∃ record, item = .obj record ∧
      Accepted record := by
  cases payload with
  | obj members =>
    simp only [recordsOf] at hmem
    split at hmem
    · next items hitems =>
      have hlist := validateNode_member h (by rfl) hitems
        (show ownershipRegistrySchema.properties.lookup "records" =
          some (.listOf ownershipRecordSchema 1) from rfl)
      obtain ⟨items', heq, hall⟩ := validateNode_items hlist
      cases heq
      obtain ⟨place, hitem⟩ := hall item hmem
      have htype := validateNode_type hitem (by rfl)
      cases item with
      | obj record => exact ⟨record, rfl, place, hitem⟩
      | _ => exact absurd htype (by simp [ownershipRecordSchema, Schema.record, matchesType])
    · cases hmem
  | _ => cases hmem

theorem Accepted.member (h : Accepted record) {key : String}
    (hrequired : key ∈ ownershipRecordSchema.required) {member : Schema}
    (hschema : ownershipRecordSchema.properties.lookup key = some member) :
    ∃ value, record.get? key = some value ∧
      ∃ place, validateNode value member place = .ok () := by
  obtain ⟨place, h⟩ := h
  obtain ⟨value, hvalue⟩ := Option.isSome_iff_exists.mp
    (validateNode_required h (by rfl) hrequired)
  exact ⟨value, hvalue, _, validateNode_member h (by rfl) hvalue hschema⟩

theorem Accepted.environment (h : Accepted record) :
    ∃ text, record.get? "environment" = some (.str text) := by
  obtain ⟨value, hvalue, place, hpassed⟩ :=
    @Accepted.member record h "environment" (by decide) _ rfl
  have htype := validateNode_type hpassed (by rfl)
  cases value with
  | str text => exact ⟨text, hvalue⟩
  | _ => exact absurd htype (by simp [Schema.text, matchesType])

end

section

variable {payload : Json} {records : List Dict} {service environment : String}

def dicts (payload : Json) : List Dict := (recordsOf payload).filterMap Json.asObj?

theorem recordsOf_eq_dicts (h : validatePayload ownershipRegistrySchema payload = .ok ()) :
    recordsOf payload = (dicts payload).map .obj := by
  have hall : ∀ item ∈ recordsOf payload, ∃ record, item = .obj record := fun item hmem => by
    obtain ⟨record, heq, -⟩ := accepted_of_mem h hmem
    exact ⟨record, heq⟩
  unfold dicts
  generalize recordsOf payload = items at hall
  induction items with
  | nil => rfl
  | cons item rest ih =>
    obtain ⟨record, rfl⟩ := hall item (.head _)
    rw [List.filterMap_cons_some (by rfl), List.map_cons,
      ← ih fun other hmem => hall other (.tail _ hmem)]

theorem accepted_of_mem_dicts (h : validatePayload ownershipRegistrySchema payload = .ok ())
    {record : Dict} (hmem : record ∈ dicts payload) : Accepted record := by
  have hobj : Json.obj record ∈ recordsOf payload := by
    rw [recordsOf_eq_dicts h]
    exact List.mem_map.mpr ⟨record, hmem, rfl⟩
  obtain ⟨record', heq, haccepted⟩ := accepted_of_mem h hobj
  cases heq
  exact haccepted

def isExact (service environment : String) (record : Dict) : Bool :=
  textIs "service" service record && textIs "environment" environment record

def isAny (service : String) (record : Dict) : Bool :=
  textIs "service" service record && isWildcard record

theorem matchRecord_eq (payload : Json) (service environment : String) :
    matchRecord (recordsOf payload) service environment =
      ((dicts payload).find? (isExact service environment)).or
        ((dicts payload).find? (isAny service)) := by
  have hexact : ((dicts payload).filter (textIs "service" service)).find?
      (textIs "environment" environment) =
        (dicts payload).find? (isExact service environment) := by
    rw [List.find?_filter]
    congr 1
    funext record
    simp [isExact]
  have hany : ((dicts payload).filter (textIs "service" service)).find? isWildcard =
      (dicts payload).find? (isAny service) := by
    rw [List.find?_filter]
    congr 1
    funext record
    simp [isAny]
  show (match ((dicts payload).filter (textIs "service" service)).find?
      (textIs "environment" environment) with
    | some record => some record
    | none => ((dicts payload).filter (textIs "service" service)).find? isWildcard) = _
  rw [hexact, hany]
  cases (dicts payload).find? (isExact service environment) <;> rfl

def isTaken (service environment : String) (record : Dict) : Bool :=
  isExact service environment record || isExact service "production" record

theorem topologyRecord_eq (hnonempty : environment ≠ "")
    (h : ∀ record ∈ records, Accepted record) :
    topologyRecord service environment (records.map .obj) =
      .ok (records.find? (isTaken service environment)) := by
  induction records with
  | nil => rfl
  | cons record rest ih =>
    obtain ⟨text, htext⟩ := (h record (.head _)).environment
    have hrest := ih fun other hmem => h other (.tail _ hmem)
    rw [List.map_cons, topologyRecord, List.find?_cons, hrest]
    by_cases hsame : textIs "service" service record = true
    · have htaken : isTaken service environment record = true ↔
          (.str text : Json) = .str environment ∨ (.str text : Json) = .str "production" := by
        have hservice : record.get? "service" = some (.str service) := by
          simpa [textIs] using hsame
        simp [isTaken, isExact, textIs, htext, hservice]
      rw [if_neg (by simp [hsame]), if_neg (by simpa using hnonempty)]
      simp only [getOr, htext, Option.getD_some]
      by_cases htake : isTaken service environment record = true
      · rw [if_pos (htaken.mp htake), htake]
      · rw [if_neg (mt htaken.mpr htake), eq_false_of_ne_true htake]
    · have htaken : isTaken service environment record = false := by
        simp [isTaken, isExact, eq_false_of_ne_true hsame]
      rw [if_pos (by simp [hsame]), htaken]

end

section

variable {record : Dict} {place : String} {key : String}

theorem Accepted.passes (h : Accepted record) {member : Schema}
    (hrequired : key ∈ ownershipRecordSchema.required)
    (hschema : ownershipRecordSchema.properties.lookup key = some member) (place : String) :
    validateNode (getOr record key .null) member place = .ok () := by
  obtain ⟨value, hvalue, place', hpassed⟩ := h.member hrequired hschema
  rw [getOr, hvalue]
  exact validateNode_place _ _ _ _ hpassed

theorem Accepted.passes_texts (h : Accepted record)
    (hrequired : key ∈ ownershipRecordSchema.required)
    (hschema : ownershipRecordSchema.properties.lookup key = some (textsSchema 1))
    (place : String) : validateNode (getOr record key .null) (textsSchema 0) place = .ok () :=
  validateNode_listOf_zero (h.passes hrequired hschema place) place

theorem validateNode_text (text place : String) : validateNode (.str text) .text place = .ok () :=
  rfl

theorem validateNode_texts (texts : List String) (place : String) :
    validateNode (.arr (texts.map .str)) (textsSchema 0) place = .ok () := by
  have hitems : ∀ index, validateItems (texts.map .str) .text place index = .ok () := by
    induction texts with
    | nil => exact fun _ => rfl
    | cons text rest ih =>
      intro index
      exact ih (index + 1)
  exact hitems 0

theorem resolvedBoundary_passes (h : Accepted record) (sourceRefs : List String) :
    validatePayload ownershipBoundarySchema (.obj (resolvedBoundary sourceRefs record)) =
      .ok () := by
  have hnode : checkNode (.obj (resolvedBoundary sourceRefs record)) ownershipBoundarySchema "$" =
      .ok () := rfl
  have hobject : checkObject (resolvedBoundary sourceRefs record) ownershipBoundarySchema "$" =
      .ok () := rfl
  have hmembers : validateMembers (resolvedBoundary sourceRefs record)
      ownershipBoundarySchema.properties "$" = .ok () := by
    refine validateMembers_cons rfl (validateNode_text _ _) ?_
    refine validateMembers_cons rfl (validateNode_text _ _) ?_
    refine validateMembers_cons rfl rfl ?_
    refine validateMembers_cons rfl (validateNode_text _ _) ?_
    refine validateMembers_cons rfl (validateNode_text _ _) ?_
    refine validateMembers_cons rfl (validateNode_text _ _) ?_
    refine validateMembers_cons rfl (validateNode_text _ _) ?_
    refine validateMembers_cons rfl (validateNode_text _ _) ?_
    refine validateMembers_cons rfl (validateNode_text _ _) ?_
    refine validateMembers_cons rfl (h.passes (by decide) rfl _) ?_
    refine validateMembers_cons rfl (h.passes_texts (by decide) rfl _) ?_
    refine validateMembers_cons rfl (h.passes (by decide) rfl _) ?_
    refine validateMembers_cons rfl (validateNode_text _ _) ?_
    refine validateMembers_cons rfl (h.passes_texts (by decide) rfl _) ?_
    refine validateMembers_cons rfl (h.passes_texts (by decide) rfl _) ?_
    refine validateMembers_cons rfl (h.passes (by decide) rfl _) ?_
    refine validateMembers_cons rfl (validateNode_texts _ _) ?_
    refine validateMembers_cons rfl (validateNode_texts [] _) ?_
    rfl
  rw [validatePayload, validateNode, hnode, ok_bind, if_pos (by rfl), hobject, ok_bind, hmembers]

theorem unresolvedBoundary_passes (sourceRefs : List String) (service environment : String) :
    validatePayload ownershipBoundarySchema
      (.obj (unresolvedBoundary sourceRefs service environment)) = .ok () := by
  have hnode : checkNode (.obj (unresolvedBoundary sourceRefs service environment))
      ownershipBoundarySchema "$" = .ok () := rfl
  have hobject : checkObject (unresolvedBoundary sourceRefs service environment)
      ownershipBoundarySchema "$" = .ok () := rfl
  have hmembers : validateMembers (unresolvedBoundary sourceRefs service environment)
      ownershipBoundarySchema.properties "$" = .ok () := by
    iterate 16 refine validateMembers_cons rfl rfl ?_
    refine validateMembers_cons rfl (validateNode_texts _ _) ?_
    refine validateMembers_cons rfl rfl ?_
    rfl
  rw [validatePayload, validateNode, hnode, ok_bind, if_pos (by rfl), hobject, ok_bind, hmembers]

end

section

variable {payload : Json} {file : RegistryFile} {signal : Dict} {defaultEnvironment : String}
  {trigger : Trigger}

/-- The record that the boundary of a run is made of. -/
def ownedRecord (payload : Json) (signal : Dict) (defaultEnvironment : String) : Option Dict :=
  matchRecord (recordsOf payload) (ownedService signal)
    (ownedEnvironment signal defaultEnvironment)

theorem buildOwnershipBoundary_eq (hfile : file.payload = some payload)
    (haccepted : validatePayload ownershipRegistrySchema payload = .ok ()) :
    buildOwnershipBoundary file signal defaultEnvironment =
      .ok (boundaryFor file.sourceRef.toList (ownedService signal)
        (ownedEnvironment signal defaultEnvironment)
        (ownedRecord payload signal defaultEnvironment)) := by
  have hload : loadOwnershipRegistry file = .ok (some payload) := by
    simp only [loadOwnershipRegistry, hfile, haccepted, ok_bind]
    rfl
  have hpasses : validatePayload ownershipBoundarySchema (.obj (boundaryFor
      file.sourceRef.toList (ownedService signal) (ownedEnvironment signal defaultEnvironment)
      (ownedRecord payload signal defaultEnvironment))) = .ok () := by
    cases hrecord : ownedRecord payload signal defaultEnvironment with
    | none => exact unresolvedBoundary_passes _ _ _
    | some record =>
      refine resolvedBoundary_passes (accepted_of_mem_dicts haccepted ?_) _
      rw [ownedRecord, matchRecord_eq, Option.or_eq_some_iff] at hrecord
      rcases hrecord with hexact | ⟨-, hany⟩
      · exact List.mem_of_find?_eq_some hexact
      · exact List.mem_of_find?_eq_some hany
  simp only [buildOwnershipBoundary, hload, ok_bind, Option.bind_some]
  unfold ownedRecord at hpasses ⊢
  rw [hpasses]
  rfl

structure LeadsTo (signal : Dict) (trigger : Trigger) : Prop where
  service : signal.get? "service" = some (.str trigger.service)
  environment : signal.get? "environment" = some (.str trigger.environment)
  service_ne : trigger.service ≠ ""
  environment_ne : trigger.environment ≠ ""

/-- The boundary and the evidence are made of one record or are unresolved, and the record is of
the incident's environment wherever the registry has one. -/
structure OneOwner (file : RegistryFile) (payload : Json) (signal : Dict)
    (defaultEnvironment : String) (trigger : Trigger) : Prop where
  boundary : buildOwnershipBoundary file signal defaultEnvironment =
    .ok (boundaryFor file.sourceRef.toList (ownedService signal)
      (ownedEnvironment signal defaultEnvironment)
      (ownedRecord payload signal defaultEnvironment))
  same : topologyRecord trigger.service trigger.environment (recordsOf payload) =
    .ok (ownedRecord payload signal defaultEnvironment)
  evidence : ownershipBoundary payload trigger =
    .ok (evidenceFor (ownedRecord payload signal defaultEnvironment))
  concrete : ∀ record, ownedRecord payload signal defaultEnvironment = some record →
    textIs "environment" trigger.environment record = true ∨ isWildcard record = true
  exact : (∃ record ∈ dicts payload,
      isExact trigger.service trigger.environment record = true) →
    ∃ record, ownedRecord payload signal defaultEnvironment = some record ∧
      isExact trigger.service trigger.environment record = true

/-- The signal is spelt without blanks around it and has a record of its environment with none of
production before it, or no record at all. -/
def Plain (payload : Json) (signal : Dict) (defaultEnvironment : String) (trigger : Trigger) :
    Prop :=
  (ownedService signal = trigger.service ∧
    ownedEnvironment signal defaultEnvironment = trigger.environment ∧
      ∃ before record after, dicts payload = before ++ record :: after ∧
        isExact trigger.service trigger.environment record = true ∧
        ∀ other ∈ before, isExact trigger.service "production" other = false) ∨
  ((∀ record ∈ dicts payload,
      isExact (ownedService signal) (ownedEnvironment signal defaultEnvironment) record = false ∧
        isAny (ownedService signal) record = false) ∧
    ∀ record ∈ dicts payload, isTaken trigger.service trigger.environment record = false)

variable {record : Dict}

theorem textIs_unique {key text text' : String} (h : textIs key text record = true)
    (h' : textIs key text' record = true) : text = text' := by
  unfold textIs at h h'
  rw [eq_of_beq h] at h'
  simpa using h'

/-- What is found first stands no later than any other hit. -/
theorem exists_find?_of_split {p : Dict → Bool} (h : p record = true) (before after : List Dict) :
    ∃ first, (before ++ record :: after).find? p = some first ∧
      (first = record ∨ first ∈ before) := by
  rw [List.find?_append, List.find?_cons_of_pos h]
  cases hfound : before.find? p with
  | none => exact ⟨record, rfl, .inl rfl⟩
  | some first => exact ⟨first, rfl, .inr (List.mem_of_find?_eq_some hfound)⟩

theorem find?_isExact_of_isTaken {records : List Dict} {service environment : String}
    (h : records.find? (isTaken service environment) = some record)
    (hexact : isExact service environment record = true) :
    records.find? (isExact service environment) = some record := by
  obtain ⟨-, before, after, rfl, hbefore⟩ := List.find?_eq_some_iff_append.mp h
  refine List.find?_eq_some_iff_append.mpr ⟨hexact, before, after, rfl, fun other hmem => ?_⟩
  have hother := hbefore other hmem
  simp only [isTaken, Bool.not_or, Bool.and_eq_true] at hother
  exact hother.1

/-- **One owner per incident, exactly where the registry is plain about it.** -/
theorem one_owner_iff (hfile : file.payload = some payload)
    (haccepted : validatePayload ownershipRegistrySchema payload = .ok ())
    (hsignal : LeadsTo signal trigger) :
    OneOwner file payload signal defaultEnvironment trigger ↔
      Plain payload signal defaultEnvironment trigger := by
  have htopology : topologyRecord trigger.service trigger.environment (recordsOf payload) =
      .ok ((dicts payload).find? (isTaken trigger.service trigger.environment)) := by
    rw [recordsOf_eq_dicts haccepted]
    exact topologyRecord_eq hsignal.environment_ne
      fun record hmem => accepted_of_mem_dicts haccepted hmem
  have howned : ownedRecord payload signal defaultEnvironment =
      ((dicts payload).find? (isExact (ownedService signal)
        (ownedEnvironment signal defaultEnvironment))).or
          ((dicts payload).find? (isAny (ownedService signal))) := matchRecord_eq ..
  -- a wildcard has no blanks around it
  have htrimmed : ∀ record, textIs "environment" trigger.environment record = true →
      isWildcard record = true →
        ownedEnvironment signal defaultEnvironment = trigger.environment := by
    intro record htext hwild
    have hcases : trigger.environment = "*" ∨ trigger.environment = "any" := by
      simp only [isWildcard, Bool.or_eq_true] at hwild
      exact hwild.imp (textIs_unique htext) (textIs_unique htext)
    have hget : getOr signal "environment" .null = .str trigger.environment := by
      rw [getOr, hsignal.environment]
      rfl
    have hstrip : pyStrip trigger.environment = trigger.environment := by
      rcases hcases with heq | heq
      · rw [heq]
        decide
      · rw [heq]
        decide
    rw [ownedEnvironment, hget, firstText, hstrip, if_neg hsignal.environment_ne]
  constructor
  · intro h
    have hsame := h.same
    rw [htopology, Except.ok.injEq] at hsame
    cases hrecord : ownedRecord payload signal defaultEnvironment with
    | none =>
      refine .inr ⟨fun record hmem => ?_, fun record hmem => ?_⟩
      · rw [howned, Option.or_eq_none_iff, List.find?_eq_none, List.find?_eq_none] at hrecord
        exact ⟨eq_false_of_ne_true (hrecord.1 record hmem),
          eq_false_of_ne_true (hrecord.2 record hmem)⟩
      · rw [hrecord, List.find?_eq_none] at hsame
        exact eq_false_of_ne_true (hsame record hmem)
    | some record =>
      rw [hrecord] at hsame
      obtain ⟨htaken, before, after, heq, hbefore⟩ := List.find?_eq_some_iff_append.mp hsame
      have hfound : textIs "service" (ownedService signal) record = true ∧
          (textIs "environment" (ownedEnvironment signal defaultEnvironment) record = true ∨
            isWildcard record = true) := by
        rw [howned, Option.or_eq_some_iff] at hrecord
        rcases hrecord with hexact | ⟨-, hany⟩
        · have := List.find?_some hexact
          simp only [isExact, Bool.and_eq_true] at this
          exact ⟨this.1, .inl this.2⟩
        · have := List.find?_some hany
          simp only [isAny, Bool.and_eq_true] at this
          exact ⟨this.1, .inr this.2⟩
      have hservice : textIs "service" trigger.service record = true := by
        simp only [isTaken, isExact, Bool.or_eq_true, Bool.and_eq_true] at htaken
        exact htaken.elim And.left And.left
      have hexact : textIs "environment" trigger.environment record = true := by
        rcases h.concrete record hrecord with hexact | hwild
        · exact hexact
        · simp only [isTaken, isExact, Bool.or_eq_true, Bool.and_eq_true] at htaken
          rcases htaken with htaken | hproduction
          · exact htaken.2
          · exfalso
            simp only [isWildcard, Bool.or_eq_true] at hwild
            rcases hwild with hwild | hwild
            · exact absurd (textIs_unique hwild hproduction.2) (by decide)
            · exact absurd (textIs_unique hwild hproduction.2) (by decide)
      refine .inl ⟨textIs_unique hfound.1 hservice, ?_, before, record, after, heq, ?_,
        fun other hmem => ?_⟩
      · rcases hfound.2 with hother | hwild
        · exact textIs_unique hother hexact
        · exact htrimmed record hexact hwild
      · simp [isExact, hservice, hexact]
      · have hother := hbefore other hmem
        simp only [isTaken, Bool.not_or, Bool.and_eq_true, Bool.not_eq_true'] at hother
        exact hother.2
  · intro h
    suffices hrecord : (dicts payload).find? (isTaken trigger.service trigger.environment) =
        ownedRecord payload signal defaultEnvironment ∧
          ((∃ record, ownedRecord payload signal defaultEnvironment = some record ∧
            isExact trigger.service trigger.environment record = true) ∨
          (ownedRecord payload signal defaultEnvironment = none ∧ ∀ record ∈ dicts payload,
            isExact trigger.service trigger.environment record = false)) by
      obtain ⟨hsame, hcases⟩ := hrecord
      rw [hsame] at htopology
      refine ⟨buildOwnershipBoundary_eq hfile haccepted, htopology, ?_, fun record hsome => ?_,
        ?_⟩
      · simp only [ownershipBoundary, htopology, ok_bind]
        rfl
      · rcases hcases with ⟨record', hsome', hexact⟩ | ⟨hnone, -⟩
        · rw [hsome] at hsome'
          cases hsome'
          simp only [isExact, Bool.and_eq_true] at hexact
          exact .inl hexact.2
        · rw [hsome] at hnone
          cases hnone
      · rintro ⟨record, hmem, hexact⟩
        rcases hcases with hsome | ⟨-, hall⟩
        · exact hsome
        · rw [hall record hmem] at hexact
          cases hexact
    rcases h with ⟨hservice, henvironment, before, record, after, heq, hexact, hbefore⟩ |
      ⟨howned', htaken⟩
    · have htaken : isTaken trigger.service trigger.environment record = true := by
        simp [isTaken, hexact]
      obtain ⟨first, hfirst, hplace⟩ := exists_find?_of_split htaken before after
      rw [← heq] at hfirst
      have hfirst' : isExact trigger.service trigger.environment first = true := by
        rcases hplace with rfl | hmem
        · exact hexact
        · have hfound := List.find?_some hfirst
          simp only [isTaken, Bool.or_eq_true] at hfound
          exact hfound.resolve_right (by simp [hbefore first hmem])
      have hfound : ownedRecord payload signal defaultEnvironment = some first := by
        rw [howned, hservice, henvironment, find?_isExact_of_isTaken hfirst hfirst']
        rfl
      exact ⟨hfirst.trans hfound.symm, .inl ⟨first, hfound, hfirst'⟩⟩
    · have hnone : ownedRecord payload signal defaultEnvironment = none := by
        rw [howned, Option.or_eq_none_iff, List.find?_eq_none, List.find?_eq_none]
        exact ⟨fun record hmem => by simp [(howned' record hmem).1],
          fun record hmem => by simp [(howned' record hmem).2]⟩
      refine ⟨?_, .inr ⟨hnone, fun record hmem => ?_⟩⟩
      · rw [hnone, List.find?_eq_none]
        exact fun record hmem => by simp [htaken record hmem]
      · have hnot := htaken record hmem
        simp only [isTaken, Bool.or_eq_false_iff] at hnot
        exact hnot.1

end

def recordFor (recordId service environment : String) : Dict :=
  [("record_id", .str recordId),
    ("service", .str service),
    ("environment", .str environment),
    ("namespace", .str "shop"),
    ("tenant_id", .str recordId),
    ("customer_id", .str "acme"),
    ("customer_boundary", .str "single"),
    ("owner", .obj [("owner_id", .str recordId)]),
    ("approver_roles", .arr [.str "sre"]),
    ("rollback_authority", .obj []),
    ("escalation_route", .str "pager"),
    ("allowed_action_classes", .arr [.str "restart"]),
    ("policy_refs", .arr [.str "policy"]),
    ("data_boundary", .obj [
      ("classification", .str "internal"),
      ("export_allowed", .bool false),
      ("retention_days", .int 30),
      ("reservoir_refs", .arr []),
      ("export_policy", .obj [
        ("allowed", .bool false),
        ("allowed_destinations", .arr []),
        ("redaction_required", .bool true)]),
      ("legal_action_scope", .obj [
        ("allowed", .bool true),
        ("review_required", .bool false),
        ("authority_ref", .str "contract")])])]

def registryOf (first second : Dict) : Json :=
  .obj [("version", .str "ownership.registry.v1"), ("records", .arr [.obj first, .obj second])]

def fileOf (payload : Json) : RegistryFile where
  sourceRef := some "file:///config/ownership.registry.json"
  payload := some payload

def checkoutSignal (environment : String) : Dict :=
  [("service", .str "checkout"), ("environment", .str environment)]

def checkoutTrigger (environment : String) : Trigger where
  triggerId := "trg-1"
  triggerType := "kubernetes_deployment_issue"
  triggeredAt := "2024-01-01T00:00:00Z"
  environment
  service := "checkout"
  endpoint := "checkout"
  flagKey := none
  currentRolloutPct := none
  comparisonWindow := none
  segment := []
  metrics := []
  relatedContext := []

/-- The staging record stands before that of production. -/
theorem one_owner_iff_staging_first :
    OneOwner (fileOf (registryOf (recordFor "s" "checkout" "staging")
        (recordFor "p" "checkout" "production")))
      (registryOf (recordFor "s" "checkout" "staging") (recordFor "p" "checkout" "production"))
      (checkoutSignal "staging") "local" (checkoutTrigger "staging") ↔
    Plain (registryOf (recordFor "s" "checkout" "staging") (recordFor "p" "checkout" "production"))
      (checkoutSignal "staging") "local" (checkoutTrigger "staging") :=
  one_owner_iff rfl (by rfl) ⟨rfl, rfl, by decide, by decide⟩

/-- An incident of staging takes the record of production where that stands first. -/
theorem production_record_for_staging :
    ¬ ∀ (file : RegistryFile) (payload : Json) (signal : Dict) (defaultEnvironment : String)
        (trigger : Trigger), file.payload = some payload →
      validatePayload ownershipRegistrySchema payload = .ok () → LeadsTo signal trigger →
        OneOwner file payload signal defaultEnvironment trigger := by
  intro hall
  have hsame := (hall (fileOf (registryOf (recordFor "p" "checkout" "production")
      (recordFor "s" "checkout" "staging")))
    (registryOf (recordFor "p" "checkout" "production") (recordFor "s" "checkout" "staging"))
    (checkoutSignal "staging") "local" (checkoutTrigger "staging") rfl (by rfl)
    ⟨rfl, rfl, by decide, by decide⟩).same
  have htopology : topologyRecord "checkout" "staging" (recordsOf (registryOf
      (recordFor "p" "checkout" "production") (recordFor "s" "checkout" "staging"))) =
        .ok (some (recordFor "p" "checkout" "production")) := by rfl
  have howned : ownedRecord (registryOf (recordFor "p" "checkout" "production")
      (recordFor "s" "checkout" "staging")) (checkoutSignal "staging") "local" =
        some (recordFor "s" "checkout" "staging") := by rfl
  have hequal : some (recordFor "p" "checkout" "production") =
      some (recordFor "s" "checkout" "staging") :=
    Except.ok.inj (htopology.symm.trans (hsame.trans (congrArg Except.ok howned)))
  exact absurd hequal (by decide)

end OrbitalMesh.Ownership
