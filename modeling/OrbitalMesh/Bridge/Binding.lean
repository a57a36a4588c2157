import OrbitalMesh.Bridge.Admission

/-!
# What an admission binds

A version 1 request carries the digest of the whole decision, and the check compares
it with the decision at hand.  A version 2 request spells out its own candidate, and
the check compares the candidate with the digest in the same request.  What is left
of the decision is then its run id and its action id, so that every other parameter
can be changed under a version 2 context.
-/

namespace OrbitalMesh

namespace ContractDecision

def hsaiContext (d : ContractDecision) : Dict := membersAt d.parameters hsaiExecutionContextKey

def hsaiRequest (d : ContractDecision) : Dict := membersAt d.hsaiContext "request"

def hsaiAdmission (d : ContractDecision) : Dict := membersAt d.hsaiContext "decision"

def withParameters (d : ContractDecision) (parameters : Dict) : ContractDecision :=
  { d with executionPlan := d.executionPlan.set "parameters" (.obj parameters) }

@[simp] theorem parameters_withParameters (d : ContractDecision) (p : Dict) :
    (d.withParameters p).parameters = p := by
  simp [withParameters, parameters, membersAt, Dict.get?_set_self]

end ContractDecision

def KeepsContext (d : ContractDecision) (p : Dict) : Prop :=
  p.get? hsaiExecutionContextKey = d.parameters.get? hsaiExecutionContextKey

def ChangesAction (d : ContractDecision) (p : Dict) : Prop :=
  ∃ field, field ≠ hsaiExecutionContextKey ∧
    (p.get? field).map Json.canon ≠ (d.parameters.get? field).map Json.canon

def AdmissionBinds (sha : Sha256) (d : ContractDecision) : Prop :=
  ∀ p, KeepsContext d p → ChangesAction d p →
    ∃ e, validateHsaiExecutionContext sha (d.withParameters p) = .error e

def PayloadDigestFree (sha : Sha256) (d : ContractDecision) : Prop :=
  ∀ payload other, decisionPayloadWithoutHsaiContext d = .ok payload →
    canonicalDigest sha other = canonicalDigest sha (.obj payload) →
    other.canon = Json.canon (.obj payload)

variable {value payloadDigest : Json} {admission payload gate : Dict} {field : String} {α : Type}

theorem requireKey_eq_ok {d : Dict} {key : String} (h : requireKey d key = .ok value) :
    d.get? key = some value := by
  unfold requireKey at h
  split at h
  · next found hfound =>
    cases h
    exact hfound
  · cases h

variable {request context : Dict} {sha : Sha256} {d d' : ContractDecision}

theorem version_of_validateHsaiRequestPayload (h : validateHsaiRequestPayload request = .ok ()) :
    request.get? "schema_version" = some (.str hsaiAdmissionRequestVersion) ∨
      request.get? "schema_version" = some (.str hsaiAdmissionRequestV2Version) := by
  unfold validateHsaiRequestPayload at h
  split at h
  · next hv1 => exact .inl (Json.pyEqOpt_str_iff.mp hv1)
  · split at h
    · next hv2 => exact .inr (Json.pyEqOpt_str_iff.mp hv2)
    · cases h

/-- **Reading an accepted context**: it is there, its request has one of the two versions, and
the decision has passed the comparison. -/
theorem accepted_context (h : validateHsaiExecutionContext sha d = .ok context) :
    d.parameters.get? hsaiExecutionContextKey = some (.obj d.hsaiContext) ∧
      (d.hsaiRequest.get? "schema_version" = some (.str hsaiAdmissionRequestVersion) ∨
        d.hsaiRequest.get? "schema_version" = some (.str hsaiAdmissionRequestV2Version)) ∧
      ∃ payloadDigest, d.hsaiRequest.get? "candidate_payload_digest" = some payloadDigest ∧
        checkBoundDecision sha d.hsaiRequest d.hsaiAdmission payloadDigest d = .ok () := by
  obtain ⟨_, hversion, h⟩ := bind_ok h
  obtain ⟨_, hdecision, h⟩ := bind_ok h
  obtain ⟨runId, -, h⟩ := bind_ok h
  obtain ⟨_, -, h⟩ := bind_ok h
  obtain ⟨actionId, -, h⟩ := bind_ok h
  obtain ⟨_, -, h⟩ := bind_ok h
  obtain ⟨_, -, h⟩ := bind_ok h
  obtain ⟨decisionDigest, -, h⟩ := bind_ok h
  obtain ⟨_, -, h⟩ := bind_ok h
  obtain ⟨payloadDigest, hpayload, h⟩ := bind_ok h
  obtain ⟨_, -, h⟩ := bind_ok h
  obtain ⟨_, hbound, _⟩ := bind_ok h
  obtain ⟨_, hrequest, _⟩ := bind_ok hdecision
  refine ⟨?_, version_of_validateHsaiRequestPayload hrequest, payloadDigest,
    requireKey_eq_ok hpayload, hbound⟩
  -- an absent context is empty, and has no version
  unfold ContractDecision.hsaiContext
  unfold membersAt at hversion ⊢
  split at hversion
  · next members hmembers => rw [hmembers]
  · cases hversion

theorem digest_of_bound (hv1 : isV2Request request = false)
    (h : checkBoundDecision sha request admission payloadDigest d = .ok ()) :
    ∃ payload, decisionPayloadWithoutHsaiContext d = .ok payload ∧
      payloadDigest = .str (canonicalDigest sha (.obj payload)) := by
  unfold checkBoundDecision at h
  rw [hv1] at h
  obtain ⟨payload, hpayload, h⟩ := bind_ok h
  rw [rejectIf_ok, Bool.not_eq_false', Json.pyEq_str_iff] at h
  exact ⟨payload, hpayload, h⟩

theorem payload_of_context (hcontext : (d.parameters.get? hsaiExecutionContextKey).isSome = true)
    (h : decisionPayloadWithoutHsaiContext d = .ok payload) :
    payload = d.asDict.set "execution_plan" (.obj (d.executionPlan.set "parameters"
      (.obj (d.parameters.pop hsaiExecutionContextKey)))) := by
  obtain ⟨found, hfound, h⟩ := bind_ok h
  obtain ⟨_, -, hdict⟩ := bind_ok hfound
  cases hdict
  rw [hcontext] at h
  cases h
  rfl

theorem payload_field (h : decisionPayloadWithoutHsaiContext d = .ok payload)
    (hfield : field ≠ hsaiExecutionContextKey) :
    (membersAt (membersAt payload "execution_plan") "parameters").get? field =
      d.parameters.get? field := by
  by_cases hcontext : (d.parameters.get? hsaiExecutionContextKey).isSome = true
  · rw [payload_of_context hcontext h]
    simp only [membersAt, Dict.get?_set_self]
    exact Dict.get?_pop_of_ne _ hfield
  · obtain ⟨found, hfound, h⟩ := bind_ok h
    obtain ⟨_, -, hdict⟩ := bind_ok hfound
    cases hdict
    rw [if_neg hcontext] at h
    cases h
    rfl

/-- Dictionaries with the same canonical form have the same nested
dictionaries. -/
theorem membersAt_canon {d d' : Dict} (h : Json.canon (.obj d) = Json.canon (.obj d'))
    (key : String) :
    Json.canon (.obj (membersAt d key)) = Json.canon (.obj (membersAt d' key)) := by
  have hvalue := Json.get?_eq_of_canon_eq h key
  unfold membersAt
  cases hd : d.get? key with
  | none =>
    rw [hd, Option.map_none, eq_comm, Option.map_eq_none_iff] at hvalue
    rw [hvalue]
  | some value =>
    rw [hd, Option.map_some, eq_comm, Option.map_eq_some_iff] at hvalue
    obtain ⟨value', hd', hcanon⟩ := hvalue
    cases value <;> cases value' <;> simp_all [Json.canon]

theorem parameters_agree {a : ContractDecision} {payload' : Dict}
    (hd : decisionPayloadWithoutHsaiContext d = .ok payload)
    (ha : decisionPayloadWithoutHsaiContext a = .ok payload')
    (hcanon : Json.canon (.obj payload) = Json.canon (.obj payload'))
    (hfield : field ≠ hsaiExecutionContextKey) :
    (d.parameters.get? field).map Json.canon = (a.parameters.get? field).map Json.canon := by
  have hparameters := membersAt_canon (membersAt_canon hcanon "execution_plan") "parameters"
  have hsame := Json.get?_eq_of_canon_eq hparameters field
  rw [payload_field hd hfield, payload_field ha hfield] at hsame
  exact hsame

theorem v1_binds (haccepted : validateHsaiExecutionContext sha d = .ok context)
    (hfree : PayloadDigestFree sha d) (hv1 : isV2Request d.hsaiRequest = false) :
    AdmissionBinds sha d := by
  intro p hkeeps hchanges
  cases hchanged : validateHsaiExecutionContext sha (d.withParameters p) with
  | error e => exact ⟨e, rfl⟩
  | ok context' =>
    exfalso
    obtain ⟨-, -, digest, hdigest, hbound⟩ := accepted_context haccepted
    obtain ⟨-, -, digest', hdigest', hbound'⟩ := accepted_context hchanged
    -- both decisions carry the same request
    have hsame : (d.withParameters p).hsaiContext = d.hsaiContext := by
      unfold ContractDecision.hsaiContext membersAt
      rw [ContractDecision.parameters_withParameters, hkeeps]
    have hrequest : (d.withParameters p).hsaiRequest = d.hsaiRequest := by
      unfold ContractDecision.hsaiRequest
      rw [hsame]
    rw [hrequest] at hdigest' hbound'
    obtain ⟨payload, hpayload, rfl⟩ := digest_of_bound hv1 hbound
    obtain ⟨payload', hpayload', rfl⟩ := digest_of_bound hv1 hbound'
    have hdigests : canonicalDigest sha (.obj payload') = canonicalDigest sha (.obj payload) := by
      rw [hdigest] at hdigest'
      simpa using hdigest'.symm
    have hcanon := hfree payload (.obj payload') hpayload hdigests
    obtain ⟨field, hfield, hne⟩ := hchanges
    have hsameField := parameters_agree hpayload' hpayload hcanon hfield
    rw [ContractDecision.parameters_withParameters] at hsameField
    exact hne hsameField

theorem checkExpectedDecision_congr (hv2 : isV2Request request = true)
    (hrun : expectedMeshRunId d' = expectedMeshRunId d)
    (haction : expectedMeshActionId d' = expectedMeshActionId d) :
    checkExpectedDecision sha request d' = checkExpectedDecision sha request d := by
  unfold checkExpectedDecision
  simp only [hv2, if_true, hrun, haction]

variable {x : Except PyError α}

theorem bind_congr_of_ok {β : Type} {f g : α → Except PyError β} (h : ∀ a, x = .ok a → f a = g a) :
    x >>= f = x >>= g := by
  cases x with
  | error e => rfl
  | ok a => exact h a rfl

theorem validateBridgeGate_congr
    (h : checkExpectedDecision sha (membersAt gate "request") d' =
      checkExpectedDecision sha (membersAt gate "request") d) :
    validateBridgeGate sha gate (some d') none false =
      validateBridgeGate sha gate (some d) none false := by
  simp only [validateBridgeGate, h]

theorem request_of_gateFromVerifiedContracts
    (h : gateFromVerifiedContracts sha request admission = .ok gate) :
    membersAt gate "request" = request := by
  obtain ⟨_, -, h⟩ := bind_ok h
  obtain ⟨_, -, h⟩ := bind_ok h
  obtain ⟨_, -, h⟩ := bind_ok h
  cases h
  rfl

theorem checkBoundDecision_congr (hv2 : isV2Request request = true)
    (hrun : expectedMeshRunId d' = expectedMeshRunId d)
    (haction : expectedMeshActionId d' = expectedMeshActionId d) :
    checkBoundDecision sha request admission payloadDigest d' =
      checkBoundDecision sha request admission payloadDigest d := by
  unfold checkBoundDecision
  rw [if_pos hv2, if_pos hv2]
  refine bind_congr_of_ok fun gate hgate => ?_
  have hgateV2 : isV2Request (membersAt gate "request") = true := by
    rw [request_of_gateFromVerifiedContracts hgate, hv2]
  exact validateBridgeGate_congr (checkExpectedDecision_congr hgateV2 hrun haction)

/-- **What a version 2 context sees.** Decisions with the same context, run id and action id are
accepted or refused alike. -/
theorem v2_sees_ids_only (hcontext : d'.hsaiContext = d.hsaiContext)
    (hv2 : isV2Request d.hsaiRequest = true) (hrun : expectedMeshRunId d' = expectedMeshRunId d)
    (haction : expectedMeshActionId d' = expectedMeshActionId d) :
    validateHsaiExecutionContext sha d' = validateHsaiExecutionContext sha d := by
  have hrequest : membersAt d.hsaiContext "request" = d.hsaiRequest := rfl
  unfold ContractDecision.hsaiContext at hcontext hrequest
  unfold validateHsaiExecutionContext
  simp only [hcontext, hrun, haction, hrequest, checkBoundDecision_congr hv2 hrun haction]

def otherRepoPath (p : Dict) : Json :=
  if p.get? "repo_path" = some (.str "/srv/other") then .str "/srv/another"
  else .str "/srv/other"

/-- Under a version 2 context the patch can be pointed at another repository. -/
theorem v2_does_not_bind (haccepted : validateHsaiExecutionContext sha d = .ok context)
    (hv2 : isV2Request d.hsaiRequest = true) : ¬ AdmissionBinds sha d := by
  intro hbinds
  let p := d.parameters.set "repo_path" (otherRepoPath d.parameters)
  have hother : ∀ key, key ≠ "repo_path" → p.get? key = d.parameters.get? key :=
    fun key hkey => Dict.get?_set_of_ne _ _ hkey
  have hkeeps : KeepsContext d p := hother _ (by decide)
  have hchanges : ChangesAction d p := by
    refine ⟨"repo_path", by decide, ?_⟩
    rw [Dict.get?_set_self]
    unfold otherRepoPath
    split
    · next heq =>
      rw [heq]
      simp [Json.canon]
    · next hne =>
      intro hcanon
      cases hfound : d.parameters.get? "repo_path" with
      | none => simp [hfound] at hcanon
      | some value =>
        cases value <;> simp_all [Json.canon]
  obtain ⟨e, he⟩ := hbinds p hkeeps hchanges
  have hsame : validateHsaiExecutionContext sha (d.withParameters p) =
      validateHsaiExecutionContext sha d := by
    refine v2_sees_ids_only ?_ hv2 ?_ ?_
    · unfold ContractDecision.hsaiContext membersAt
      rw [ContractDecision.parameters_withParameters, hkeeps]
    · unfold expectedMeshRunId
      rw [ContractDecision.parameters_withParameters, hother _ (by decide),
        hother _ (by decide)]
      rfl
    · unfold expectedMeshActionId
      rw [ContractDecision.parameters_withParameters, hother _ (by decide)]
      rfl
  rw [hsame, haccepted] at he
  cases he

/-- **Which admissions bind the action**: those of version 1 refuse every change outside the
context. -/
theorem admission_binds_iff (sha : Sha256) (d : ContractDecision) (context : Dict)
    (haccepted : validateHsaiExecutionContext sha d = .ok context)
    (hfree : PayloadDigestFree sha d) :
    AdmissionBinds sha d ↔
      d.hsaiRequest.get? "schema_version" = some (.str hsaiAdmissionRequestVersion) := by
  obtain ⟨-, hversion, -⟩ := accepted_context haccepted
  constructor
  · intro hbinds
    rcases hversion with hv1 | hv2
    · exact hv1
    · have hisV2 : isV2Request d.hsaiRequest = true := Json.pyEqOpt_str_iff.mpr hv2
      exact absurd hbinds (v2_does_not_bind haccepted hisV2)
  · intro hv1
    have hnotV2 : isV2Request d.hsaiRequest = false := by
      unfold isV2Request
      rw [hv1]
      decide
    exact v1_binds haccepted hfree hnotV2

def sealingHash (value : Json) : Sha256 where
  ofBytes := checksumHash.ofBytes
  ofJson other :=
    if other = value then hex64 0
    else String.ofList ('f' :: (hex64 (other.checksum 0)).toList.drop 1)

theorem sealingHash_free {other : Json}
    (h : canonicalDigest (sealingHash value.canon) other =
      canonicalDigest (sealingHash value.canon) value) : other.canon = value.canon := by
  have hhash := ofJson_eq_of_canonicalDigest_eq h
  by_contra hne
  simp only [sealingHash, if_neg hne, if_true] at hhash
  have hhead := congrArg (fun text => text.toList.head?) hhash
  simp only [String.toList_ofList, List.head?_cons] at hhead
  exact absurd hhead (by decide)

def unadmittedPatch : ContractDecision where
  decisionId := "dec"
  triggerId := "trig"
  summary := "Patch the search service"
  decisionType := "investigate_and_patch"
  autonomyTier := "autonomous"
  reasoning :=
    [("primary_hypothesis", .str "timeout"),
     ("evidence", .arr [.str "fixture"]),
     ("alternatives_considered", .arr [.str "incident"])]
  expectedOutcome :=
    [("target_metrics", .obj [("p95_latency_ms", .str "same"), ("error_rate", .str "same")]),
     ("time_to_effect", .str "local")]
  risk :=
    [("level", .str "low"), ("blast_radius", .str "one file"),
     ("customer_impact_if_wrong", .str "none")]
  confidence := .float false 8 (-1)
  executionPlan :=
    [("system", .str "repo_patch_service"),
     ("action", .str "investigate_and_patch"),
     ("parameters", .obj
        [("repo_path", .str "/srv/search"),
         ("allowed_paths", .arr [.str "search.py"]),
         ("patch_template", .obj
            [("target_file", .str "search.py"), ("find", .str "old"), ("replace", .str "new")]),
         ("test_commands", .arr [.str "python3 -m unittest"]),
         ("mesh_policy_id", .str "policy")]),
     ("rollback_plan", .str "restore")]

def patchHash : Sha256 := sealingHash (Json.canon (.obj unadmittedPatch.asDict))

def patchRequest (version payloadDigest proposalDigest evidenceDigest : String) : Dict :=
  [("schema_version", .str version),
   ("mesh_run_id", .str "run_trig"),
   ("mesh_action_id", .str "dec"),
   ("action_kind", .str "repo_patch"),
   ("actor_ref",
      .obj [("actor_id", .str "mesh.orchestrator"), ("team_id", .str "mesh.default")]),
   ("mesh_policy_id", .str "policy"),
   ("action_proposal_digest", .str proposalDigest),
   ("candidate_payload_digest", .str payloadDigest),
   ("evidence_packet_digest", .str evidenceDigest),
   ("attestation_refs", attestationRefs "preflight" evidenceDigest),
   ("requested_claims", .arr [.str "tests_passed"]),
   ("explicit_nonclaims", .arr [.str "formal_proof"]),
   ("created_at", .str "2026-07-12T16:00:00Z")]

def patchAnswer (request : Dict) (requestDigest decisionDigest : String) : Dict :=
  [("schema_version", .str "mesh.hsai_admission_decision.v1"),
   ("decision_id", .str "hsai_decision_dec"),
   ("mesh_run_id", valueAt request "mesh_run_id"),
   ("mesh_action_id", valueAt request "mesh_action_id"),
   ("action_kind", valueAt request "action_kind"),
   ("request_digest", .str requestDigest),
   ("candidate_digest", valueAt request "candidate_payload_digest"),
   ("decision", .str "allow"),
   ("admission_policy_id", valueAt request "mesh_policy_id"),
   ("gate_results", .arr []),
   ("accepted_claims", valueAt request "requested_claims"),
   ("enforced_nonclaims", valueAt request "explicit_nonclaims"),
   ("formal_evidence_metadata", .obj []),
   ("reason_codes", .arr []),
   ("decision_digest", .str decisionDigest),
   ("created_at", .str "2026-07-12T16:00:01Z")]

def admittedPatch (request answer : Dict) : ContractDecision :=
  unadmittedPatch.withParameters (unadmittedPatch.parameters.set hsaiExecutionContextKey (.obj
    [("schema_version", .str hsaiExecutionContextVersion),
     ("request", .obj request),
     ("decision", .obj answer),
     ("request_digest", valueAt answer "request_digest"),
     ("decision_digest", valueAt answer "decision_digest"),
     ("candidate_digest", valueAt answer "candidate_digest")]))

theorem admittedPatch_free (request answer : Dict) :
    PayloadDigestFree patchHash (admittedPatch request answer) := by
  intro payload other hpayload hdigest
  rw [payload_of_context rfl hpayload] at hdigest ⊢
  exact sealingHash_free hdigest

def patchCandidate : Dict :=
  [("decision_id", .str "dec"),
   ("trigger_id", .str "trig"),
   ("decision_type", .str "investigate_and_patch"),
   ("autonomy_tier", .str "autonomous"),
   ("summary", .str "Patch the search service"),
   ("reasoning", .obj unadmittedPatch.reasoning),
   ("expected_outcome", .obj unadmittedPatch.expectedOutcome),
   ("risk", .obj unadmittedPatch.risk),
   ("confidence", .float false 8 (-1)),
   ("execution_plan", .obj
      [("system", .str "repo_patch_service"),
       ("action", .str "investigate_and_patch"),
       ("parameters", .obj
          [("repo_path", .str "/srv/search"),
           ("allowed_paths", .arr [.str "search.py"]),
           ("protected_paths", .arr [.str ".git", .str ".github", .str "AGENTS.md"]),
           ("patch_template", .obj
              [("target_file", .str "search.py"), ("find", .str "old"),
               ("replace", .str "new")]),
           ("test_commands",
              .arr [.arr [.str "/usr/bin/python3", .str "-m", .str "unittest"]]),
           ("mesh_run_id", .str "run_trig"),
           ("mesh_action_id", .str "dec"),
           ("mesh_policy_id", .str "policy"),
           ("actor_ref",
              .obj [("actor_id", .str "mesh.orchestrator"), ("team_id", .str "mesh.default")])]),
       ("rollback_plan", .str "restore")])]

def patchReceipt : Json :=
  .obj [("test_results", .arr [.obj
    [("argv", .arr [.str "/usr/bin/python3", .str "-m", .str "unittest"])]])]

def patchEvidence : Dict :=
  [("schema_version", .str "mesh.repo_patch_pre_execution_evidence.v1"),
   ("decision_id", .str "dec"),
   ("evaluation_id", .str "eval"),
   ("evaluation_passed", .bool true),
   ("final_recommendation", .str "execute"),
   ("blocking_reasons", .arr []),
   ("stage_results", .obj []),
   ("stage_results_digest", .str
      "sha256:f0000000000000000000000000000000000000000000000000000000006acfde"),
   ("preflight_receipt", patchReceipt)]

example : normalizedRepoPatchCandidate unadmittedPatch
    ⟨"eval", "dec", true, "execute", .obj [], [], none⟩ patchReceipt = .ok patchCandidate := by
  decide +kernel

def v1Request : Dict :=
  patchRequest hsaiAdmissionRequestVersion genesisDigest genesisDigest genesisDigest

def v1Patch : ContractDecision :=
  admittedPatch v1Request (patchAnswer v1Request
    "sha256:ff1effbaefb1dac14498faa73dc62b4d9d63326f7442fb81337df78f74a66077"
    "sha256:f4b6875d52c276b59d2ab78760f76cef8b558f9986bc90cba85464b53b8e6905")

def v2Request : Dict :=
  patchRequest hsaiAdmissionRequestV2Version
      "sha256:fbb43af5c195bc8441523b20af587db76495b757d8259b4cd56f1feaf6b1911b"
      "sha256:f9d19f41596a594a557eefa5f483846f8d7339e89220a0e22f349324febd98ec"
      "sha256:f760152d12e81c9470514e6eef089e0d89162e90b12c5d511978aefd0258b919" ++
    [("candidate_payload", .obj patchCandidate), ("pre_execution_evidence", .obj patchEvidence)]

def v2Patch : ContractDecision :=
  admittedPatch v2Request (patchAnswer v2Request
    "sha256:f6efc5f541b94e186deb33295469c1dc4c6c698c361ef123dd5d85e0d78959e8"
    "sha256:f6698c5d1fd2f794984e775cdf09a293ef3aef30f4987d454ddae257988566a3")

private theorem isOk_of_toOption (h : x.toOption.isSome = true) : ∃ a, x = .ok a := by
  cases x with
  | error e => cases h
  | ok a => exact ⟨a, rfl⟩

private theorem v1Patch_accepted :
    ∃ context, validateHsaiExecutionContext patchHash v1Patch = .ok context :=
  isOk_of_toOption (by decide +kernel)

private theorem v2Patch_accepted :
    ∃ context, validateHsaiExecutionContext patchHash v2Patch = .ok context :=
  isOk_of_toOption (by decide +kernel)

/-- The patch admitted through a version 1 request is bound to its parameters. -/
theorem v1Patch_bound : AdmissionBinds patchHash v1Patch := by
  obtain ⟨context, haccepted⟩ := v1Patch_accepted
  exact (admission_binds_iff patchHash v1Patch context haccepted
    (admittedPatch_free _ _)).mpr rfl

/-- The parameters of the patch admitted through the version 2 request, with
another text put in place of the old one. -/
def swappedParameters : Dict :=
  v2Patch.parameters.set "patch_template" (.obj
    [("target_file", .str "search.py"), ("find", .str "old"), ("replace", .str "backdoor")])

/-- A version 2 context still admits the decision after the replacement text of
its patch has been swapped. -/
theorem swapped_patch_admitted :
    ¬ ∀ (sha : Sha256) (d : ContractDecision) (context : Dict),
      validateHsaiExecutionContext sha d = .ok context → PayloadDigestFree sha d →
      AdmissionBinds sha d := by
  intro h
  obtain ⟨context, haccepted⟩ := v2Patch_accepted
  have hbinds := h patchHash v2Patch context haccepted (admittedPatch_free _ _)
  have hchanges : ChangesAction v2Patch swappedParameters :=
    ⟨"patch_template", by decide, by decide +kernel⟩
  obtain ⟨e, he⟩ := hbinds swappedParameters rfl hchanges
  have hsame : validateHsaiExecutionContext patchHash (v2Patch.withParameters swappedParameters) =
      validateHsaiExecutionContext patchHash v2Patch :=
    v2_sees_ids_only rfl (by decide +kernel) (by decide +kernel) (by decide +kernel)
  rw [hsame, haccepted] at he
  cases he

end OrbitalMesh
