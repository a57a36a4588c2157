import OrbitalMesh.Permit.LedgerInvariant
import OrbitalMesh.Permit.Store

/-!
# Runs of the permit store

Any number of method calls, interleaved section by section, each of which may
be cut short.  The ledger stays in order along every run whose sections are
orderly; the methods themselves do not insist on that.
-/

namespace OrbitalMesh

open Atomic

abbrev WorldEvent := Event Section Section.Answer

/-- Run a method and forget what it returns. -/
def ignored {α : Type} (method : Py α) : Program Unit :=
  Prog.bind (method : Program (Except PyError α)) fun _ => .ret ()

/-- The methods of `RepoPatchPermitStore`, with any arguments. -/
inductive PermitMethod (host : Host) : Program Unit → Prop
  | issue (decision : Decision) (evaluation : EvaluationResult) (gate : Dict)
      (idempotencyKey : String) (ttlSeconds : Int) (permitId authorityNonce : Option String) :
      PermitMethod host (ignored (issuePermit host decision evaluation gate idempotencyKey
        ttlSeconds permitId authorityNonce))
  | consume (permit : Permit) (decision : Decision) (idempotencyKey : String)
      (actuationParameters : Dict) :
      PermitMethod host
        (ignored (consumePermit host permit decision idempotencyKey actuationParameters))
  | recordTransition (permitId : String) (expectedState newState : PermitState)
      (details terminalResult : Option Dict) :
      PermitMethod host
        (ignored (transitionPermit permitId expectedState newState details terminalResult))
  | abortWithRestoration (permit : Permit) (expectedState : PermitState) (reason : String)
      (testResults : List Json) :
      PermitMethod host
        (ignored (abortWithRestoration host permit expectedState reason testResults))
  | recoverIncompleteActions : PermitMethod host (ignored (recoverIncompleteActions host))

def WorldEvent.issued? : WorldEvent → Option Permit
  | ⟨.ledger call, .ok value⟩ => issuedPermit? call value
  | _ => none

def issuedPermits (trace : List WorldEvent) : List Permit := trace.filterMap WorldEvent.issued?

variable {host : Host} {op : Section} {w w' : World} {trace : List WorldEvent} {answer : op.Answer}

theorem worldStep_ledger (h : worldStep host op w answer w') :
    (w'.ledger = w.ledger ∧ WorldEvent.issued? ⟨op, answer⟩ = none) ∨
      ∃ call, op = .ledger call ∧
        LedgerStep w.ledger call (WorldEvent.issued? ⟨op, answer⟩) w'.ledger := by
  cases op with
  | now | token | authorityClock => exact .inl ⟨by rw [h], rfl⟩
  | authority call =>
    refine .inl ⟨?_, rfl⟩
    simp only [worldStep] at h
    split at h <;> rw [h.2]
  | ledger call =>
    simp only [worldStep] at h
    split at h
    · next value ledger hcall =>
      obtain ⟨rfl, rfl⟩ := h
      exact .inr ⟨call, rfl, ledgerCall_step hcall⟩
    · obtain ⟨rfl, rfl⟩ := h
      exact .inl ⟨rfl, rfl⟩
  | file call | consult question | promote idempotencyKey permitId prepared =>
    obtain ⟨_, -, rfl⟩ := h
    exact .inl ⟨rfl, rfl⟩

theorem LedgerInvariant.world_step (h : LedgerInvariant (issuedPermits trace) w.ledger)
    (hstep : guardedStep host Orderly op w answer w') :
    LedgerInvariant (issuedPermits (trace ++ [⟨op, answer⟩])) w'.ledger := by
  have hissued : issuedPermits (trace ++ [⟨op, answer⟩]) =
      issuedPermits trace ++ (WorldEvent.issued? ⟨op, answer⟩).toList := by
    cases hevent : WorldEvent.issued? ⟨op, answer⟩ <;> simp [issuedPermits, hevent]
  obtain ⟨hworld, hguard⟩ := hstep
  rw [hissued]
  rcases worldStep_ledger hworld with ⟨hsame, hnone⟩ | ⟨call, rfl, hledger⟩
  · rw [hsame, hnone]
    simpa using h
  · exact (h.step_iff hledger).mpr (hguard call rfl)

theorem terminal_world_step {id : String} {record : PermitRecord}
    (hstep : guardedStep host Orderly op w answer w') (hterminal : record.state.isTerminal = true)
    (hfound : w.ledger.permits[id]? = some record) : w'.ledger.permits[id]? = some record := by
  obtain ⟨hworld, hguard⟩ := hstep
  rcases worldStep_ledger hworld with ⟨hsame, -⟩ | ⟨call, rfl, hledger⟩
  · rw [hsame]
    exact hfound
  · exact hledger.terminal_stays (hguard call rfl) hfound hterminal

/-- **The permit ledger** is in order along every orderly run, and a finished record is never
changed. -/
theorem permit_ledger_in_order (host : Host) {w : World} (hempty : w.ledger = .empty)
    {trace : List WorldEvent} {pool : Pool Section Section.Answer World Unit}
    (hrun : PoolRun (guardedStep host Orderly) (PermitMethod host) ⟨[], w⟩ trace pool) :
    LedgerInvariant (issuedPermits trace) pool.state.ledger ∧
      (∀ key key' id : String, pool.state.ledger.idempotency[key]? = some id →
        pool.state.ledger.idempotency[key']? = some id → key = key') ∧
      ∀ trace' pool', PoolRun (guardedStep host Orderly) (PermitMethod host) pool trace' pool' →
        ∀ (id : String) (record : PermitRecord), pool.state.ledger.permits[id]? = some record →
          record.state.isTerminal = true → pool'.state.ledger.permits[id]? = some record := by
  have hinv : LedgerInvariant (issuedPermits trace) pool.state.ledger := by
    refine hrun.history (fun trace s => LedgerInvariant (issuedPermits trace) s.ledger) ?_ ?_
    · show LedgerInvariant [] w.ledger
      rw [hempty]
      exact .empty
    · intro trace op s answer s' h hstep
      exact h.world_step hstep
  refine ⟨hinv, ?_, ?_⟩
  · intro key key' id hkey hkey'
    exact hinv.idempotency.injective hkey hkey'
  · intro trace' pool' hlater id record hfound hterminal
    refine hlater.invariant (fun s => s.ledger.permits[id]? = some record) hfound ?_
    intro op s answer s' hstill hstep
    exact terminal_world_step hstep hterminal hstill

def samplePermits : PermitAuthority where
  signingKey := "key"
  signingKeyId := "key-1"
  issuer := "mesh"
  executorAudience := "actuator"
  validateBridgeGate _ _ _ := .ok ()
  validatePayload _ := .ok ()
  validateSemantics _ := .ok ()
  buildProof _ :=
    .obj [("key_id", .str "key-1"), ("signing_profile", .str permitSigningProfile)]
  verifyProof _ _ := true

def sampleBridge : HsaiBridge where
  validateExecutionContext _ := .ok ()
  validateGate _ _ := .ok ()
  buildAdmissionRequestV2 decision _ _ createdAt := .ok
    [("mesh_action_id", .str decision.decisionId), ("created_at", .str createdAt)]

def sampleHost : Host where
  sha := checksumHash
  permits := samplePermits
  bridge := sampleBridge
  backupDirectory := "/s/b"
  resolve path := path
  allowedTestCommands := []

def sampleWorld : World :=
  ⟨.empty, .empty, (∅ : Table Node).insert "/r/a" (.file [98])⟩

variable (decisionId : String)

def sampleDecision : Decision where
  decisionId
  system := "repo_patch_service"
  action := "patch"
  parameters :=
    [("repo_path", .str "/r"),
     ("patch_template", .obj
        [("target_file", .str "a"), ("find", .str "b"), ("replace", .str "c")]),
     ("allowed_paths", .arr [.str "a"]),
     ("test_commands", .arr [])]

def sampleEvaluation : EvaluationResult where
  evaluationId := "e"
  decisionId
  passed := true
  finalRecommendation := "execute"
  stageResults := .obj []
  blockingReasons := []
  reviewRoute := none

def sampleGate : Dict :=
  [("allowed", .bool true),
   ("authority_eligible", .bool true),
   ("decision", .obj [("decision", .str "allow")]),
   ("request", .obj
      [("actor_ref", .obj [("team_id", .str "t")]),
       ("mesh_run_id", .str "m"),
       ("mesh_action_id", .str decisionId),
       ("action_kind", .str "repo_patch"),
       ("action_proposal_digest", .str genesisDigest),
       ("evidence_packet_digest", .str genesisDigest),
       ("mesh_policy_id", .str "p"),
       ("requested_claims", .arr []),
       ("explicit_nonclaims", .arr [])]),
   ("request_digest", .str genesisDigest),
   ("decision_digest", .str genesisDigest),
   ("candidate_digest", .str genesisDigest)]

/-- A quiet moment: the clock stands at `now`, and no collaborator answers. -/
def quiet (now : Instant) (token : Nat) : Script where
  now
  token := hex64 token
  reply _ := .error ⟨.exception, "unavailable"⟩

def issueFor : Py Permit :=
  issuePermit sampleHost (sampleDecision decisionId) (sampleEvaluation decisionId)
    (sampleGate decisionId) (decisionId ++ ":patch") 300 none none

def admittedDecision : Decision :=
  { sampleDecision decisionId with
    parameters := (sampleDecision decisionId).parameters.set hsaiExecutionContextKey
      (.obj (sampleGate decisionId)) }

def resultOf {α : Type} (script : Script) (program : Py α) (w : World) :
    Option (Except PyError α) :=
  match Prog.exec (scripted sampleHost (fun _ _ => True) script) 100
      (program : Program (Except PyError α)) w with
  | some (.ret result, _) => some result
  | _ => none

def calls (guard : Ledger → LedgerSection → Prop)
    [∀ ledger call, Decidable (guard ledger call)] (list : List (Script × Program Unit)) :
    List (((op : Section) → World → Option (op.Answer × World)) × Nat × Program Unit) :=
  list.map fun (script, program) => (scripted sampleHost guard script, 100, program)

def permitAfter (before : List (Script × Program Unit)) (decisionId : String) (token : Nat) :
    Permit :=
  match Prog.execAll (calls (fun _ _ => True) before) sampleWorld with
  | some w =>
    match resultOf (quiet 0 token) (issueFor decisionId) w with
    | some (.ok permit) => permit
    | _ => default
  | none => default

def samplePermit (token : Nat) : Permit :=
  permitAfter [] decisionId token

theorem calls_run {guard : Ledger → LedgerSection → Prop}
    [∀ ledger call, Decidable (guard ledger call)] {list : List (Script × Program Unit)}
    {startable : Program Unit → Prop} (hstart : ∀ entry ∈ list, startable entry.2)
    {P : World → Prop} [DecidablePred P] {w : World}
    (hexec : (Prog.execAll (calls guard list) w).any (fun w' => decide (P w')) = true) :
    ∃ trace w', PoolRun (guardedStep sampleHost guard) startable ⟨[], w⟩ trace ⟨[], w'⟩ ∧
      P w' := by
  obtain ⟨w', hw', hP⟩ := (Option.any_eq_true _ _).mp hexec
  have hprograms : ∀ entry ∈ calls guard list, startable entry.2.2 := by
    intro entry hentry
    obtain ⟨pair, hpair, rfl⟩ := List.mem_map.mp hentry
    exact hstart pair hpair
  have hanswers : ∀ entry ∈ calls guard list, ∀ op s r s', entry.1 op s = some (r, s') →
      guardedStep sampleHost guard op s r s' := by
    intro entry hentry
    obtain ⟨pair, hpair, rfl⟩ := List.mem_map.mp hentry
    exact scripted_step
  obtain ⟨trace, hrun⟩ := Prog.execAll_poolRun hprograms hanswers hw'
  exact ⟨trace, w', hrun, of_decide_eq_true hP⟩

theorem unguarded_run {startable : Program Unit → Prop}
    {init pool : Pool Section Section.Answer World Unit}
    (h : PoolRun (guardedStep sampleHost fun _ _ => True) startable init trace pool) :
    PoolRun (worldStep sampleHost) startable init trace pool := by
  induction h with
  | refl => exact .refl
  | tail _ last ih =>
    cases last with
    | start hp => exact ih.tail (.start hp)
    | turn hstep => exact ih.tail (.turn hstep.1)
    | crash => exact ih.tail .crash

/-- A permit is issued and prepared: the ledger is in order and lists it. -/
theorem permit_ledger_in_order_sample :
    ∃ trace w, PoolRun (guardedStep sampleHost Orderly) (PermitMethod sampleHost)
        ⟨[], sampleWorld⟩ trace ⟨[], w⟩ ∧
      (w.ledger.permits[(samplePermit "d1" 1).permitId]?.map (·.states)) =
        some [.issued, .prepared] ∧
      LedgerInvariant (issuedPermits trace) w.ledger := by
  obtain ⟨trace, w, hrun, hstates⟩ := @calls_run Orderly _
    [(quiet 0 1, ignored (issueFor "d1")),
     (quiet 0 1, ignored (transitionPermit (samplePermit "d1" 1).permitId .issued .prepared
        none none))]
    (PermitMethod sampleHost)
    (by
      simp only [List.mem_cons, List.not_mem_nil, or_false, forall_eq_or_imp, forall_eq]
      exact ⟨.issue _ _ _ _ _ _ _, .recordTransition _ _ _ _ _⟩)
    (fun w => (w.ledger.permits[(samplePermit "d1" 1).permitId]?.map (·.states)) =
        some [.issued, .prepared]) _ sampleWorld (by decide +kernel)
  exact ⟨trace, w, hrun, hstates, (permit_ledger_in_order sampleHost rfl hrun).1⟩

/-- **Aborting an issued permit** takes the record from `issued` to `recovery_required`;
`ALLOWED_TRANSITIONS` has no such pair. -/
theorem aborting_issued_permit_breaks_history :
    ∃ trace w record, PoolRun (worldStep sampleHost) (PermitMethod sampleHost)
        ⟨[], sampleWorld⟩ trace ⟨[], w⟩ ∧
      w.ledger.permits[(samplePermit "d1" 1).permitId]? = some record ∧
      record.states = [.issued, .recoveryRequired] ∧
      ¬ record.states.IsChain PermitState.Follows := by
  obtain ⟨trace, w, hrun, hstates⟩ := @calls_run (fun _ _ => True) _
    [(quiet 0 1, ignored (issueFor "d1")),
     (quiet 0 1, ignored (abortWithRestoration sampleHost (samplePermit "d1" 1) .issued
        "stop" []))]
    (PermitMethod sampleHost)
    (by
      simp only [List.mem_cons, List.not_mem_nil, or_false, forall_eq_or_imp, forall_eq]
      exact ⟨.issue _ _ _ _ _ _ _, .abortWithRestoration _ _ _ _⟩)
    (fun w => (w.ledger.permits[(samplePermit "d1" 1).permitId]?.map (·.states)) =
        some [.issued, .recoveryRequired]) _ sampleWorld (by decide +kernel)
  obtain ⟨record, hfound, hrecord⟩ := Option.map_eq_some_iff.mp hstates
  refine ⟨trace, w, record, unguarded_run hrun, hfound, hrecord, ?_⟩
  rw [hrecord]
  decide

end OrbitalMesh
