import OrbitalMesh.Authority.Service

/-!
# The sections that the service can issue

Which sections each program of the service can ever issue, whatever it is
answered.  Everything outside the authority store is `Routine`: permits are
claimed through `consume` only, and recovery is for mutation states.  Beyond
that the service calls the authority store, and it promotes a patch in one
place.
-/

namespace OrbitalMesh

open Atomic Raising

/-- The sections that stay away from the authority store and from promotion, and respect the
permit ledger. -/
def Routine : Section → Prop
  | .authority _ => False
  | .promote _ _ _ => False
  | .ledger (.recordTransition _ expectedState newState _ _ _) =>
    ¬ (expectedState = .prepared ∧ newState = .claimed)
  | .ledger (.fenceRecovery _ expectedState _ _ _) => expectedState.isMutation = true
  | _ => True

/-- The program issues routine sections only. -/
abbrev Quiet {α : Type} (p : Py α) : Prop := Prog.Within Routine (fun _ => 0) 0 p

section

variable {P : Section → Prop} {cost : Section → Nat} {n m : Nat} {α β : Type}

theorem within_tryExcept {classes : List ErrorClass} {body : Py α}
    (h : Prog.Within P cost n body) : Prog.Within P cost n (tryExcept classes body) := by
  show Prog.Within P cost (n + 0) (Prog.bind body _)
  refine Prog.within_bind h ?_
  rintro (e | a) <;> exact Prog.within_ret _

theorem Quiet.within {p : Py α} (h : Quiet p)
    (hroutine : ∀ op, Routine op → P op ∧ cost op = 0) : Prog.Within P cost n p := by
  refine (Prog.Within.weaken h fun op hop => ?_).mono (Nat.zero_le n)
  obtain ⟨hP, hzero⟩ := hroutine op hop
  exact ⟨hP, Nat.le_of_eq hzero⟩

end

variable {α β : Type}

theorem quiet_pure (a : α) : Quiet (pure a : Py α) := Prog.within_ret _

theorem quiet_private (x : Except PyError α) : Quiet (pure? x) := within_ofExcept x

theorem quiet_now : Quiet clockNow :=
  Prog.within_bind (n := 0) (m := 0) (Prog.within_issue trivial (Nat.le_refl 0))
    fun _ => Prog.within_ret _

theorem quiet_token : Quiet tokenHex :=
  Prog.within_bind (n := 0) (m := 0) (Prog.within_issue trivial (Nat.le_refl 0))
    fun _ => Prog.within_ret _

theorem quiet_file (call : FileCall) : Quiet (onFiles call) :=
  Prog.within_issue trivial (Nat.le_refl 0)

theorem then_private {x : Except PyError α} {f : α → Py β} (hf : ∀ a, Quiet (f a)) :
    Quiet (pure? x >>= f) :=
  within_then (quiet_private x) hf

theorem then_file {call : FileCall} {f : call.Value → Py β} (hf : ∀ a, Quiet (f a)) :
    Quiet (onFiles call >>= f) :=
  within_then (quiet_file call) hf

theorem quiet_consult (question : Consultation) : Quiet (consult question) :=
  Prog.within_issue trivial (Nat.le_refl 0)

theorem quiet_ledger {call : LedgerSection} (h : Routine (.ledger call)) : Quiet (onLedger call) :=
  Prog.within_issue h (Nat.le_refl 0)

variable (host : Host) (path : String)

theorem quiet_fileDigest : Quiet (fileDigest host path) :=
  then_file fun _ => quiet_pure _

theorem quiet_rootRefused (root : String) : Quiet (rootRefused root) := by
  unfold rootRefused
  split
  · exact quiet_file _
  · exact quiet_pure _

theorem quiet_targetBinding (parameters : Dict) :
    Quiet (repoPatchTargetBinding host parameters) := by
  refine then_private fun _ => ?_
  refine within_then (quiet_rootRefused _) fun _ => ?_
  refine then_private fun _ => ?_
  split
  · refine then_file fun _ => ?_
    refine then_private fun _ => ?_
    dsimp only
    cases relativeTo? _ _ with
    | none => exact quiet_private _
    | some relative =>
      refine then_private fun _ => ?_
      refine then_private fun _ => ?_
      refine then_file fun _ => ?_
      refine then_private fun _ => ?_
      refine within_then (quiet_fileDigest host _) fun _ => ?_
      exact quiet_pure _
  · exact quiet_private _

theorem quiet_readPostimage (parameters : Dict) (targetPath : String) :
    Quiet (readPostimage host parameters targetPath) :=
  within_then (within_tryExcept (quiet_file _)) fun _ => quiet_private _

variable (decision : Decision)

theorem quiet_issue (evaluation : EvaluationResult)
    (gate : Dict) (idempotencyKey : String) (ttlSeconds : Int)
    (permitId authorityNonce : Option String) :
    Quiet (issuePermit host decision evaluation gate idempotencyKey ttlSeconds permitId
      authorityNonce) := by
  refine then_private fun _ => ?_
  refine within_then (quiet_targetBinding host _) fun _ => ?_
  refine within_then (quiet_readPostimage host _ _) fun _ => ?_
  refine within_then quiet_now fun _ => ?_
  refine then_private fun _ => ?_
  refine within_then quiet_token fun _ => ?_
  refine within_then quiet_token fun _ => ?_
  refine within_then (quiet_ledger trivial) fun _ => ?_
  exact quiet_pure _

variable (permit : Permit)

theorem quiet_validatePermit (idempotencyKey : String) (parameters : Dict) :
    Quiet (validatePermit host permit decision idempotencyKey parameters) := by
  refine then_private fun _ => ?_
  refine within_then (quiet_targetBinding host _) fun _ => ?_
  refine within_then quiet_now fun _ => ?_
  refine then_private fun _ => ?_
  refine within_then (quiet_readPostimage host _ _) fun _ => ?_
  refine then_private fun _ => ?_
  exact quiet_private _

theorem quiet_consume (idempotencyKey : String) (parameters : Dict) :
    Quiet (consumePermit host permit decision idempotencyKey parameters) := by
  refine within_then (quiet_validatePermit host _ _ _ _) fun _ => ?_
  refine within_then quiet_now fun _ => ?_
  refine within_then (quiet_ledger trivial) fun _ => ?_
  exact quiet_pure _

variable {expectedState : PermitState}

theorem quiet_transition (permitId : String) {newState : PermitState}
    (details terminalResult : Option Dict)
    (h : ¬ (expectedState = .prepared ∧ newState = .claimed)) :
    Quiet (transitionPermit permitId expectedState newState details terminalResult) :=
  within_then quiet_now fun _ => quiet_ledger h

theorem quiet_restorePreimage (details : Option Dict)
    (message : String) : Quiet (restorePreimage host permit details message) := by
  unfold restorePreimage
  split
  · exact quiet_private _
  · refine within_then ?_ fun _ => ?_
    · refine then_private fun _ => ?_
      refine then_file fun _ => ?_
      refine then_private fun _ => ?_
      refine within_then (quiet_fileDigest host _) fun _ => ?_
      exact then_private fun _ => quiet_pure _
    · refine then_file fun _ => ?_
      refine then_private fun _ => ?_
      refine within_then (quiet_fileDigest host _) fun _ => ?_
      refine then_private fun _ => ?_
      refine then_file fun _ => ?_
      refine then_file fun _ => ?_
      refine within_then (quiet_fileDigest host _) fun _ => ?_
      exact then_private fun _ => quiet_pure _

theorem quiet_fence (permitId : String) (permit : Permit) (reason : String)
    (h : expectedState.isMutation = true) :
    Quiet (fenceRecovery permitId expectedState permit reason) := by
  refine within_then quiet_now fun _ => ?_
  refine within_then (quiet_ledger h) fun _ => ?_
  exact quiet_pure _

theorem quiet_abort (reason : String) (testResults : List Json)
    (h : expectedState.isMutation = true) :
    Quiet (abortWithRestoration host permit expectedState reason testResults) := by
  refine within_then (within_tryExcept ?_) fun restored => ?_
  · refine within_then (quiet_ledger trivial) fun _ => ?_
    exact quiet_restorePreimage host _ _ _
  · cases restored with
    | error e => exact quiet_fence _ _ _ h
    | ok backupPath =>
      refine within_then quiet_now fun _ => ?_
      refine within_then (quiet_transition _ _ _ (by simp)) fun _ => ?_
      exact quiet_pure _

theorem quiet_recoverCandidate (candidate : Candidate) :
    Quiet (recoverCandidate host candidate) := by
  refine within_then (within_tryExcept (quiet_restorePreimage host _ _ _)) fun restored => ?_
  cases restored with
  | error e =>
    refine within_then (quiet_fence _ _ _ candidate.incomplete) fun _ => ?_
    exact quiet_pure _
  | ok backupPath =>
    refine within_then quiet_now fun _ => ?_
    refine within_then (quiet_transition _ _ _ (by simp)) fun _ => ?_
    exact quiet_pure _

theorem quiet_recoverCandidates (candidates : List Candidate) :
    Quiet (recoverCandidates host candidates) := by
  induction candidates with
  | nil => exact quiet_pure _
  | cons candidate rest ih =>
    refine within_then (quiet_recoverCandidate host candidate) fun _ => ?_
    exact within_then ih fun _ => quiet_pure _

theorem quiet_recover : Quiet (recoverIncompleteActions host) :=
  within_then (quiet_ledger trivial) fun candidates => quiet_recoverCandidates host candidates

variable (content : Bytes)

theorem quiet_holdsContent : Quiet (holdsContent path content) := by
  refine then_file fun linked => ?_
  cases linked with
  | true => exact quiet_pure _
  | false =>
    refine then_file fun regular => ?_
    cases regular with
    | true => exact then_file fun _ => quiet_pure _
    | false => exact quiet_pure _

theorem quiet_dropPartialBackup : Quiet (dropPartialBackup path content) := by
  refine then_file fun present => ?_
  cases present with
  | true =>
    refine then_file fun written => ?_
    show Quiet (ite _ _ _)
    split
    · exact quiet_file _
    · exact quiet_pure _
  | false => exact quiet_pure _

theorem quiet_writeBackup : Quiet (writeImmutableBackup path content) := by
  refine then_file fun _ => ?_
  refine then_file fun present => ?_
  cases present with
  | true => exact within_then (quiet_holdsContent _ _) fun _ => quiet_private _
  | false =>
    refine within_tryCatch (n := 0) (m := 0) ?_ fun e => ?_
    · refine then_file fun _ => ?_
      refine then_file fun _ => ?_
      exact then_file fun _ => quiet_pure _
    · exact within_then (quiet_dropPartialBackup _ _) fun _ => quiet_private _

variable (config : ServiceConfig)

theorem quiet_acceptRequest (request : Dict) (peerUid peerGid : Int) :
    Quiet (acceptRequest config request peerUid peerGid) := by
  refine then_private fun _ => ?_
  refine then_private fun accepted => ?_
  cases accepted with
  | false => exact quiet_pure _
  | true =>
    refine within_then ?_ fun timely => ?_
    · refine within_then (within_tryExcept (quiet_private _)) fun times => ?_
      cases times with
      | error e => exact quiet_pure _
      | ok times =>
        refine within_then quiet_now fun _ => ?_
        exact then_private fun _ => quiet_pure _
    · cases timely with
      | false => exact quiet_pure _
      | true => exact quiet_private _

theorem quiet_signedResponse (caller : Caller)
    (status : ResponseStatus) (executionResult : Dict) (rejection : Option Dict)
    (client : Option String) :
    Quiet (signedResponse host config caller status executionResult rejection client) := by
  refine within_then quiet_now fun _ => ?_
  exact then_private fun _ => quiet_pure _

theorem quiet_signedTerminalReplay (caller : Caller)
    (record : AuthorityRecord) : Quiet (signedTerminalReplay host config caller record) :=
  then_private fun _ => quiet_signedResponse host config caller _ _ _ _

theorem quiet_authorizeCommand (command : String) :
    Quiet (authorizePolicyCommand host command) := by
  refine then_private fun _ => ?_
  refine then_private fun argv => ?_
  cases argv with
  | nil => exact quiet_private _
  | cons name arguments =>
    refine then_private fun _ => ?_
    exact within_then (quiet_consult _) fun _ => quiet_pure _

theorem quiet_authorizeCommands (commands : List String) :
    Quiet (authorizePolicyCommands host commands) := by
  induction commands with
  | nil => exact quiet_pure _
  | cons command rest ih =>
    refine within_then (quiet_authorizeCommand host command) fun _ => ?_
    exact within_then ih fun _ => quiet_pure _

theorem quiet_prepareVerifiedPatch
    (order : AuthorityOrder) : Quiet (prepareVerifiedPatch host config order) := by
  refine then_private fun _ => ?_
  refine then_private fun _ => ?_
  dsimp only
  split
  · exact quiet_private _
  · refine then_private fun _ => ?_
    refine within_then (quiet_authorizeCommands host _) fun _ => ?_
    exact then_private fun _ => quiet_consult _

section

variable {P : Section → Prop} {cost : Section → Nat} {n : Nat} {α : Type}
  (hroutine : ∀ op, Routine op → P op ∧ cost op = 0)

include hroutine

theorem within_withPrepared {prepared : PreparedRepoPatch} {body : Py α}
    (h : Prog.Within P cost n body) : Prog.Within P cost n (withPrepared prepared body) := by
  show Prog.Within P cost (n + 0) (Prog.bind body _)
  refine Prog.within_bind h fun outcome => ?_
  obtain ⟨hP, hzero⟩ := hroutine (.consult (.close prepared)) trivial
  refine Prog.within_bind (n := 0) (m := 0) (Prog.within_issue hP (by omega)) fun closed => ?_
  cases closed <;> exact Prog.within_ret _

theorem within_runPreflight (host : Host) (config : ServiceConfig) (order : AuthorityOrder) :
    Prog.Within P cost n (runPreflight host config order) := by
  have hprepare : Prog.Within P cost 0 (prepareVerifiedPatch host config order) :=
    (quiet_prepareVerifiedPatch host config order).within hroutine
  exact within_then hprepare fun _ => within_withPrepared hroutine (Prog.within_ret _)

theorem within_promoteVerifiedPatch (host : Host) (prepared : PreparedRepoPatch)
    (preflight : Dict) (decision : Decision) (evaluation : EvaluationResult) (gate : Dict)
    (key : String)
    (hpromote : ∀ permitId, P (.promote key permitId prepared) ∧
      cost (.promote key permitId prepared) ≤ n) :
    Prog.Within P cost n
      (promoteVerifiedPatch host prepared preflight decision evaluation gate key) := by
  have hquiet : ∀ {β : Type} {p : Py β} {k : Nat}, Quiet p → Prog.Within P cost k p :=
    fun h => h.within hroutine
  refine within_then (hquiet (quiet_issue host _ _ _ _ _ _ _)) fun permit => ?_
  refine within_then (hquiet (quiet_private _)) fun _ => ?_
  refine within_then (hquiet (quiet_fileDigest host _)) fun _ => ?_
  refine within_then (hquiet (quiet_private _)) fun _ => ?_
  refine within_then (hquiet (quiet_writeBackup _ _)) fun _ => ?_
  refine within_then (hquiet (quiet_transition _ _ _ (by simp))) fun _ => ?_
  refine within_then (hquiet (within_tryExcept (quiet_consume host _ _ _ _))) fun consumed => ?_
  cases consumed with
  | error e => exact hquiet (quiet_abort host _ _ _ rfl)
  | ok receipt =>
    refine within_then (hquiet (quiet_transition _ _ _ (by simp))) fun _ => ?_
    obtain ⟨hP, hcost⟩ := hpromote permit.permitId
    refine within_andThen (n := n) (m := 0)
      (within_tryExcept (Prog.within_issue hP hcost)) fun promoted => ?_
    cases promoted with
    | error e => exact hquiet (quiet_abort host _ _ _ rfl)
    | ok _ =>
      refine within_then (hquiet (quiet_transition _ _ _ (by simp))) fun _ => hquiet ?_
      refine within_then ?_ fun mismatch => ?_
      · unfold promotionMismatch
        split
        · exact quiet_pure _
        · exact within_then (quiet_fileDigest host _) fun _ => quiet_pure _
      · cases mismatch with
        | true => exact quiet_abort host _ _ _ rfl
        | false =>
          refine within_then (quiet_transition _ _ _ (by simp)) fun _ => ?_
          exact within_then (quiet_transition _ _ _ (by simp)) fun _ => quiet_pure _

theorem within_onRecord {call : Reading → AuthorityCall}
    (hcall : ∀ now, P (.authority (call now)) ∧ cost (.authority (call now)) = 0) :
    Prog.Within P cost n (onRecord call) := by
  obtain ⟨hclock, hzero⟩ := hroutine .authorityClock trivial
  refine within_then ?_ fun answer => within_ofExcept _
  refine within_then ?_ fun now => ?_
  · exact Prog.within_bind (n := 0) (m := 0) (Prog.within_issue hclock (by omega))
      fun _ => Prog.within_ret _
  · obtain ⟨hP, hfree⟩ := hcall now
    exact Prog.within_issue hP (by omega)

section

variable (hcomplete : ∀ id version leaseId outcome result now,
  P (.authority (.completeTerminal id version leaseId outcome result now)) ∧
    cost (.authority (.completeTerminal id version leaseId outcome result now)) = 0)

include hcomplete

theorem within_completeTerminal (record : AuthorityRecord) (leaseId : String)
    (outcome : TerminalOutcome) (result : Dict) :
    Prog.Within P cost n (completeTerminal record leaseId outcome result) :=
  within_onRecord hroutine fun now => hcomplete _ _ _ _ _ now

variable (host : Host) (config : ServiceConfig)

theorem within_completeLifecycleResponse (lease : Lease)
    (record : AuthorityRecord) (status : ResponseStatus) (executionResult : Dict)
    (rejection : Option Dict) (outcome : TerminalOutcome) :
    Prog.Within P cost n (completeLifecycleResponse host config lease record status
      executionResult rejection outcome) := by
  refine within_then (within_tryExcept (within_completeTerminal hroutine hcomplete _ _ _ _))
    fun completed => ?_
  cases completed with
  | error e | ok record => exact (quiet_signedResponse host config _ _ _ _ _).within hroutine

theorem within_completeLifecycleRejection (lease : Lease)
    (record : AuthorityRecord) (code : String) (outcome : TerminalOutcome) :
    Prog.Within P cost n
      (completeLifecycleRejection host config lease record code outcome) :=
  within_completeLifecycleResponse hroutine hcomplete host config lease record _ _ _ _

theorem within_closeLeased (lease : Lease)
    (record : AuthorityRecord) (e : PyError) :
    Prog.Within P cost n (closeLeased host config lease record e) := by
  unfold closeLeased
  split
  · exact within_completeLifecycleRejection hroutine hcomplete host config lease record _ _
  · exact within_completeLifecycleRejection hroutine hcomplete host config lease record _ _

theorem within_finishDispatched (order : AuthorityOrder) (record : AuthorityRecord) :
    Prog.Within P cost n (finishDispatched order record) := by
  have hterminalize : ∀ {k : Nat} (result : Dict) (outcome : TerminalOutcome), Prog.Within P cost k
      (terminalizeDispatched record order.clientKeyId result outcome) := by
    intro k result outcome
    unfold terminalizeDispatched
    split
    · split
      · exact within_ofExcept _
      · exact within_completeTerminal hroutine hcomplete _ _ _ _
    · exact within_ofExcept _
  unfold finishDispatched
  split
  · have hlookup : ∀ call, Routine (.ledger call) → Prog.Within P cost 0 (onLedger call) :=
      fun call hcall => (quiet_ledger hcall).within hroutine
    refine within_then (hlookup _ trivial) fun terminal => ?_
    cases terminal with
    | none | some result => exact hterminalize _ _
  · exact hterminalize _ _

theorem within_preflightDispatched
    (order : AuthorityOrder) (lease : Lease) (dispatched : AuthorityRecord) :
    Prog.Within P cost n (preflightDispatched host config order lease dispatched) := by
  refine within_then (within_tryExcept (within_runPreflight hroutine host config order))
    fun ran => ?_
  cases ran with
  | error e =>
    exact within_completeLifecycleRejection hroutine hcomplete host config lease dispatched _ _
  | ok receipt =>
    exact within_completeLifecycleResponse hroutine hcomplete host config lease dispatched
      _ _ _ _

section

variable {order : AuthorityOrder}
  (hpromote : ∀ permitId prepared, P (.promote order.idempotencyKey permitId prepared) ∧
    cost (.promote order.idempotencyKey permitId prepared) ≤ n)

include hpromote

theorem within_promoteUnchanged (host : Host) (config : ServiceConfig) (lease : Lease)
    (dispatched : AuthorityRecord) (authorityGate receipt : Dict)
    (prepared : PreparedRepoPatch) :
    Prog.Within P cost n (promoteUnchanged host config order lease dispatched authorityGate
      receipt prepared) := by
  unfold promoteUnchanged
  dsimp only
  split
  · refine within_then ?_ fun _ => Prog.within_ret _
    exact within_completeLifecycleRejection hroutine hcomplete host config lease dispatched _ _
  · refine within_andThen (n := n) (m := 0) ?_ fun _ => Prog.within_ret _
    exact within_promoteVerifiedPatch hroutine host prepared _ _ _ _ _
      fun permitId => hpromote permitId prepared

theorem within_executeDispatched (host : Host) (config : ServiceConfig) (lease : Lease)
    (dispatched : AuthorityRecord) (authorityGate receipt : Dict) :
    Prog.Within P cost n
      (executeDispatched host config order lease dispatched authorityGate receipt) := by
  have hquiet : ∀ {β : Type} {p : Py β} {k : Nat}, Quiet p → Prog.Within P cost k p :=
    fun h => h.within hroutine
  refine within_then (hquiet (quiet_ledger trivial)) fun terminal => ?_
  cases terminal with
  | some result =>
    exact within_completeLifecycleResponse hroutine hcomplete host config lease dispatched
      _ _ _ _
  | none =>
    refine within_then
      (hquiet (within_tryExcept (quiet_prepareVerifiedPatch host config order)))
      fun prepared => ?_
    cases prepared with
    | error e =>
      exact within_completeLifecycleRejection hroutine hcomplete host config lease
        dispatched _ _
    | ok prepared =>
      refine within_andThen (n := n) (m := 0) (within_withPrepared hroutine ?_)
        fun outcome => ?_
      · exact within_promoteUnchanged hroutine hcomplete hpromote host config lease
          dispatched authorityGate receipt prepared
      · cases outcome with
        | rejected response => exact Prog.within_ret _
        | executed result =>
          exact within_completeLifecycleResponse hroutine hcomplete host config lease
            dispatched _ _ _ _

end

end

section

variable (hstore : ∀ call, P (.authority call) ∧ cost (.authority call) = 0)

include hstore

variable (host : Host) (config : ServiceConfig)

theorem within_openLifecycle (order : AuthorityOrder) :
    Prog.Within P cost n (openLifecycle host config order) := by
  have hquiet : ∀ {β : Type} {p : Py β} {k : Nat}, Quiet p → Prog.Within P cost k p :=
    fun h => h.within hroutine
  refine within_then (within_onRecord hroutine fun _ => hstore _) fun record => ?_
  split
  · exact within_then (hquiet (quiet_signedTerminalReplay host config _ _))
      fun _ => Prog.within_ret _
  · refine within_then (within_finishDispatched hroutine (fun _ _ _ _ _ _ => hstore _) order _)
      fun _ => ?_
    exact within_then (hquiet (quiet_signedTerminalReplay host config _ _))
      fun _ => Prog.within_ret _
  all_goals
    refine within_then (hquiet quiet_token) fun _ => ?_
    exact within_then (within_onRecord hroutine fun _ => hstore _) fun _ => Prog.within_ret _

variable {order : AuthorityOrder}

theorem within_handleLeasedRequest (lease : Lease) (record : AuthorityRecord)
    (hpromote : ∀ permitId prepared, P (.promote order.idempotencyKey permitId prepared) ∧
      cost (.promote order.idempotencyKey permitId prepared) ≤ n) :
    Prog.Within P cost n (handleLeasedRequest host config order lease record) := by
  have hcomplete := fun id version leaseId outcome result now =>
    hstore (.completeTerminal id version leaseId outcome result now)
  have hquiet : ∀ {β : Type} {p : Py β} {k : Nat}, Quiet p → Prog.Within P cost k p :=
    fun h => h.within hroutine
  unfold handleLeasedRequest
  split
  · refine within_then (within_onRecord hroutine fun _ => hstore _) fun dispatched => ?_
    exact within_preflightDispatched hroutine hcomplete host config order lease dispatched
  · refine within_then (hquiet (quiet_private _)) fun _ => ?_
    show Prog.Within P cost n (ite _ _ _)
    split
    · exact within_completeLifecycleRejection hroutine hcomplete host config lease record _ _
    · refine within_then (hquiet (quiet_consult _)) fun _ => ?_
      refine within_then (hquiet (quiet_private _)) fun _ => ?_
      refine within_then (hquiet (quiet_private _)) fun review => ?_
      cases review with
      | some code =>
        exact within_completeLifecycleRejection hroutine hcomplete host config lease record _ _
      | none =>
        refine within_then (within_onRecord hroutine fun _ => hstore _) fun dispatched => ?_
        exact within_executeDispatched hroutine hcomplete hpromote host config lease dispatched
          _ _

theorem within_serveOrder
    (hpromote : ∀ permitId prepared, P (.promote order.idempotencyKey permitId prepared) ∧
      cost (.promote order.idempotencyKey permitId prepared) ≤ n) :
    Prog.Within P cost n (serveOrder host config order) := by
  have hcomplete := fun id version leaseId outcome result now =>
    hstore (.completeTerminal id version leaseId outcome result now)
  refine within_then (within_tryExcept (within_openLifecycle hroutine hstore host config order))
    fun opened => ?_
  rcases opened with e | response | ⟨record, leaseId⟩
  · exact (quiet_signedResponse host config _ _ _ _ _).within hroutine
  · exact Prog.within_ret _
  · exact within_tryCatch (n := n) (m := 0)
      (within_handleLeasedRequest hroutine hstore host config _ record hpromote)
      fun e => within_closeLeased hroutine hcomplete host config _ record e

theorem within_handleRequest (request : Dict) (peerUid peerGid : Int)
    (hpromote : ∀ key permitId prepared, P (.promote key permitId prepared) ∧
      cost (.promote key permitId prepared) ≤ n) :
    Prog.Within P cost n (handleRequest host config request peerUid peerGid) := by
  have hrejection : ∀ {k : Nat} (code : String), Prog.Within P cost k
      (signedRejection host config ⟨request, peerUid, peerGid⟩ code) :=
    fun code => (quiet_signedResponse host config _ _ _ _ _).within hroutine
  unfold handleRequest
  split
  · exact hrejection _
  · refine within_tryCatch (n := n) (m := 0) ?_ fun e => ?_
    · have haccept : Prog.Within P cost 0 (acceptRequest config request peerUid peerGid) :=
        (quiet_acceptRequest config request peerUid peerGid).within hroutine
      refine within_then haccept fun accepted => ?_
      cases accepted with
      | error code => exact hrejection _
      | ok order => exact within_serveOrder hroutine hstore host config (hpromote _)
    · show Prog.Within P cost 0 (ite _ _ _)
      split <;> exact hrejection _

end

end

end OrbitalMesh
