import OrbitalMesh.Permit.LedgerRuns

/-!
# Fenced roots

A recovery that cannot restore a preimage fences the repository root.  `issue`
refuses a fenced root, but `consume` and `record_transition` do not look at the
fences.  A fence is therefore effective exactly as far as the permits of the
root were finished when it was raised.
-/

namespace OrbitalMesh

open Atomic

def FenceInvariant (ledger : Ledger) : Prop :=
  ∀ (root id : String) (record : PermitRecord), (ledger.fencedRoots[root]?).isSome = true →
    ledger.permits[id]? = some record → record.permit.repoPath = root →
    record.state.isTerminal = true

def Isolating (ledger : Ledger) : LedgerSection → Prop
  | .fenceRecovery permitId expectedState repoPath _ _ =>
    repoPath ≠ "" → (ledger.permits[permitId]?).any (·.state = expectedState) = true →
      ∀ entry ∈ ledger.permits.toList, entry.1 ≠ permitId →
        entry.2.permit.repoPath = repoPath → entry.2.state.isTerminal = true
  | _ => True

instance (ledger : Ledger) (call : LedgerSection) : Decidable (Isolating ledger call) := by
  rcases call with _ | _ <;> unfold Isolating <;> infer_instance

theorem Isolating.others {ledger : Ledger} {permitId repoPath reason : String} {now : Instant}
    {record : PermitRecord}
    (h : Isolating ledger (.fenceRecovery permitId record.state repoPath reason now))
    (hroot : repoPath ≠ "") (hfound : ledger.permits[permitId]? = some record)
    {id : String} {other : PermitRecord} (hother : ledger.permits[id]? = some other)
    (hne : id ≠ permitId) (hpath : other.permit.repoPath = repoPath) :
    other.state.isTerminal = true := by
  refine h hroot (by simp [hfound]) (id, other) ?_ hne hpath
  exact Std.ExtTreeMap.mem_toList_iff_getElem?_eq_some.mpr hother

section

variable {ledger ledger' : Ledger} {s : LedgerSection} {new : Option Permit} {id : String}

theorem LedgerStep.terminal_moves {record : PermitRecord} (hstep : LedgerStep ledger s new ledger')
    (hfound : ledger.permits[id]? = some record) (hterminal : record.state.isTerminal = true) :
    ∃ record' added, ledger'.permits[id]? = some record' ∧
      record'.permit = record.permit ∧ record'.state.isTerminal = true ∧
      record'.stateHistory = record.stateHistory ++ added ∧
      ∀ entry ∈ added, entry.state = .recoveryRequired := by
  rcases hstep.record_cases hfound with hsame | ⟨updated, newState, _, now, hget, hmove, hcases⟩
  · exact ⟨record, [], hsame, rfl, hterminal, by simp, by simp⟩
  · rcases hcases with hallowed | ⟨rfl, -⟩
    · have hopen := PermitState.Follows.not_terminal hallowed
      rw [hterminal] at hopen
      cases hopen
    · exact ⟨updated, _, hget, hmove.permit, by rw [hmove.state]; rfl, hmove.history, by simp⟩

theorem FenceInvariant.step (h : FenceInvariant ledger)
    (hstep : LedgerStep ledger s new ledger') (hisolating : Isolating ledger s) :
    FenceInvariant ledger' := by
  intro root id record' hfenced hfound hroot
  cases hbefore : ledger.permits[id]? with
  | none =>
    -- only `issue` files a new record, and it looks at the fences
    obtain ⟨permit, now, rfl, hopen, input, rfl⟩ := hstep.new_record hbefore hfound
    have hpath : permit.repoPath = root := hroot
    rw [hpath] at hopen
    rcases hstep.fence_cases root with hsame | ⟨-, -, _, _, _, _, _, -, -, -, hsection⟩
    · rw [hsame, hopen] at hfenced
      cases hfenced
    · cases hsection
  | some record =>
    have hrecord : record'.permit = record.permit := by
      rcases hstep.record_cases hbefore with hsame | ⟨_, _, _, _, hget, hmove, -⟩
      · rw [hfound] at hsame
        rw [Option.some.inj hsame]
      · rw [hfound] at hget
        rw [Option.some.inj hget, hmove.permit]
    have hpath : record.permit.repoPath = root := by rw [← hrecord, hroot]
    have finished : record.state.isTerminal = true → record'.state.isTerminal = true := by
      intro hterminal
      obtain ⟨later, _, hlater, -, hdone, -⟩ := hstep.terminal_moves hbefore hterminal
      rw [hfound] at hlater
      rw [Option.some.inj hlater]
      exact hdone
    rcases hstep.fence_cases root with hsame | ⟨-, hnonempty, permitId, reason, now, current,
      updated, hcurrent, hupdated, hdone, rfl⟩
    · rw [hsame] at hfenced
      exact finished (h root id record hfenced hbefore hpath)
    · by_cases heq : id = permitId
      · subst heq
        rw [hfound] at hupdated
        rw [Option.some.inj hupdated, hdone]
        rfl
      · exact finished (hisolating.others hnonempty hcurrent hbefore heq hpath)

/-- What has happened to the permits of a root since an earlier ledger: none
was added, and whatever moved went to `recovery_required`. -/
def StillSince (earlier : Ledger) (root : String) (ledger : Ledger) : Prop :=
  ∀ (id : String) (record' : PermitRecord), ledger.permits[id]? = some record' →
    record'.permit.repoPath = root →
    ∃ record added, earlier.permits[id]? = some record ∧
      record'.stateHistory = record.stateHistory ++ added ∧
      ∀ entry ∈ added, entry.state = .recoveryRequired

theorem StillSince.step {earlier : Ledger} {root : String} (h : StillSince earlier root ledger)
    (hinv : FenceInvariant ledger) (hfenced : (ledger.fencedRoots[root]?).isSome = true)
    (hstep : LedgerStep ledger s new ledger') : StillSince earlier root ledger' := by
  intro id record'' hfound hroot
  cases hbefore : ledger.permits[id]? with
  | none =>
    obtain ⟨permit, now, rfl, hopen, -⟩ := hstep.new_record hbefore hfound
    have hpath : permit.repoPath = root := hroot
    rw [hpath] at hopen
    rw [hopen] at hfenced
    cases hfenced
  | some record' =>
    have hpath : record'.permit.repoPath = root := by
      rcases hstep.record_cases hbefore with hsame | ⟨_, _, _, _, hget, hmove, -⟩
      · rw [hfound] at hsame
        rw [← Option.some.inj hsame]
        exact hroot
      · rw [hfound] at hget
        rw [← hmove.permit, ← Option.some.inj hget]
        exact hroot
    have hterminal := hinv root id record' hfenced hbefore hpath
    obtain ⟨later, moved, hlater, -, -, hhistory, hmoved⟩ :=
      hstep.terminal_moves hbefore hterminal
    rw [hfound] at hlater
    obtain ⟨record, added, hrecord, hadded, hentries⟩ := h id record' hbefore hpath
    refine ⟨record, added ++ moved, hrecord, ?_, ?_⟩
    · rw [Option.some.inj hlater, hhistory, hadded, List.append_assoc]
    · intro entry hentry
      rcases List.mem_append.mp hentry with hold | hnew
      · exact hentries entry hold
      · exact hmoved entry hnew

end

theorem FenceInvariant.world_step {host : Host} {op : Section} {w w' : World}
    {answer : op.Answer} (h : FenceInvariant w.ledger)
    (hstep : guardedStep host Isolating op w answer w') : FenceInvariant w'.ledger := by
  obtain ⟨hworld, hguard⟩ := hstep
  rcases worldStep_ledger hworld with ⟨hsame, -⟩ | ⟨call, rfl, hledger⟩
  · rw [hsame]
    exact h
  · exact h.step hledger (hguard call rfl)

/-- The states that a fence is meant to rule out. -/
def mutatingStates : List PermitState := [.claimed, .applying, .applied, .verifying, .committed]

/-- **Fencing.**  Where a root is fenced only when its other permits are finished, no permit of
a fenced root is added or enters a mutating state. -/
theorem fenced_root_stays_still (host : Host) {w : World} (hempty : w.ledger = .empty)
    {trace trace' : List WorldEvent} {pool pool' : Pool Section Section.Answer World Unit}
    (hrun : PoolRun (guardedStep host Isolating) (PermitMethod host) ⟨[], w⟩ trace pool)
    {root : String} (hfenced : (pool.state.ledger.fencedRoots[root]?).isSome = true)
    (hlater : PoolRun (guardedStep host Isolating) (PermitMethod host) pool trace' pool')
    {id : String} {record' : PermitRecord} (hfound : pool'.state.ledger.permits[id]? = some record')
    (hroot : record'.permit.repoPath = root) :
    ∃ record added, pool.state.ledger.permits[id]? = some record ∧
      record'.stateHistory = record.stateHistory ++ added ∧
      ∀ entry ∈ added, entry.state ∉ mutatingStates := by
  have hinv : FenceInvariant pool.state.ledger := by
    refine hrun.invariant (fun s => FenceInvariant s.ledger) ?_ ?_
    · intro root id record hnone
      simp [hempty, Ledger.empty] at hnone
    · intro op s answer s' h hstep
      exact h.world_step hstep
  have hstill : FenceInvariant pool'.state.ledger ∧
      (pool'.state.ledger.fencedRoots[root]?).isSome = true ∧
      StillSince pool.state.ledger root pool'.state.ledger := by
    refine hlater.invariant (fun s => FenceInvariant s.ledger ∧
      (s.ledger.fencedRoots[root]?).isSome = true ∧
      StillSince pool.state.ledger root s.ledger) ⟨hinv, hfenced, ?_⟩ ?_
    · intro id record hrecord _
      exact ⟨record, [], hrecord, by simp, by simp⟩
    · rintro op s answer s' ⟨hs, hfence, hsince⟩ hstep
      refine ⟨hs.world_step hstep, ?_⟩
      rcases worldStep_ledger hstep.1 with ⟨hsame, -⟩ | ⟨call, rfl, hledger⟩
      · rw [hsame]
        exact ⟨hfence, hsince⟩
      · refine ⟨?_, hsince.step hs hfence hledger⟩
        rcases hledger.fence_cases root with heq | ⟨hraised, -⟩
        · rw [heq]
          exact hfence
        · exact hraised
  obtain ⟨record, added, hrecord, hhistory, hadded⟩ := hstill.2.2 id record' hfound hroot
  refine ⟨record, added, hrecord, hhistory, ?_⟩
  intro entry hentry
  rw [hadded entry hentry]
  decide

def fencingCalls : List (Script × Program Unit) :=
  [(quiet 0 1, ignored (issueFor "d1")),
   (quiet 0 1, ignored (transitionPermit (samplePermit "d1" 1).permitId .issued .prepared
      none none)),
   (quiet 0 1, ignored (abortWithRestoration sampleHost (samplePermit "d1" 1) .prepared
      "stop" []))]

/-- The only permit of the root is fenced, and recovery afterwards finds it as
it was. -/
theorem fenced_root_stays_still_sample :
    ∃ trace w, PoolRun (guardedStep sampleHost Isolating) (PermitMethod sampleHost)
        ⟨[], sampleWorld⟩ trace ⟨[], w⟩ ∧
      (w.ledger.fencedRoots["/r"]?).isSome = true ∧
      ∃ record' record added, w.ledger.permits[(samplePermit "d1" 1).permitId]? = some record' ∧
        w.ledger.permits[(samplePermit "d1" 1).permitId]? = some record ∧
        record'.stateHistory = record.stateHistory ++ added ∧
        ∀ entry ∈ added, entry.state ∉ mutatingStates := by
  obtain ⟨trace, w, hrun, hfenced, hrecord⟩ := @calls_run Isolating _ fencingCalls
    (PermitMethod sampleHost)
    (by
      simp only [fencingCalls, List.mem_cons, List.not_mem_nil, or_false, forall_eq_or_imp,
        forall_eq]
      exact ⟨.issue _ _ _ _ _ _ _, .recordTransition _ _ _ _ _, .abortWithRestoration _ _ _ _⟩)
    (fun w => (w.ledger.fencedRoots["/r"]?).isSome = true ∧
      (w.ledger.permits[(samplePermit "d1" 1).permitId]?.map (·.permit.repoPath)) = some "/r")
    _ sampleWorld (by decide +kernel)
  obtain ⟨record', hfound, hroot⟩ := Option.map_eq_some_iff.mp hrecord
  obtain ⟨record, added, hstill⟩ :=
    fenced_root_stays_still sampleHost rfl hrun hfenced .refl hfound hroot
  exact ⟨trace, w, hrun, hfenced, record', record, added, hfound, hstill⟩

def secondPermit : Permit := permitAfter [(quiet 0 1, ignored (issueFor "d1"))] "d2" 2

def lateFencingCalls : List (Script × Program Unit) :=
  [(quiet 0 1, ignored (issueFor "d1")),
   (quiet 0 2, ignored (issueFor "d2")),
   (quiet 0 1, ignored (transitionPermit (samplePermit "d1" 1).permitId .issued .prepared
      none none)),
   (quiet 0 1, ignored (abortWithRestoration sampleHost (samplePermit "d1" 1) .prepared
      "stop" []))]

def claimingCalls : List (Script × Program Unit) :=
  [(quiet 0 1, ignored (transitionPermit secondPermit.permitId .issued .prepared none none)),
   (quiet 0 1, ignored (consumePermit sampleHost secondPermit (admittedDecision "d2") "d2:patch"
      (sampleDecision "d2").parameters))]

/-- **A fence that does not hold**: the first of two permits is aborted, which fences the root; the
second then enters `claimed`. -/
theorem claimed_on_fenced_root :
    ∃ trace trace' w w', PoolRun (worldStep sampleHost) (PermitMethod sampleHost)
        ⟨[], sampleWorld⟩ trace ⟨[], w⟩ ∧
      (w.ledger.fencedRoots["/r"]?).isSome = true ∧
      (w.ledger.permits[secondPermit.permitId]?.map (·.states)) = some [.issued] ∧
      PoolRun (worldStep sampleHost) (PermitMethod sampleHost) ⟨[], w⟩ trace' ⟨[], w'⟩ ∧
      (w'.ledger.permits[secondPermit.permitId]?.map
        fun record => (record.permit.repoPath, record.states)) =
        some ("/r", [.issued, .prepared, .claimed]) := by
  obtain ⟨trace, w, hrun, hfenced, hissued, hsecond⟩ := @calls_run (fun _ _ => True) _
    lateFencingCalls (PermitMethod sampleHost)
    (by
      simp only [lateFencingCalls, List.mem_cons, List.not_mem_nil, or_false, forall_eq_or_imp,
        forall_eq]
      exact ⟨.issue _ _ _ _ _ _ _, .issue _ _ _ _ _ _ _, .recordTransition _ _ _ _ _,
        .abortWithRestoration _ _ _ _⟩)
    (fun w => (w.ledger.fencedRoots["/r"]?).isSome = true ∧
      (w.ledger.permits[secondPermit.permitId]?.map (·.states)) = some [.issued] ∧
      (Prog.execAll (calls (fun _ _ => True) claimingCalls) w).any (fun w' =>
        decide ((w'.ledger.permits[secondPermit.permitId]?.map
          fun record => (record.permit.repoPath, record.states)) =
            some ("/r", [.issued, .prepared, .claimed]))) = true)
    _ sampleWorld (by decide +kernel)
  obtain ⟨trace', w', hrun', hclaimed⟩ := @calls_run (fun _ _ => True) _ claimingCalls
    (PermitMethod sampleHost)
    (by
      simp only [claimingCalls, List.mem_cons, List.not_mem_nil, or_false, forall_eq_or_imp,
        forall_eq]
      exact ⟨.recordTransition _ _ _ _ _, .consume _ _ _ _⟩)
    (fun w' => (w'.ledger.permits[secondPermit.permitId]?.map
      fun record => (record.permit.repoPath, record.states)) =
        some ("/r", [.issued, .prepared, .claimed])) _ w hsecond
  exact ⟨trace, trace', w, w', unguarded_run hrun, hfenced, hissued, unguarded_run hrun',
    hclaimed⟩

end OrbitalMesh
