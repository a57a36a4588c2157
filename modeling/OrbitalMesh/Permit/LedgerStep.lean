import OrbitalMesh.Permit.Ledger

/-!
# What one section does to the permit ledger

`LedgerStep` says once what a section that returned has done to the ledger, and
`ledgerCall_step` that it is everything a section can do.  Whatever is proved
about the ledger later follows from these cases; no section is unfolded again.
-/

namespace OrbitalMesh

def PermitRecord.states (record : PermitRecord) : List PermitState :=
  record.stateHistory.map (·.state)

/-- `updated` is `record` after `_transition_record` to `newState`. -/
structure RecordMove (record updated : PermitRecord) (newState : PermitState)
    (terminalResult : Option Dict) (now : Instant) : Prop where
  permit : updated.permit = record.permit
  state : updated.state = newState
  history : updated.stateHistory = record.stateHistory ++ [⟨newState, now⟩]
  result : updated.terminalResult = (terminalResult <|> record.terminalResult)

variable {record updated : PermitRecord} {newState : PermitState} {terminalResult : Option Dict}
  {now : Instant}

theorem RecordMove.states (h : RecordMove record updated newState terminalResult now) :
    updated.states = record.states ++ [newState] := by
  simp [PermitRecord.states, h.history]

theorem transitionRecord_ok {expectedState : PermitState} {details : Option Dict}
    (h : transitionRecord record expectedState newState now details terminalResult = .ok updated) :
    record.state = expectedState ∧
      RecordMove record updated newState terminalResult now := by
  simp only [transitionRecord, Except.bind_ok_iff, rejectIf_ok] at h
  obtain ⟨_, hstate, hreturn⟩ := h
  rw [← Except.ok.inj hreturn]
  exact ⟨by simpa using hstate, rfl, rfl, rfl, rfl⟩

/-- The record that `issue` writes. -/
def issuedRecord (permit : Permit) (now : Instant) : PermitRecord :=
  { permit
    state := .issued
    stateHistory := [⟨.issued, now⟩]
    transaction := none
    terminalResult := none }

variable (ledger : Ledger)

/-- The ledger after `issue` has written a new permit. -/
def Ledger.withIssued (permit : Permit) (now : Instant) : Ledger :=
  { ledger with
    permits := ledger.permits.insert permit.permitId (issuedRecord permit now)
    idempotency := ledger.idempotency.insert permit.idempotencyKey permit.permitId
    tip := some permit.ledgerTipAfter }

def Ledger.withRecord (permitId : String) (record : PermitRecord) : Ledger :=
  { ledger with permits := ledger.permits.insert permitId record }

def Ledger.withNonce (nonce permitId : String) : Ledger :=
  { ledger with consumedNonces := ledger.consumedNonces.insert nonce permitId }

def Ledger.withFence (repoPath : String) (fence : RootFence) : Ledger :=
  if repoPath = "" then ledger
  else { ledger with fencedRoots := ledger.fencedRoots.insert repoPath fence }

def LedgerSection.reads : LedgerSection → Bool
  | .restorationDetails _ _ | .incompleteActions | .terminalResultForIdempotency _
  | .terminalResultForReplay _ _ _ _ => true
  | _ => false

def issuedPermit? : (s : LedgerSection) → s.Value → Option Permit
  | .issue _, .issued permit => some permit
  | _, _ => none

/-- What a section that returned has done: the section, the permit it has newly
issued, the ledger after it. -/
inductive LedgerStep (ledger : Ledger) : LedgerSection → Option Permit → Ledger → Prop
  | read {s : LedgerSection} (h : s.reads = true) : LedgerStep ledger s none ledger
  | existing (input : IssueInput) : LedgerStep ledger (.issue input) none ledger
  | issue {input : IssueInput} {permit : Permit} {now : Instant}
      (fence : ledger.fencedRoots[permit.repoPath]? = none)
      (key : ledger.idempotency[permit.idempotencyKey]? = none)
      (id : ledger.permits[permit.permitId]? = none)
      (before : permit.expectedLedgerTipBefore = ledger.currentTip)
      (after : permit.ledgerTipAfter ≠ "") :
      LedgerStep ledger (.issue input) (some permit) (ledger.withIssued permit now)
  | claim {record updated : PermitRecord} {permit : Permit} {now : Instant}
      (found : ledger.permits[permit.permitId]? = some record)
      (bound : record.permit = permit) (prepared : record.state = .prepared)
      (nonce : ledger.consumedNonces[permit.authorityNonce]? = none)
      (move : RecordMove record updated .claimed none now) :
      LedgerStep ledger (.consume permit now) none
        ((ledger.withRecord permit.permitId updated).withNonce permit.authorityNonce
          permit.permitId)
  | transition {permitId : String} {record updated : PermitRecord} {newState : PermitState}
      {details terminalResult : Option Dict} {now : Instant}
      (found : ledger.permits[permitId]? = some record)
      (allowed : newState ∈ record.state.allowedTransitions)
      (result : terminalResult.isSome = newState.isTerminal)
      (move : RecordMove record updated newState terminalResult now) :
      LedgerStep ledger
        (.recordTransition permitId record.state newState details terminalResult now) none
        (ledger.withRecord permitId updated)
  | fence {permitId repoPath reason : String} {record updated : PermitRecord}
      {result : Dict} {now : Instant}
      (found : ledger.permits[permitId]? = some record)
      (move : RecordMove record updated .recoveryRequired (some result) now) :
      LedgerStep ledger (.fenceRecovery permitId record.state repoPath reason now) none
        ((ledger.withRecord permitId updated).withFence repoPath ⟨permitId, reason, now⟩)

section

variable {sha : Sha256} {authority : PermitAuthority} {ledger ledger' : Ledger} {permitId : String}
  {record : PermitRecord} {input : IssueInput} {now : Instant} {expectedState : PermitState}

theorem presentRecord_ok (h : presentRecord ledger permitId = .ok record) :
    ledger.permits[permitId]? = some record := by
  unfold presentRecord at h
  rw [Except.bind_ok_iff] at h
  obtain ⟨_, -, h⟩ := h
  split at h
  · next found hfound => rw [hfound, Except.ok.inj h]
  · cases h

theorem permitBody_ok {tipBefore nonce : String} {body : PermitBody}
    (h : permitBody sha authority input tipBefore permitId nonce = .ok body) :
    body.permitId = permitId ∧ body.authorityNonce = nonce ∧
      body.idempotencyKey = input.idempotencyKey ∧ body.repoPath = input.repoPath ∧
      body.targetPath = input.targetPath ∧
      body.targetPreimageDigest = input.targetPreimageDigest ∧
      body.targetPostimageDigest = input.targetPostimageDigest ∧
      body.expectedLedgerTipBefore = tipBefore := by
  simp only [permitBody, Except.bind_ok_iff] at h
  obtain ⟨_, -, _, -, _, -, _, -, _, -, _, -, _, -, _, -, _, -, _, -, _, -, _, -, _, -, _, -,
    _, -, h⟩ := h
  rw [← Except.ok.inj h]
  exact ⟨rfl, rfl, rfl, rfl, rfl, rfl, rfl, rfl⟩

/-- Issuing hands back the permit on file, or writes a new one under unused
names on a root that is not fenced. -/
theorem issueSection_step {outcome : IssueOutcome}
    (h : issueSection sha authority ledger input = .ok (outcome, ledger')) :
    LedgerStep ledger (.issue input) (issuedPermit? (.issue input) outcome) ledger' := by
  unfold issueSection at h
  rw [Except.bind_ok_iff] at h
  obtain ⟨_, hfence, h⟩ := h
  split at h
  · split at h
    · cases h
    · rw [Except.bind_ok_iff] at h
      obtain ⟨_, -, hreturn⟩ := h
      obtain ⟨rfl, rfl⟩ := Prod.mk.inj (Except.ok.inj hreturn)
      exact .existing input
  · next hkey =>
    simp only [Except.bind_ok_iff, rejectIf_ok] at h hfence
    obtain ⟨_, hid, _, -, body, hbody, _, -, _, -, hreturn⟩ := h
    obtain ⟨rfl, rfl⟩ := Prod.mk.inj (Except.ok.inj hreturn)
    obtain ⟨hpermitId, -, hidempotency, hroot, -, -, -, hbefore⟩ := permitBody_ok hbody
    have hsealed : (sealPermit sha authority body).toPermitBody = body := rfl
    have hstep : LedgerStep ledger (.issue input) (some (sealPermit sha authority body))
        (ledger.withIssued (sealPermit sha authority body) input.now) := by
      refine .issue ?_ ?_ ?_ ?_ (canonicalDigest_ne_empty sha _)
      · rw [hsealed, hroot]
        exact eq_none_of_isSome_eq_false hfence
      · rw [hsealed, hidempotency]
        exact hkey
      · rw [hsealed, hpermitId]
        exact eq_none_of_isSome_eq_false hid
      · exact hbefore
    simpa [Ledger.withIssued, issuedRecord, issuedPermit?, hsealed, hpermitId,
      hidempotency] using hstep

theorem consumeSection_step {permit : Permit} (h : consumeSection ledger permit now = .ok ledger') :
    LedgerStep ledger (.consume permit now) none ledger' := by
  simp only [consumeSection, Except.bind_ok_iff, rejectIf_ok] at h
  obtain ⟨record, hrecord, _, hbound, _, hprepared, _, hnonce, updated, hmove, hreturn⟩ := h
  rw [← Except.ok.inj hreturn]
  exact .claim (presentRecord_ok hrecord) (by simpa using hbound) (by simpa using hprepared)
    (eq_none_of_isSome_eq_false hnonce) (transitionRecord_ok hmove).2

theorem recordTransition_step {newState : PermitState} {details terminalResult : Option Dict}
    (h : recordTransition ledger permitId expectedState newState details terminalResult now =
      .ok (record, ledger')) :
    LedgerStep ledger
      (.recordTransition permitId expectedState newState details terminalResult now) none
      ledger' := by
  simp only [recordTransition, Except.bind_ok_iff, rejectIf_ok] at h
  obtain ⟨_, hallowed, _, hneeds, _, hrefuses, current, hcurrent, updated, hmove, hreturn⟩ := h
  obtain ⟨rfl, rfl⟩ := Prod.mk.inj (Except.ok.inj hreturn)
  obtain ⟨rfl, hmoved⟩ := transitionRecord_ok hmove
  refine .transition (presentRecord_ok hcurrent) (by simpa using hallowed) ?_ hmoved
  cases hterminal : newState.isTerminal <;> cases terminalResult <;>
    simp [hterminal] at hneeds hrefuses ⊢

theorem fenceSection_step {repoPath reason : String}
    (h : fenceSection ledger permitId expectedState repoPath reason now = .ok ledger') :
    LedgerStep ledger (.fenceRecovery permitId expectedState repoPath reason now) none
      ledger' := by
  unfold fenceSection at h
  split at h
  · cases h
  · next record hrecord =>
    simp only [Except.bind_ok_iff] at h
    obtain ⟨_, -, updated, hmove, h⟩ := h
    obtain ⟨rfl, hmoved⟩ := transitionRecord_ok hmove
    have hstep := @LedgerStep.fence ledger permitId repoPath reason record updated _ now
      hrecord hmoved
    by_cases hroot : repoPath = ""
    · simp only [hroot, ↓reduceIte] at h
      rw [← Except.ok.inj h]
      simpa [Ledger.withFence, Ledger.withRecord, hroot] using hstep
    · simp only [hroot, ↓reduceIte] at h
      rw [← Except.ok.inj h]
      simpa [Ledger.withFence, Ledger.withRecord, hroot] using hstep

theorem map_snd_ok {ε α β : Type} {x : Except ε α} {f : α → β × Ledger} {b : β}
    (h : x.map f = .ok (b, ledger')) : ∃ a, x = .ok a ∧ f a = (b, ledger') := by
  cases x with
  | error e => cases h
  | ok a => exact ⟨a, rfl, Except.ok.inj h⟩

/-- **What a section does.** -/
theorem ledgerCall_step {s : LedgerSection} {value : s.Value}
    (h : ledgerCall sha authority ledger s = .ok (value, ledger')) :
    LedgerStep ledger s (issuedPermit? s value) ledger' := by
  cases s with
  | issue input => exact issueSection_step h
  | consume permit now =>
    obtain ⟨_, hconsume, heq⟩ := map_snd_ok h
    rw [← (Prod.mk.inj heq).2]
    exact consumeSection_step hconsume
  | recordTransition permitId expectedState newState details terminalResult now =>
    exact recordTransition_step h
  | restorationDetails permitId expectedState =>
    obtain ⟨_, -, heq⟩ := map_snd_ok h
    rw [← (Prod.mk.inj heq).2]
    exact .read rfl
  | fenceRecovery permitId expectedState repoPath reason now =>
    obtain ⟨_, hfence, heq⟩ := map_snd_ok h
    rw [← (Prod.mk.inj heq).2]
    exact fenceSection_step hfence
  | incompleteActions =>
    rw [← (Prod.mk.inj (Except.ok.inj h)).2]
    exact .read rfl
  | terminalResultForIdempotency idempotencyKey
  | terminalResultForReplay decision evaluation gate idempotencyKey =>
    obtain ⟨_, -, heq⟩ := map_snd_ok h
    rw [← (Prod.mk.inj heq).2]
    exact .read rfl

end

namespace LedgerStep

variable {ledger ledger' : Ledger} {s : LedgerSection} {new : Option Permit} {id : String}
  {record : PermitRecord}

section

variable (hstep : LedgerStep ledger s new ledger')

include hstep

theorem record_cases
    (hfound : ledger.permits[id]? = some record) :
    ledger'.permits[id]? = some record ∨
      ∃ updated newState terminalResult now, ledger'.permits[id]? = some updated ∧
        RecordMove record updated newState terminalResult now ∧
        (newState ∈ record.state.allowedTransitions ∨
          newState = .recoveryRequired ∧ ∃ repoPath reason,
            s = .fenceRecovery id record.state repoPath reason now) := by
  cases hstep with
  | read _ | existing _ => exact .inl hfound
  | @issue input permit now hfence hkey hid hbefore hafter =>
    have hne : id ≠ permit.permitId := by
      rintro rfl
      rw [hid] at hfound
      cases hfound
    refine .inl ?_
    simp only [Ledger.withIssued, Table.get_insert_of_ne _ _ hne]
    exact hfound
  | @claim current updated permit now hcurrent hbound hprepared hnonce hmove =>
    by_cases heq : id = permit.permitId
    · subst heq
      rw [hfound] at hcurrent
      rw [← Option.some.inj hcurrent] at hprepared hmove
      refine .inr ⟨updated, _, _, now, by simp [Ledger.withRecord, Ledger.withNonce], hmove,
        .inl ?_⟩
      rw [hprepared]
      decide
    · refine .inl ?_
      simp only [Ledger.withRecord, Ledger.withNonce, Table.get_insert_of_ne _ _ heq]
      exact hfound
  | @transition permitId current updated newState details terminalResult now hcurrent hallowed
      hresult hmove =>
      by_cases heq : id = permitId
      · subst heq
        rw [hfound] at hcurrent
        rw [← Option.some.inj hcurrent] at hallowed hmove
        exact .inr ⟨updated, _, _, now, by simp [Ledger.withRecord], hmove, .inl hallowed⟩
      · refine .inl ?_
        simp only [Ledger.withRecord, Table.get_insert_of_ne _ _ heq]
        exact hfound
  | @fence permitId repoPath reason current updated result now hcurrent hmove =>
    have hpermits : ((ledger.withRecord permitId updated).withFence repoPath
        ⟨permitId, reason, now⟩).permits = ledger.permits.insert permitId updated := by
      unfold Ledger.withFence
      split <;> rfl
    rw [hpermits]
    by_cases heq : id = permitId
    · subst heq
      rw [hfound] at hcurrent
      have hsame := Option.some.inj hcurrent
      rw [← hsame] at hmove ⊢
      exact .inr ⟨updated, _, _, now, by simp, hmove, .inr ⟨rfl, repoPath, reason, rfl⟩⟩
    · refine .inl ?_
      rw [Table.get_insert_of_ne _ _ heq]
      exact hfound

theorem new_record
    (hnone : ledger.permits[id]? = none) (hfound : ledger'.permits[id]? = some record) :
    ∃ permit now, record = issuedRecord permit now ∧
      ledger.fencedRoots[permit.repoPath]? = none ∧ ∃ input, s = .issue input := by
  have replaced : ∀ {permitId : String} {current updated : PermitRecord},
      ledger.permits[permitId]? = some current →
      (ledger.permits.insert permitId updated)[id]? = some record → False := by
    intro permitId current updated hcurrent hget
    rw [Table.get_insert] at hget
    split at hget
    · next heq =>
      rw [heq, hcurrent] at hnone
      cases hnone
    · rw [hnone] at hget
      cases hget
  cases hstep with
  | read _ | existing _ =>
    rw [hnone] at hfound
    cases hfound
  | @issue input permit now hfence hkey hid hbefore hafter =>
    simp only [Ledger.withIssued, Table.get_insert] at hfound
    split at hfound
    · exact ⟨permit, now, (Option.some.inj hfound).symm, hfence, input, rfl⟩
    · rw [hnone] at hfound
      cases hfound
  | claim hcurrent _ _ _ _ | transition hcurrent _ _ _ => exact (replaced hcurrent hfound).elim
  | fence hcurrent _ =>
    unfold Ledger.withFence at hfound
    split at hfound <;> exact (replaced hcurrent hfound).elim

theorem fence_cases (root : String) :
    (ledger'.fencedRoots[root]?).isSome = (ledger.fencedRoots[root]?).isSome ∨
      (ledger'.fencedRoots[root]?).isSome = true ∧ root ≠ "" ∧
        ∃ permitId reason now current updated, ledger.permits[permitId]? = some current ∧
          ledger'.permits[permitId]? = some updated ∧ updated.state = .recoveryRequired ∧
          s = .fenceRecovery permitId current.state root reason now := by
  cases hstep with
  | read _ | existing _ | issue _ _ _ _ _ | claim _ _ _ _ _ | transition _ _ _ _ => exact .inl rfl
  | @fence permitId repoPath reason current updated result now hcurrent hmove =>
    unfold Ledger.withFence
    split
    · exact .inl rfl
    · next hnonempty =>
      by_cases hroot : root = repoPath
      · subst hroot
        exact .inr ⟨by simp, hnonempty, permitId, reason, now, current, updated, hcurrent,
          by simp [Ledger.withRecord], hmove.state, rfl⟩
      · refine .inl ?_
        simp only [Ledger.withRecord, Table.get_insert_of_ne _ _ hroot]

theorem nonce_cases :
    (ledger'.consumedNonces = ledger.consumedNonces ∧ ∀ permit now, s ≠ .consume permit now) ∨
      ∃ permit now, s = .consume permit now ∧
        ledger.consumedNonces[permit.authorityNonce]? = none ∧
        ledger'.consumedNonces =
          ledger.consumedNonces.insert permit.authorityNonce permit.permitId := by
  cases hstep with
  | @read s hreads =>
    refine .inl ⟨rfl, ?_⟩
    rintro permit now rfl
    cases hreads
  | existing input | issue _ _ _ _ _ => exact .inl ⟨rfl, by simp⟩
  | @claim record updated permit now hfound hbound hprepared hnonce hmove =>
    exact .inr ⟨permit, now, rfl, hnonce, rfl⟩
  | transition _ _ _ _ => exact .inl ⟨rfl, by simp⟩
  | fence _ _ =>
    refine .inl ⟨?_, by simp⟩
    unfold Ledger.withFence
    split <;> rfl

end

end LedgerStep

end OrbitalMesh
