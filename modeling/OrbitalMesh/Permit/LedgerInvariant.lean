import OrbitalMesh.Base.HashChain
import OrbitalMesh.Permit.LedgerStep
import Mathlib.Data.List.Chain

/-!
# The invariant of the permit ledger

`LedgerInvariant` ties together the histories, the nonce table, the idempotency
map and the hash chain of the permits.  It survives a section exactly when the
section is `Orderly` where it runs (`LedgerInvariant.step_iff`).  Two kinds of
sections are not: fencing a permit that is in no mutation state, and claiming a
permit past the nonce table by `record_transition`.
-/

namespace OrbitalMesh

namespace PermitState

/-- How far along a state is. -/
def rank : PermitState → Nat
  | .issued => 0
  | .prepared => 1
  | .claimed => 2
  | .applying => 3
  | .applied => 4
  | .verifying => 5
  | .committed | .aborted | .recoveryRequired => 6

/-- The pairs of `ALLOWED_TRANSITIONS`. -/
def Follows (s t : PermitState) : Prop := t ∈ s.allowedTransitions

instance (s t : PermitState) : Decidable (Follows s t) :=
  inferInstanceAs (Decidable (t ∈ s.allowedTransitions))

variable {s : PermitState} {t : PermitState}

theorem Follows.rank_lt (h : Follows s t) : s.rank < t.rank := by
  revert h
  cases s <;> cases t <;> decide

theorem Follows.not_terminal (h : Follows s t) : s.isTerminal = false := by
  revert h
  cases s <;> cases t <;> decide

theorem follows_recoveryRequired : Follows s .recoveryRequired ↔ s.isMutation = true := by
  cases s <;> decide

theorem isTerminal_of_isMutation (h : s.isMutation = true) : s.isTerminal = false := by
  revert h
  cases s <;> decide

end PermitState

theorem nodup_of_follows {states : List PermitState}
    (h : states.IsChain PermitState.Follows) : states.Nodup := by
  have hranks : states.IsChain fun s t => s.rank < t.rank :=
    h.imp fun s t hst => hst.rank_lt
  have hpairs : states.Pairwise fun s t => s.rank < t.rank :=
    (List.isChain_iff_pairwise (R := fun s t : PermitState => s.rank < t.rank)).mp hranks
  refine hpairs.imp ?_
  rintro s t hlt rfl
  exact absurd hlt (lt_irrefl _)

/-- One record is in order: filed under its own id, with a history along `ALLOWED_TRANSITIONS`,
and its nonce spent in its name once it is claimed. -/
structure RecordOrder (nonces : Table String) (permitId : String) (record : PermitRecord) :
    Prop where
  named : record.permit.permitId = permitId
  starts : record.states.head? = some .issued
  chained : record.states.IsChain PermitState.Follows
  ends : record.states.getLast? = some record.state
  result : record.terminalResult.isSome = record.state.isTerminal
  claimed : .claimed ∈ record.states → nonces[record.permit.authorityNonce]? = some permitId

namespace RecordOrder

variable {nonces nonces' : Table String} {permitId : String} {record updated : PermitRecord}
  {newState : PermitState} {terminalResult : Option Dict} {now : Instant}

theorem issued (nonces : Table String) (permit : Permit) (now : Instant) :
    RecordOrder nonces permit.permitId (issuedRecord permit now) where
  named := rfl
  starts := rfl
  chained := List.isChain_singleton _
  ends := rfl
  result := rfl
  claimed := by simp [issuedRecord, PermitRecord.states]

section

variable (h : RecordOrder nonces permitId record)

include h

theorem move
    (hmove : RecordMove record updated newState terminalResult now)
    (hfollows : PermitState.Follows record.state newState)
    (hresult : terminalResult.isSome = newState.isTerminal)
    (hnonces : ∀ (nonce id : String), nonces[nonce]? = some id → nonces'[nonce]? = some id)
    (hclaim : newState = .claimed →
      nonces'[record.permit.authorityNonce]? = some permitId) :
    RecordOrder nonces' permitId updated := by
  have hopen : record.terminalResult = none := by
    have hnone := h.result
    rw [hfollows.not_terminal] at hnone
    exact eq_none_of_isSome_eq_false hnone
  constructor
  · rw [hmove.permit]
    exact h.named
  · rw [hmove.states, List.head?_append, h.starts]
    rfl
  · rw [hmove.states]
    refine h.chained.append (List.isChain_singleton _) ?_
    simp [h.ends, hfollows]
  · rw [hmove.states, hmove.state]
    simp
  · rw [hmove.result, hmove.state, hopen]
    cases terminalResult <;> simpa using hresult
  · intro hmem
    rw [hmove.states, List.mem_append, List.mem_singleton] at hmem
    rw [hmove.permit]
    rcases hmem with hmem | heq
    · exact hnonces _ _ (h.claimed hmem)
    · exact hclaim heq.symm

theorem rank_le {s : PermitState}
    (hmem : s ∈ record.states) : s.rank ≤ record.state.rank := by
  obtain ⟨start, hstates⟩ := List.getLast?_eq_some_iff.mp h.ends
  have hranks : record.states.IsChain fun s t => s.rank < t.rank :=
    h.chained.imp fun s t hst => hst.rank_lt
  have hpairs := (List.isChain_iff_pairwise
    (R := fun s t : PermitState => s.rank < t.rank)).mp hranks
  rw [hstates] at hmem hpairs
  rcases List.mem_append.mp hmem with hfirst | hlast
  · exact ((List.pairwise_append.mp hpairs).2.2 s hfirst _ (by simp)).le
  · rw [List.mem_singleton.mp hlast]

theorem count_le (s : PermitState) : record.states.count s ≤ 1 :=
  List.nodup_iff_count.mp (nodup_of_follows h.chained) s

end

end RecordOrder

/-- The ledger is in order, and `order` lists its permits as they were issued. -/
structure LedgerInvariant (order : List Permit) (ledger : Ledger) : Prop where
  records : ∀ id record, ledger.permits[id]? = some record →
    RecordOrder ledger.consumedNonces id record
  spent : ∀ (nonce id : String), ledger.consumedNonces[nonce]? = some id →
    ∃ record, ledger.permits[id]? = some record ∧ record.permit.authorityNonce = nonce ∧
      .claimed ∈ record.states
  idempotency : IndexOf ledger.idempotency ledger.permits (·.permit.idempotencyKey)
  listed : ∀ permit, permit ∈ order ↔
    ∃ (id : String) (record : PermitRecord), ledger.permits[id]? = some record ∧
      record.permit = permit
  nodup : (order.map (·.permitId)).Nodup
  linked : HashChain.Linked (·.expectedLedgerTipBefore) (·.ledgerTipAfter) genesisDigest order
    ledger.currentTip
  tip : ledger.tip = order.getLast?.map (·.ledgerTipAfter)

/-- The sections that respect the ledger where they run.  A permit is claimed
through the nonce table only, and recovery is for mutation states. -/
def Orderly (ledger : Ledger) : LedgerSection → Prop
  | .recordTransition permitId expectedState newState _ _ _ =>
    ∀ record, ledger.permits[permitId]? = some record → record.state = expectedState →
      ¬ (expectedState = .prepared ∧ newState = .claimed)
  | .fenceRecovery permitId expectedState _ _ _ =>
    ∀ record, ledger.permits[permitId]? = some record → record.state = expectedState →
      expectedState.isMutation = true
  | _ => True

instance (ledger : Ledger) (call : LedgerSection) : Decidable (Orderly ledger call) := by
  unfold Orderly
  split <;> infer_instance

namespace LedgerInvariant

variable {order : List Permit} {ledger ledger' : Ledger} {s : LedgerSection}
  {new : Option Permit}

theorem empty : LedgerInvariant [] .empty where
  records := by simp [Ledger.empty]
  spent := by simp [Ledger.empty]
  idempotency := by
    intro k id
    simp [Ledger.empty]
  listed := by simp [Ledger.empty]
  nodup := List.nodup_nil
  linked := rfl
  tip := rfl

variable {record : PermitRecord}

section

variable (h : LedgerInvariant order ledger)

include h

variable {id : String} {updated : PermitRecord}

theorem replace (hfound : ledger.permits[id]? = some record)
    (hpermit : updated.permit = record.permit)
    (hpermits : ledger'.permits = ledger.permits.insert id updated)
    (hidempotency : ledger'.idempotency = ledger.idempotency) (htip : ledger'.tip = ledger.tip)
    (hnonces : ∀ (nonce id : String), ledger.consumedNonces[nonce]? = some id →
      ledger'.consumedNonces[nonce]? = some id)
    (hupdated : RecordOrder ledger'.consumedNonces id updated)
    (hspent : ∀ (nonce id' : String), ledger'.consumedNonces[nonce]? = some id' →
      (ledger.consumedNonces[nonce]? = some id' ∧ (id' = id → .claimed ∈ updated.states)) ∨
        (id' = id ∧ record.permit.authorityNonce = nonce ∧ .claimed ∈ updated.states)) :
    LedgerInvariant order ledger' := by
  have hcurrent : ledger'.currentTip = ledger.currentTip := by
    simp [Ledger.currentTip, htip]
  have hpermitsOf : ∀ permit,
      (∃ (id' : String) (record' : PermitRecord), ledger'.permits[id']? = some record' ∧
        record'.permit = permit) ↔
      ∃ (id' : String) (record' : PermitRecord), ledger.permits[id']? = some record' ∧
        record'.permit = permit := by
    intro permit
    rw [hpermits]
    constructor
    · rintro ⟨id', record', hget, rfl⟩
      rw [Table.get_insert] at hget
      split at hget
      · rw [← Option.some.inj hget]
        exact ⟨id, record, hfound, hpermit.symm⟩
      · exact ⟨id', record', hget, rfl⟩
    · rintro ⟨id', record', hget, rfl⟩
      by_cases heq : id' = id
      · subst heq
        rw [hfound] at hget
        refine ⟨id', updated, by simp, ?_⟩
        rw [hpermit, Option.some.inj hget]
      · exact ⟨id', record', by rw [Table.get_insert_of_ne _ _ heq]; exact hget, rfl⟩
  constructor
  · intro id' record' hget
    rw [hpermits, Table.get_insert] at hget
    split at hget
    · next heq =>
      rw [← Option.some.inj hget, heq]
      exact hupdated
    · have hold := h.records id' record' hget
      exact { hold with claimed := fun hmem => hnonces _ _ (hold.claimed hmem) }
  · intro nonce id' hget
    rw [hpermits]
    rcases hspent nonce id' hget with ⟨hold, hsame⟩ | ⟨rfl, hnonce, hclaimed⟩
    · obtain ⟨record', hrecord', hnonce, hclaimed⟩ := h.spent nonce id' hold
      by_cases heq : id' = id
      · subst heq
        rw [hfound] at hrecord'
        refine ⟨updated, by simp, ?_, hsame rfl⟩
        rw [hpermit, Option.some.inj hrecord']
        exact hnonce
      · exact ⟨record', by rw [Table.get_insert_of_ne _ _ heq]; exact hrecord', hnonce, hclaimed⟩
    · exact ⟨updated, by simp, by rw [hpermit]; exact hnonce, hclaimed⟩
  · rw [hidempotency, hpermits]
    exact h.idempotency.replace hfound (by rw [hpermit])
  · intro permit
    rw [h.listed permit, hpermitsOf permit]
  · exact h.nodup
  · rw [hcurrent]
    exact h.linked
  · rw [htip]
    exact h.tip

theorem issue {permit : Permit} (now : Instant)
    (hkey : ledger.idempotency[permit.idempotencyKey]? = none)
    (hid : ledger.permits[permit.permitId]? = none)
    (hbefore : permit.expectedLedgerTipBefore = ledger.currentTip)
    (hafter : permit.ledgerTipAfter ≠ "") :
    LedgerInvariant (order ++ [permit]) (ledger.withIssued permit now) := by
  have hcurrent : (ledger.withIssued permit now).currentTip = permit.ledgerTipAfter := by
    simp [Ledger.withIssued, Ledger.currentTip, hafter]
  constructor
  · intro id record hget
    simp only [Ledger.withIssued, Table.get_insert] at hget
    split at hget
    · next heq =>
      rw [← Option.some.inj hget, heq]
      exact .issued _ permit now
    · exact h.records id record hget
  · intro nonce id hget
    obtain ⟨record, hrecord, hnonce, hclaimed⟩ := h.spent nonce id hget
    have hne : id ≠ permit.permitId := by
      rintro rfl
      rw [hid] at hrecord
      cases hrecord
    refine ⟨record, ?_, hnonce, hclaimed⟩
    simp only [Ledger.withIssued, Table.get_insert_of_ne _ _ hne]
    exact hrecord
  · exact h.idempotency.insert_new (issuedRecord permit now) hid hkey
  · intro other
    rw [List.mem_append, List.mem_singleton, h.listed other]
    simp only [Ledger.withIssued]
    constructor
    · rintro (⟨id, record, hget, rfl⟩ | rfl)
      · have hne : id ≠ permit.permitId := by
          rintro rfl
          rw [hid] at hget
          cases hget
        exact ⟨id, record, by rw [Table.get_insert_of_ne _ _ hne]; exact hget, rfl⟩
      · exact ⟨other.permitId, issuedRecord other now, by simp, rfl⟩
    · rintro ⟨id, record, hget, rfl⟩
      rw [Table.get_insert] at hget
      split at hget
      · rw [← Option.some.inj hget]
        exact .inr rfl
      · exact .inl ⟨id, record, hget, rfl⟩
  · rw [List.map_append, List.nodup_append]
    refine ⟨h.nodup, by simp, ?_⟩
    rintro id hmem _ hnew rfl
    obtain ⟨other, hother, hsame⟩ := List.mem_map.mp hmem
    obtain ⟨id', record, hget, hpermit⟩ := (h.listed other).mp hother
    have hnamed := (h.records id' record hget).named
    have hid' : id' = permit.permitId := by
      rw [← hnamed, hpermit, hsame]
      simpa using hnew
    rw [hid', hid] at hget
    cases hget
  · rw [hcurrent, HashChain.linked_concat, hbefore]
    exact ⟨h.linked, rfl⟩
  · simp [Ledger.withIssued]

theorem unclaimed (hfound : ledger.permits[id]? = some record) (hstate : record.state = .prepared) :
    ledger.consumedNonces[record.permit.authorityNonce]? ≠ some id := by
  intro hspent
  obtain ⟨record', hrecord', -, hclaimed⟩ := h.spent _ _ hspent
  rw [hfound] at hrecord'
  rw [← Option.some.inj hrecord'] at hclaimed
  have hrank := (h.records id record hfound).rank_le hclaimed
  rw [hstate] at hrank
  exact absurd hrank (by decide)

theorem move {newState : PermitState} {terminalResult : Option Dict} {now : Instant}
    (hfound : ledger.permits[id]? = some record)
    (hmove : RecordMove record updated newState terminalResult now)
    (hfollows : PermitState.Follows record.state newState)
    (hresult : terminalResult.isSome = newState.isTerminal)
    (hclaim : ¬ (record.state = .prepared ∧ newState = .claimed))
    (hpermits : ledger'.permits = ledger.permits.insert id updated)
    (hidempotency : ledger'.idempotency = ledger.idempotency) (htip : ledger'.tip = ledger.tip)
    (hnonces : ledger'.consumedNonces = ledger.consumedNonces) : LedgerInvariant order ledger' := by
  have hprepared : newState = .claimed → record.state = .prepared := by
    rintro rfl
    revert hfollows
    cases record.state <;> decide
  refine h.replace hfound hmove.permit hpermits hidempotency htip ?_ ?_ ?_
  · intro nonce id' hget
    rw [hnonces]
    exact hget
  · refine (h.records id record hfound).move hmove hfollows hresult ?_ ?_
    · intro nonce id' hget
      rw [hnonces]
      exact hget
    · intro heq
      exact absurd ⟨hprepared heq, heq⟩ hclaim
  · intro nonce id' hget
    rw [hnonces] at hget
    refine .inl ⟨hget, ?_⟩
    rintro rfl
    obtain ⟨record', hrecord', -, hclaimed⟩ := h.spent nonce id' hget
    rw [hfound] at hrecord'
    rw [hmove.states, Option.some.inj hrecord']
    exact List.mem_append_left _ hclaimed

/-- **One section.**  From a ledger in order, a section that returns leaves the
ledger in order exactly when it is orderly. -/
theorem step_iff (hstep : LedgerStep ledger s new ledger') :
    LedgerInvariant (order ++ new.toList) ledger' ↔ Orderly ledger s := by
  cases hstep with
  | @read s hreads =>
    have horderly : Orderly ledger s := by
      cases s <;> trivial
    simpa [horderly] using h
  | existing input => simpa [Orderly] using h
  | @issue input permit now hfence hkey hid hbefore hafter =>
    have hnext := h.issue now hkey hid hbefore hafter
    simpa [Orderly] using hnext
  | @claim record updated permit now hfound hbound hprepared hnonce hmove =>
    have hfollows : PermitState.Follows record.state .claimed := by
      rw [hprepared]
      decide
    have hkeep : ∀ (nonce id : String), ledger.consumedNonces[nonce]? = some id →
        (ledger.consumedNonces.insert permit.authorityNonce permit.permitId)[nonce]? =
          some id := by
      intro nonce id hget
      have hne : nonce ≠ permit.authorityNonce := by
        rintro rfl
        rw [hnonce] at hget
        cases hget
      rw [Table.get_insert_of_ne _ _ hne]
      exact hget
    have hclaimed : .claimed ∈ updated.states := by simp [hmove.states]
    simp only [Orderly, iff_true, Option.toList_none, List.append_nil]
    refine h.replace hfound hmove.permit rfl rfl rfl hkeep ?_ ?_
    · refine (h.records _ record hfound).move hmove hfollows rfl hkeep fun _ => ?_
      simp [Ledger.withNonce, Ledger.withRecord, hbound]
    · intro nonce id hget
      simp only [Ledger.withNonce, Ledger.withRecord, Table.get_insert] at hget
      split at hget
      · next heq =>
        exact .inr ⟨(Option.some.inj hget).symm, by rw [hbound, heq], hclaimed⟩
      · exact .inl ⟨hget, fun _ => hclaimed⟩
  | @transition permitId record updated newState details terminalResult now hfound hallowed
      hresult hmove =>
      simp only [Option.toList_none, List.append_nil]
      constructor
      · rintro hnext current hcurrent - ⟨hprepared, hclaimed⟩
        rw [hclaimed] at hmove
        have hupdated := hnext.records permitId updated (by simp [Ledger.withRecord])
        have hspent := hupdated.claimed (by simp [hmove.states])
        rw [hmove.permit] at hspent
        exact h.unclaimed hfound hprepared hspent
      · intro horderly
        exact h.move hfound hmove hallowed hresult (horderly record hfound rfl) rfl rfl rfl rfl
  | @fence permitId repoPath reason record updated result now hfound hmove =>
    simp only [Option.toList_none, List.append_nil]
    have hfenced : ∀ fence, ((ledger.withRecord permitId updated).withFence repoPath
        fence).permits = ledger.permits.insert permitId updated := by
      intro fence
      unfold Ledger.withFence
      split <;> rfl
    constructor
    · intro hnext current hcurrent _
      have hupdated := hnext.records permitId updated (by simp [hfenced])
      have hchained := hupdated.chained
      rw [hmove.states, List.isChain_append] at hchained
      have hfollows := hchained.2.2 _ (h.records _ _ hfound).ends _ rfl
      exact PermitState.follows_recoveryRequired.mp hfollows
    · intro horderly
      have hmutation := horderly record hfound rfl
      refine h.move hfound hmove (PermitState.follows_recoveryRequired.mpr hmutation) rfl ?_
        (hfenced _) ?_ ?_ ?_
      · rintro ⟨-, heq⟩
        cases heq
      all_goals
        unfold Ledger.withFence
        split <;> rfl

end

end LedgerInvariant

theorem LedgerStep.terminal_stays {ledger ledger' : Ledger} {s : LedgerSection}
    {new : Option Permit} {id : String} {record : PermitRecord}
    (hstep : LedgerStep ledger s new ledger') (horderly : Orderly ledger s)
    (hfound : ledger.permits[id]? = some record) (hterminal : record.state.isTerminal = true) :
    ledger'.permits[id]? = some record := by
  rcases hstep.record_cases hfound with hsame | ⟨_, newState, _, now, -, -, hcases⟩
  · exact hsame
  · rcases hcases with hallowed | ⟨-, repoPath, reason, rfl⟩
    · have hopen := PermitState.Follows.not_terminal hallowed
      rw [hterminal] at hopen
      cases hopen
    · have hopen := PermitState.isTerminal_of_isMutation (horderly record hfound rfl)
      rw [hterminal] at hopen
      cases hopen

end OrbitalMesh
