import OrbitalMesh.Authority.Sections
import OrbitalMesh.Authority.StoreInvariant
import OrbitalMesh.Permit.LedgerRuns

/-!
# At most one mutation per action

Any number of requests run interleaved with each other and with recoveries after
restarts; each may die at any moment.  For every idempotency key, the record is marked
as dispatched at most once, the patch is promoted at most once, and the permit is
claimed at most once.

Marking a record as dispatched earns one credit, a promotion for its key spends one.
The log of a record has room for one dispatch, so at most one credit is ever earned.
-/

namespace OrbitalMesh

open Atomic Raising

/-- What runs on the service's machine: requests, and the recovery that a
restart begins with. -/
inductive ServiceProgram (host : Host) : Program Unit → Prop
  | request (config : ServiceConfig) (request : Dict) (peerUid peerGid : Int) :
      ServiceProgram host (ignored (handleRequest host config request peerUid peerGid))
  | restart : ServiceProgram host (ignored (recoverIncompleteActions host))

def WorldEvent.dispatched? : WorldEvent → Option String
  | ⟨.authority (.markDispatched _ _ _ _), .ok (.record record)⟩ => some record.idempotencyKey
  | _ => none

/-- The idempotency key for which an event has reached `promote`. -/
def WorldEvent.promoted? : WorldEvent → Option String
  | ⟨.promote idempotencyKey _ _, _⟩ => some idempotencyKey
  | _ => none

/-- The nonce that an event has written to `consumed_nonces`. -/
def WorldEvent.spent? : WorldEvent → Option String
  | ⟨.ledger (.consume permit _), .ok _⟩ => some permit.authorityNonce
  | _ => none

variable (shows : WorldEvent → Option String)

def occurrences (key : String) (trace : List WorldEvent) :
    Nat :=
  (trace.filterMap shows).count key

def executionKey (idempotencyKey : String) : String := idempotencyKey ++ ":execute"

theorem occurrences_concat (key : String)
    (trace : List WorldEvent) (event : WorldEvent) :
    occurrences shows key (trace ++ [event]) =
      occurrences shows key trace + if shows event = some key then 1 else 0 := by
  unfold occurrences
  cases hshown : shows event with
  | none => simp [hshown]
  | some other =>
    by_cases heq : other = key
    · simp [hshown, heq]
    · simp [hshown, heq]

def KeepsIdentity (sha : Sha256) (w w' : World) : Prop :=
  StoreInvariant sha w.authority → StoreInvariant sha w'.authority ∧
    ∀ (id : String) record, w.authority.records[id]? = some record →
      ∃ record', w'.authority.records[id]? = some record' ∧
        record'.toIssueRequest = record.toIssueRequest

theorem KeepsIdentity.refl (sha : Sha256) (w : World) : KeepsIdentity sha w w :=
  fun hinv => ⟨hinv, fun _ record h => ⟨record, h, rfl⟩⟩

variable {sha : Sha256} {w w' : World} {host : Host} {record : AuthorityRecord} {key : String}
  {trace : List WorldEvent}

theorem KeepsIdentity.trans {u v : World} (huv : KeepsIdentity sha u v)
    (hvw : KeepsIdentity sha v w) : KeepsIdentity sha u w := by
  intro hu
  obtain ⟨hv, hfirst⟩ := huv hu
  obtain ⟨hw, hsecond⟩ := hvw hv
  refine ⟨hw, fun id record hrecord => ?_⟩
  obtain ⟨record', hrecord', hsame⟩ := hfirst id record hrecord
  obtain ⟨record'', hrecord'', hsame'⟩ := hsecond id record' hrecord'
  exact ⟨record'', hrecord'', hsame'.trans hsame⟩

variable {op : Section} {answer : op.Answer} {root root' : AuthorityRoot} {id nonce : String}

theorem worldStep_authority (h : worldStep host op w answer w') :
    w'.authority = w.authority ∨
      ∃ call, op = .authority call ∧
        w'.authority = fileNext host.sha w.authority call := by
  cases op with
  | now | token | authorityClock => exact .inl (by rw [h])
  | authority call =>
    refine .inr ⟨call, rfl, ?_⟩
    simp only [worldStep] at h
    cases hcall : fileCall host.sha w.authority call with
    | ok result | error e =>
      rw [hcall] at h
      simp only [fileNext, hcall, h.2]
  | ledger call =>
    simp only [worldStep] at h
    split at h <;> exact .inl (by rw [h.2])
  | file call | consult question | promote idempotencyKey permitId prepared =>
    obtain ⟨_, -, rfl⟩ := h
    exact .inl rfl

theorem RootStep.identity (hstep : RootStep sha root root') (h : root.records[id]? = some record) :
    ∃ record', root'.records[id]? = some record' ∧
      record'.toIssueRequest = record.toIssueRequest := by
  cases hstep with
  | stay => exact ⟨record, h, rfl⟩
  | @issue request _ _ _ _ _ _ _ hid =>
    have hne : id ≠ request.authorityId := by
      rintro rfl
      rw [hid] at h
      cases h
    exact ⟨record, by rw [Table.get_insert_of_ne _ _ hne]; exact h, rfl⟩
  | @advance current updated _ _ hcurrent _ hmove =>
    by_cases heq : id = updated.authorityId
    · subst heq
      refine ⟨updated, Table.get_insert_self _ _ _, ?_⟩
      rw [hmove.identity, Option.some.inj (hcurrent.symm.trans h)]
    · exact ⟨record, by rw [Table.get_insert_of_ne _ _ heq]; exact h, rfl⟩

theorem worldStep_keepsIdentity (h : worldStep host op w answer w') :
    KeepsIdentity host.sha w w' := by
  intro hinv
  rcases worldStep_authority h with hsame | ⟨call, -, hnext⟩
  · rw [hsame]
    exact ⟨hinv, fun _ record hrecord => ⟨record, hrecord, rfl⟩⟩
  · have hstep := hinv.fileNext_step call
    rw [hnext]
    exact ⟨hinv.step hstep, fun _ _ hrecord => hstep.identity hrecord⟩

def Filed (sha : Sha256) (key id : String) (w : World) : Prop :=
  StoreInvariant sha w.authority ∧
    ∃ record, w.authority.records[id]? = some record ∧ record.idempotencyKey = key

theorem Filed.keeps (h : Filed sha key id w) (hkeeps : KeepsIdentity sha w w') :
    Filed sha key id w' := by
  obtain ⟨hinv, record, hrecord, hkey⟩ := h
  obtain ⟨hinv', hstays⟩ := hkeeps hinv
  obtain ⟨record', hrecord', hsame⟩ := hstays id record hrecord
  exact ⟨hinv', record', hrecord', by rw [hsame]; exact hkey⟩

section

variable {sha : Sha256} {root root' : AuthorityRoot} {record : AuthorityRecord}
  {authorityId : String}

theorem issueOrGet_filed (hinv : StoreInvariant sha root) {idempotencyKey nonce : String}
    {actionBinding : Json} {now : Reading}
    (h : fileIssueOrGet sha root authorityId idempotencyKey nonce actionBinding now =
      .ok (record, root')) :
    root'.records[record.authorityId]? = some record ∧
      record.idempotencyKey = idempotencyKey := by
  obtain ⟨request, hrequest, hcases⟩ := fileIssueOrGet_ok h
  obtain ⟨rfl, -⟩ := validatedIssueRequest_ok hrequest
  rcases hcases with ⟨existingId, -, hrecord, hsame, rfl⟩ | ⟨-, -, event, hissue, rfl⟩
  · obtain ⟨hfound, -⟩ := requiredRecord_ok hrecord
    obtain ⟨hid, -⟩ := hinv.records _ _ hfound
    exact ⟨by rw [hid]; exact hfound, (requireSameIssue_ok hsame).2.1⟩
  · have hidentity := newIssue_identity hissue
    refine ⟨?_, by rw [hidentity]⟩
    rw [hidentity]
    exact Table.get_insert_self _ _ _

theorem transition_filed (hinv : StoreInvariant sha root)
    {f : AuthorityRecord → Except PyError (AuthorityRecord × EventReceipt)}
    (hstep : ∀ current updated event, f current = .ok (updated, event) →
      AuthorityStep sha current updated event)
    (h : fileTransition sha root authorityId f = .ok (record, root')) :
    ∃ current, root.records[authorityId]? = some current ∧
      record.toIssueRequest = current.toIssueRequest ∧ record.authorityId = authorityId ∧
      root'.records[record.authorityId]? = some record := by
  obtain ⟨current, event, events, hcurrent, hf, -, rfl⟩ := fileTransition_ok h
  obtain ⟨hfound, -⟩ := requiredRecord_ok hcurrent
  obtain ⟨hid, -⟩ := hinv.records _ _ hfound
  have hidentity := (hstep current record event hf).identity
  refine ⟨current, hfound, hidentity, ?_, Table.get_insert_self _ _ _⟩
  rw [hidentity]
  exact hid

end

theorem authority_answer {call : AuthorityCall} {answer : Except PyError AuthorityAnswer}
    (h : worldStep host (.authority call) w answer w')
    (hanswer : (answer >>= answeredRecord) = .ok record) :
    answer = .ok (.record record) ∧
      fileCall host.sha w.authority call = .ok (.record record, w'.authority) := by
  obtain ⟨value, rfl, hvalue⟩ := bind_ok hanswer
  have hrecord : value = .record record := by
    cases value with
    | record stored => rw [Except.ok.inj hvalue]
    | view view => cases hvalue
  simp only [worldStep] at h
  split at h
  · next value' root hcall =>
    obtain ⟨heq, rfl⟩ := h
    rw [← Except.ok.inj heq, hrecord] at hcall
    exact ⟨by rw [hrecord], hcall⟩
  · cases h.1

def promotionCost (key : String) : Section → Nat
  | .promote idempotencyKey _ _ => if idempotencyKey = key then 1 else 0
  | _ => 0

def promotionRight (host : Host) (key : String) :
    Discipline Section Section.Answer World where
  step := worldStep host
  rely := KeepsIdentity host.sha
  allowed _ _ := True
  earn op answer :=
    if WorldEvent.dispatched? ⟨op, answer⟩ = some (executionKey key) then 1 else 0
  spend op answer := if WorldEvent.promoted? ⟨op, answer⟩ = some key then 1 else 0
  rely_refl := KeepsIdentity.refl host.sha
  rely_trans := KeepsIdentity.trans

theorem spend_le_cost (op : Section) (answer : op.Answer) :
    (promotionRight host key).spend op answer ≤ promotionCost key op := by
  cases op <;> simp [promotionRight, promotionCost, WorldEvent.promoted?]

section

variable {host : Host} {key : String} {w : World} {c : Nat} {α : Type}

theorem wp_budget {P : Section → Prop} {p : Program α} {n : Nat}
    (h : p.Within P (promotionCost key) n) (hc : n ≤ c) :
    wp (promotionRight host key) p (fun _ c' t => c ≤ c' + n ∧ KeepsIdentity host.sha w t) c w :=
  wp_of_within h hc (fun _ _ => trivial) spend_le_cost fun _ _ _ _ => worldStep_keepsIdentity

theorem wp_onRecord {call : Reading → AuthorityCall}
    {Q : Except PyError AuthorityRecord → Nat → World → Prop}
    (h : ∀ now u answer v t, KeepsIdentity host.sha w u →
      worldStep host (.authority (call now)) u answer v → KeepsIdentity host.sha v t →
      Q (answer >>= answeredRecord)
        (c + (promotionRight host key).earn (.authority (call now)) answer) t) :
    wp (promotionRight host key) (onRecord call) Q c w := by
  have hfree : ∀ op answer, promotionCost key op = 0 →
      (promotionRight host key).spend op answer = 0 := by
    intro op answer hzero
    have hle : (promotionRight host key).spend op answer ≤ promotionCost key op :=
      spend_le_cost op answer
    omega
  refine wp_andThen (wp_andThen ?_)
  intro s hs
  refine ⟨trivial, fun now u hclock => ?_⟩
  have hu : u = s := hclock
  subst hu
  refine ⟨by rw [hfree _ _ rfl]; exact Nat.zero_le _, ?_⟩
  intro t ht u hu
  refine ⟨trivial, fun answer v hstep => ?_⟩
  have hearn : (promotionRight host key).earn .authorityClock now = 0 := rfl
  have hkeeps := (KeepsIdentity.trans hs ht).trans hu
  refine ⟨by rw [hfree _ _ rfl]; exact Nat.zero_le _, ?_⟩
  intro t' ht'
  cases answer with
  | error e => exact fun t'' ht'' => h now u _ v t'' hkeeps hstep (KeepsIdentity.trans ht' ht'')
  | ok value => exact fun t'' ht'' => h now u _ v t'' hkeeps hstep (KeepsIdentity.trans ht' ht'')

theorem wp_tryExcept {classes : List ErrorClass} {body : Py α} {K : α → Nat → World → Prop}
    (h : wp (promotionRight host key) body
      (fun outcome c t => ∀ a, outcome = .ok a → ∀ t', KeepsIdentity host.sha t t' → K a c t')
      c w) :
    wp (promotionRight host key) (tryExcept classes body)
      (fun outcome c t => ∀ a, outcome = .ok (.ok a) → K a c t) c w := by
  refine wp_bind (wp.mono h ?_)
  rintro (e | a) c' t hK
  · rintro t' ht' a ha
    split at ha <;> cases ha
  · rintro t' ht' a' ha'
    exact hK a' (by cases ha'; rfl) t' ht'

theorem Filed.transition {call : AuthorityCall} {id : String} {u v : World}
    {f : AuthorityRecord → Except PyError (AuthorityRecord × EventReceipt)}
    {answer : Except PyError AuthorityAnswer} {updated : AuthorityRecord}
    (hfiled : Filed host.sha (executionKey key) id u)
    (hcall : ∀ root, fileCall host.sha root call = answerRecord (fileTransition host.sha root id f))
    (hstep : ∀ current updated event, f current = .ok (updated, event) →
      AuthorityStep host.sha current updated event)
    (hanswer : worldStep host (.authority call) u answer v)
    (hupdated : (answer >>= answeredRecord) = .ok updated) :
    answer = .ok (.record updated) ∧ updated.idempotencyKey = executionKey key ∧
      Filed host.sha (executionKey key) updated.authorityId v := by
  obtain ⟨hrecord, hfile⟩ := authority_answer hanswer hupdated
  obtain ⟨hinv, current, hcurrent, hkey⟩ := hfiled
  rw [hcall] at hfile
  obtain ⟨stored, hok, hstored⟩ := StoreInvariant.answerRecord_ok hfile
  cases hstored
  obtain ⟨current', hcurrent', hsame, hid, hfound⟩ := transition_filed hinv hstep hok
  have heq : current' = current := Option.some.inj (hcurrent'.symm.trans hcurrent)
  have hkey' : updated.idempotencyKey = executionKey key := by
    rw [hsame, heq]
    exact hkey
  have hinv' := (worldStep_keepsIdentity hanswer hinv).1
  exact ⟨hrecord, hkey', hinv', updated, hfound, hkey'⟩

variable {order : AuthorityOrder} {record : AuthorityRecord} (config : ServiceConfig)

theorem wp_issueAuthorityLifecycle (hinv : StoreInvariant host.sha w.authority)
    (hkey : lifecycleKey order.idempotencyKey order.operation = executionKey key) :
    wp (promotionRight host key) (issueAuthorityLifecycle host config order)
      (fun outcome _ t => ∀ record, outcome = .ok record →
        Filed host.sha (executionKey key) record.authorityId t) c w := by
  refine wp_onRecord fun now u answer v t hwu hanswer hvt record hrecord => ?_
  obtain ⟨-, hfile⟩ := authority_answer hanswer hrecord
  obtain ⟨hinvu, -⟩ := hwu hinv
  obtain ⟨stored, hok, hstored⟩ := StoreInvariant.answerRecord_ok hfile
  cases hstored
  obtain ⟨hfound, hsame⟩ := issueOrGet_filed hinvu hok
  have hfiled : Filed host.sha (executionKey key) record.authorityId v :=
    ⟨(worldStep_keepsIdentity hanswer hinvu).1, record, hfound, hsame.trans hkey⟩
  exact hfiled.keeps hvt

theorem wp_leaseForDispatch (leaseId : String)
    (hfiled : Filed host.sha (executionKey key) record.authorityId w) :
    wp (promotionRight host key) (leaseForDispatch record leaseId)
      (fun outcome _ t => ∀ leased, outcome = .ok leased →
        Filed host.sha (executionKey key) leased.authorityId t) c w := by
  refine wp_onRecord fun now u answer v t hwu hanswer hvt leased hleased => ?_
  obtain ⟨-, -, hfiled'⟩ := (hfiled.keeps hwu).transition (fun _ => rfl)
    (fun _ _ _ => leaseTransition_step) hanswer hleased
  exact hfiled'.keeps hvt

theorem wp_markLifecycleDispatched (leaseId : String)
    (hfiled : Filed host.sha (executionKey key) record.authorityId w) :
    wp (promotionRight host key) (markLifecycleDispatched record leaseId)
      (fun outcome c' _ => ∀ dispatched, outcome = .ok dispatched → c + 1 ≤ c') c w := by
  refine wp_onRecord fun now u answer v t hwu hanswer hvt dispatched hdispatched => ?_
  obtain ⟨rfl, hkey, -⟩ := (hfiled.keeps hwu).transition (fun _ => rfl)
    (fun _ _ _ => dispatchTransition_step) hanswer hdispatched
  simp [promotionRight, WorldEvent.dispatched?, hkey]

theorem routine_free (key : String) (op : Section) (h : Routine op) :
    True ∧ promotionCost key op = 0 := by
  refine ⟨trivial, ?_⟩
  cases op with
  | promote => cases h
  | _ => rfl

theorem store_free (key : String) (call : AuthorityCall) :
    True ∧ promotionCost key (.authority call) = 0 := ⟨trivial, rfl⟩

theorem wp_answered {p : Py AuthorityResponse}
    (h : p.Within (fun _ => True) (promotionCost key) 0) :
    wp (promotionRight host key) (p >>= fun response => pure (Opened.answered response) : Py Opened)
      (fun outcome _ t => ∀ record leaseId, outcome = .ok (.leased record leaseId) →
        Filed host.sha (executionKey key) record.authorityId t) c w := by
  refine wp_andThen (wp.mono (wp_budget h (Nat.zero_le c)) ?_)
  rintro (e | response) c' t - t' - record leaseId heq <;> cases heq

theorem wp_openLifecycle (hinv : StoreInvariant host.sha w.authority)
    (hkey : lifecycleKey order.idempotencyKey order.operation = executionKey key) :
    wp (promotionRight host key) (openLifecycle host config order)
      (fun outcome _ t => ∀ record leaseId, outcome = .ok (.leased record leaseId) →
        Filed host.sha (executionKey key) record.authorityId t) c w := by
  have hreplay : ∀ record, (signedTerminalReplay host config order.caller record).Within
      (fun _ => True) (promotionCost key) 0 := fun record =>
    (quiet_signedTerminalReplay host config order.caller record).within (routine_free key)
  refine wp_andThen (wp.mono (wp_issueAuthorityLifecycle config hinv hkey) ?_)
  rintro (e | record) c' t hfiled
  · intro t' _ record leaseId heq
    cases heq
  have hrecord := hfiled record rfl
  have hlease : wp (promotionRight host key)
      (do
        let token ← tokenHex
        let leased ← leaseForDispatch record ("authority_lease_" ++ token)
        return Opened.leased leased ("authority_lease_" ++ token) : Py Opened)
      (fun outcome _ t => ∀ record leaseId, outcome = .ok (.leased record leaseId) →
        Filed host.sha (executionKey key) record.authorityId t) c' t := by
    have htoken : tokenHex.Within (fun _ => True) (promotionCost key) 0 :=
      quiet_token.within (routine_free key)
    refine wp_andThen (wp.mono (wp_budget htoken (Nat.zero_le c')) ?_)
    rintro (e | token) c'' u ⟨-, htu⟩
    · intro u' _ record leaseId heq
      cases heq
    refine wp_andThen (wp.mono (wp_leaseForDispatch _ (hrecord.keeps htu)) ?_)
    rintro (e | leased) c₃ v hleased v' hvv' record' leaseId heq
    · cases heq
    · cases heq
      exact (hleased leased rfl).keeps hvv'
  dsimp only [andThen]
  cases record.state with
  | terminal => exact wp_answered (hreplay record)
  | dispatched =>
    have hfinish : (finishDispatched order record).Within (fun _ => True)
        (promotionCost key) 0 :=
      within_finishDispatched (routine_free key) (fun _ _ _ _ _ _ => store_free key _) order
        record
    refine wp_andThen (wp.mono (wp_budget hfinish (Nat.zero_le c')) ?_)
    rintro (e | completed) c'' u -
    · intro u' _ record leaseId heq
      cases heq
    · exact wp_answered (hreplay completed)
  | issued | leased => exact hlease

theorem wp_handleLeasedRequest (lease : Lease) {gate receipt : Dict}
    (hop : order.operation = .execute gate receipt)
    (hfiled : Filed host.sha (executionKey key) record.authorityId w) :
    wp (promotionRight host key) (handleLeasedRequest host config order lease record)
      (fun _ _ _ => True) c w := by
  have hquiet : ∀ {β : Type} {p : Py β}, Quiet p →
      p.Within (fun _ => True) (promotionCost key) 0 := fun h => h.within (routine_free key)
  have hreject : ∀ code t c', wp (promotionRight host key)
      (completeLifecycleRejection host config lease record code .rejected)
      (fun _ _ _ => True) c' t := by
    intro code t c'
    refine wp.mono (wp_budget (within_completeLifecycleRejection (routine_free key)
      (fun _ _ _ _ _ _ => store_free key _) host config lease record code _)
      (Nat.zero_le c')) fun _ _ _ _ => trivial
  unfold handleLeasedRequest
  rw [hop]
  refine wp_andThen (wp.mono (wp_budget (hquiet (quiet_private _)) (Nat.zero_le c)) ?_)
  rintro (e | current) c₁ t₁ ⟨-, hkeep₁⟩
  · exact fun _ _ => trivial
  show wp _ (ite _ _ _) _ _ _
  split
  · exact hreject _ _ _
  refine wp_andThen (wp.mono (wp_budget (hquiet (quiet_consult _)) (Nat.zero_le c₁)) ?_)
  rintro (e | authorityGate) c₂ t₂ ⟨-, hkeep₂⟩
  · exact fun _ _ => trivial
  refine wp_andThen (wp.mono (wp_budget (hquiet (quiet_private _)) (Nat.zero_le c₂)) ?_)
  rintro (e | _) c₃ t₃ ⟨-, hkeep₃⟩
  · exact fun _ _ => trivial
  refine wp_andThen (wp.mono (wp_budget (hquiet (quiet_private _)) (Nat.zero_le c₃)) ?_)
  rintro (e | _ | code) c₄ t₄ ⟨-, hkeep₄⟩
  · exact fun _ _ => trivial
  · have hfiled' := (((hfiled.keeps hkeep₁).keeps hkeep₂).keeps hkeep₃).keeps hkeep₄
    refine wp_andThen (wp.mono (wp_markLifecycleDispatched lease.leaseId hfiled') ?_)
    rintro (e | dispatched) c₅ t₅ hearned
    · exact fun _ _ => trivial
    have hcredit := hearned dispatched rfl
    have hpromote : ∀ permitId prepared, True ∧
        promotionCost key (.promote order.idempotencyKey permitId prepared) ≤ 1 := by
      intro permitId prepared
      refine ⟨trivial, ?_⟩
      simp only [promotionCost]
      split <;> omega
    exact wp.mono (wp_budget (within_executeDispatched (routine_free key)
      (fun _ _ _ _ _ _ => store_free key _) hpromote host config lease dispatched _ _)
      (by omega)) fun _ _ _ _ => trivial
  · exact hreject _ _ _

theorem wp_serveOrder_of {K : AuthorityRecord → World → Prop}
    (hopen : wp (promotionRight host key) (openLifecycle host config order)
      (fun outcome _ t => ∀ record leaseId, outcome = .ok (.leased record leaseId) →
        K record t) c w)
    (hkeep : ∀ record t t', KeepsIdentity host.sha t t' → K record t → K record t')
    (hleased : ∀ lease record c' t, K record t →
      wp (promotionRight host key) (handleLeasedRequest host config order lease record)
        (fun _ _ _ => True) c' t) :
    wp (promotionRight host key) (serveOrder host config order) (fun _ _ _ => True) c w := by
  have hrejection : ∀ code c' t, wp (promotionRight host key)
      (signedRejection host config order.caller code) (fun _ _ _ => True) c' t :=
    fun code c' t => wp.mono (wp_budget ((quiet_signedResponse host config _ _ _ _ _).within
      (routine_free key)) (Nat.zero_le c')) fun _ _ _ _ => trivial
  have hguarded : wp (promotionRight host key)
      (tryExcept lifecycleErrors (openLifecycle host config order))
      (fun outcome _ t => ∀ opened, outcome = .ok (.ok opened) →
        ∀ record leaseId, opened = .leased record leaseId → K record t) c w := by
    refine wp_tryExcept (wp.mono hopen ?_)
    intro outcome c' t hopened opened hok t' htt' record leaseId heq
    exact hkeep record t t' htt' (hopened record leaseId (by rw [hok, heq]))
  refine wp_andThen (wp.mono hguarded ?_)
  rintro (e | e | response | ⟨record, leaseId⟩) c' t hopened
  · exact fun _ _ => trivial
  · exact hrejection _ _ _
  · exact fun _ _ => trivial
  · refine wp_bind (wp.mono (hleased _ record c' t (hopened _ rfl record leaseId rfl)) ?_)
    rintro (e | response) c'' t' -
    · exact wp.mono (wp_budget (within_closeLeased (routine_free key)
        (fun _ _ _ _ _ _ => store_free key _) host config _ record e) (Nat.zero_le c''))
        fun _ _ _ _ => trivial
    · exact fun _ _ => trivial

/-- Every accepted request is safe without any credit. -/
theorem wp_serveOrder (order : AuthorityOrder)
    (hinv : StoreInvariant host.sha w.authority) :
    wp (promotionRight host key) (serveOrder host config order) (fun _ _ _ => True) c w := by
  by_cases hkey : order.idempotencyKey = key
  · cases hop : order.operation with
    | preflight =>
      refine wp_serveOrder_of config (K := fun _ _ => True) ?_ (fun _ _ _ _ _ => trivial) ?_
      · exact wp.mono (wp_budget (within_openLifecycle (routine_free key) (store_free key) host
          config order) (Nat.zero_le c)) fun _ _ _ _ _ _ _ => trivial
      · intro lease record c' t _
        have hpreflight : (handleLeasedRequest host config order lease record).Within
            (fun _ => True) (promotionCost key) 0 := by
          unfold handleLeasedRequest
          rw [hop]
          refine within_then (within_onRecord (routine_free key) fun _ => store_free key _)
            fun dispatched => ?_
          exact within_preflightDispatched (routine_free key)
            (fun _ _ _ _ _ _ => store_free key _) host config order lease dispatched
        exact wp.mono (wp_budget hpreflight (Nat.zero_le c')) fun _ _ _ _ => trivial
    | execute gate receipt =>
      have hlifecycle : lifecycleKey order.idempotencyKey order.operation =
          executionKey key := by
        rw [hop, hkey]
        simp [lifecycleKey, executionKey, Operation.text, String.append_assoc]
      refine wp_serveOrder_of config
        (K := fun record t => Filed host.sha (executionKey key) record.authorityId t)
        (wp_openLifecycle config hinv hlifecycle)
        (fun _ _ _ hkeeps hfiled => hfiled.keeps hkeeps) ?_
      intro lease record c' t hfiled
      exact wp_handleLeasedRequest config lease hop hfiled
  · have hpromote : ∀ permitId prepared, True ∧
        promotionCost key (.promote order.idempotencyKey permitId prepared) ≤ 0 :=
      fun _ _ => ⟨trivial, by simp [promotionCost, hkey]⟩
    exact wp.mono (wp_budget (within_serveOrder (routine_free key) (store_free key) host config
      hpromote) (Nat.zero_le c)) fun _ _ _ _ => trivial

theorem ServiceProgram.safe {p : Program Unit} (h : ServiceProgram host p)
    (hinv : StoreInvariant host.sha w.authority) :
    wp (promotionRight host key) p (fun _ _ _ => True) 0 w := by
  have hignored : ∀ {α : Type} {method : Py α},
      wp (promotionRight host key) method (fun _ _ _ => True) 0 w →
        wp (promotionRight host key) (ignored method) (fun _ _ _ => True) 0 w :=
    fun hmethod => wp_bind (wp.mono hmethod fun _ _ _ _ _ _ => trivial)
  cases h with
  | restart =>
    exact hignored (wp.mono (wp_budget ((quiet_recover host).within (routine_free key))
      (Nat.le_refl 0)) fun _ _ _ _ => trivial)
  | request config request peerUid peerGid =>
    refine hignored ?_
    have hrejection : ∀ code c' t, wp (promotionRight host key)
        (signedRejection host config ⟨request, peerUid, peerGid⟩ code)
        (fun _ _ _ => True) c' t :=
      fun code c' t => wp.mono (wp_budget ((quiet_signedResponse host config _ _ _ _ _).within
        (routine_free key)) (Nat.zero_le c')) fun _ _ _ _ => trivial
    unfold handleRequest
    split
    · exact hrejection _ _ _
    · have hserve : wp (promotionRight host key)
          (serveRequest host config request peerUid peerGid) (fun _ _ _ => True) 0 w := by
        refine wp_andThen (wp.mono (wp_budget ((quiet_acceptRequest config request peerUid
          peerGid).within (routine_free key)) (Nat.le_refl 0)) ?_)
        rintro (e | code | order) c' t ⟨-, hkeeps⟩
        · exact fun _ _ => trivial
        · exact hrejection _ _ _
        · exact wp_serveOrder config order (hkeeps hinv).1
      refine wp_bind (wp.mono hserve ?_)
      rintro (e | response) c' t -
      · show wp _ (ite _ _ _) _ _ _
        split <;> exact hrejection _ _ _
      · exact fun _ _ => trivial

end

theorem occurrences_eq_sum (key : String)
    (trace : List WorldEvent) :
    (trace.map fun event => if shows event = some key then 1 else 0).sum =
      occurrences shows key trace := by
  induction trace with
  | nil => rfl
  | cons event rest ih =>
    rw [List.map_cons, List.sum_cons, ih]
    unfold occurrences
    cases hshown : shows event with
    | none => simp [hshown]
    | some other =>
      by_cases heq : other = key
      · simp [hshown, heq, Nat.add_comm]
      · simp [hshown, heq]

def Logged (sha : Sha256) (key : String) (trace : List WorldEvent) (w : World) : Prop :=
  StoreInvariant sha w.authority ∧
    (occurrences WorldEvent.dispatched? key trace = 0 ∨
      ∃ (id : String) (record : AuthorityRecord) (events : List EventReceipt),
        w.authority.records[id]? = some record ∧ record.idempotencyKey = key ∧
        w.authority.events[id]? = some events ∧
        occurrences WorldEvent.dispatched? key trace ≤
          (events.map (·.eventType)).count .markedDispatched)

theorem markDispatched_logged {authorityId leaseId : String} {expectedVersion : Int} {now : Reading}
    (h : fileMarkDispatched sha root authorityId expectedVersion leaseId now =
      .ok (record, root')) :
    ∃ event events, event.eventType = EventType.markedDispatched ∧
      root.events[record.authorityId]? = some events ∧
      root'.events[record.authorityId]? = some (events ++ [event]) ∧
      root'.records[record.authorityId]? = some record := by
  obtain ⟨current, event, events, -, hdispatch, hevents, rfl⟩ := fileTransition_ok h
  obtain ⟨_, _, _, _, _, _, _, _, hevent⟩ := dispatchTransition_ok hdispatch
  refine ⟨event, events, ?_, hevents, Table.get_insert_self _ _ _, Table.get_insert_self _ _ _⟩
  rw [(Prod.mk.inj hevent).2]
  rfl

theorem dispatched_call (hstep : worldStep host op w answer w')
    (hshown : WorldEvent.dispatched? ⟨op, answer⟩ = some key) :
    ∃ authorityId expectedVersion leaseId now record,
      record.idempotencyKey = key ∧
      fileMarkDispatched host.sha w.authority authorityId expectedVersion leaseId now =
        .ok (record, w'.authority) := by
  unfold WorldEvent.dispatched? at hshown
  split at hshown
  · next authorityId expectedVersion leaseId now record heq =>
    obtain ⟨rfl, hanswer⟩ := Event.mk.inj heq
    obtain rfl := eq_of_heq hanswer
    obtain ⟨-, hcall⟩ := authority_answer hstep
      (show ((Except.ok (.record record) : Except PyError AuthorityAnswer) >>=
        answeredRecord) = .ok record from rfl)
    obtain ⟨stored, hok, hstored⟩ := StoreInvariant.answerRecord_ok hcall
    cases hstored
    exact ⟨authorityId, expectedVersion, leaseId, now, record, Option.some.inj hshown, hok⟩
  · cases hshown

theorem Logged.step (h : Logged host.sha key trace w) (hstep : worldStep host op w answer w') :
    Logged host.sha key (trace ++ [⟨op, answer⟩]) w' := by
  obtain ⟨hinv, hcount⟩ := h
  have hinv' := (worldStep_keepsIdentity hstep hinv).1
  refine ⟨hinv', ?_⟩
  rw [occurrences_concat]
  by_cases hshown : WorldEvent.dispatched? ⟨op, answer⟩ = some key
  · obtain ⟨authorityId, expectedVersion, leaseId, now, record, hkey, hmark⟩ :=
      dispatched_call hstep hshown
    obtain ⟨event, events, htype, hevents, hevents', hrecord⟩ := markDispatched_logged hmark
    refine .inr ⟨record.authorityId, record, _, hrecord, hkey, hevents', ?_⟩
    rw [if_pos hshown, List.map_append, List.count_append]
    rcases hcount with hzero | ⟨id, current, log, hcurrent, hsame, hlog, hle⟩
    · simp [hzero, htype]
    · -- the index leads every dispatch of the key to one record
      obtain ⟨current', hcurrent', hidentity⟩ :=
        (worldStep_keepsIdentity hstep hinv).2 id current hcurrent
      have hkey' : current'.idempotencyKey = key := by
        rw [hidentity]
        exact hsame
      have hid : id = record.authorityId := by
        have hleft := (hinv'.idempotency key id).mpr ⟨current', hcurrent', hkey'⟩
        have hright := (hinv'.idempotency key record.authorityId).mpr ⟨record, hrecord, hkey⟩
        exact Option.some.inj (hleft.symm.trans hright)
      rw [hid, hevents] at hlog
      rw [Option.some.inj hlog]
      simp [htype, hle]
  · rw [if_neg hshown, Nat.add_zero]
    rcases hcount with hzero | ⟨id, current, log, hcurrent, hsame, hlog, hle⟩
    · exact .inl hzero
    · obtain ⟨current', hcurrent', hidentity⟩ :=
        (worldStep_keepsIdentity hstep hinv).2 id current hcurrent
      have hkey' : current'.idempotencyKey = key := by
        rw [hidentity]
        exact hsame
      obtain ⟨new, hnew⟩ : ∃ new, w'.authority.events[id]? = some (log ++ new) := by
        rcases worldStep_authority hstep with heq | ⟨call, -, heq⟩
        · exact ⟨[], by rw [heq, List.append_nil]; exact hlog⟩
        · rw [heq]
          exact hinv.log_grows (hinv.fileNext_step call) hlog
      refine .inr ⟨id, current', _, hcurrent', hkey', hnew, ?_⟩
      rw [List.map_append, List.count_append]
      omega

theorem Logged.le_one (h : Logged sha key trace w) :
    occurrences WorldEvent.dispatched? key trace ≤ 1 := by
  obtain ⟨hinv, hzero | ⟨id, record, events, hrecord, -, hevents, hle⟩⟩ := h
  · omega
  · obtain ⟨-, -, stored, hstored, hhistory⟩ := hinv.records id record hrecord
    have heq : stored = events := Option.some.inj (hstored.symm.trans hevents)
    have hroom := hhistory.word.count_markedDispatched_le
    rw [heq] at hroom
    omega

theorem spent_call (hstep : worldStep host op w answer w')
    (hshown : WorldEvent.spent? ⟨op, answer⟩ = some nonce) :
    w.ledger.consumedNonces[nonce]? = none ∧
      (w'.ledger.consumedNonces[nonce]?).isSome = true := by
  unfold WorldEvent.spent? at hshown
  split at hshown
  · next permit now value heq =>
    obtain ⟨rfl, hanswer⟩ := Event.mk.inj heq
    obtain rfl := eq_of_heq hanswer
    obtain rfl := Option.some.inj hshown
    simp only [worldStep] at hstep
    split at hstep
    · next value' ledger hcall =>
      obtain ⟨-, rfl⟩ := hstep
      rcases (ledgerCall_step hcall).nonce_cases with ⟨-, hne⟩ | ⟨_, _, hcons, hnone, hnew⟩
      · exact absurd rfl (hne permit now)
      · cases hcons
        refine ⟨hnone, ?_⟩
        rw [hnew]
        simp
    · cases hstep.1
  · cases hshown

theorem spent_step {op : Section} {answer : op.Answer}
    (h : occurrences WorldEvent.spent? nonce trace ≤
      if (w.ledger.consumedNonces[nonce]?).isSome then 1 else 0)
    (hstep : worldStep host op w answer w') :
    occurrences WorldEvent.spent? nonce (trace ++ [⟨op, answer⟩]) ≤
      if (w'.ledger.consumedNonces[nonce]?).isSome then 1 else 0 := by
  rw [occurrences_concat]
  by_cases hshown : WorldEvent.spent? ⟨op, answer⟩ = some nonce
  · obtain ⟨hnone, hsome⟩ := spent_call hstep hshown
    rw [hnone] at h
    rw [if_pos hshown, hsome]
    simpa using h
  · rw [if_neg hshown, Nat.add_zero]
    have hkept : (w.ledger.consumedNonces[nonce]?).isSome = true →
        (w'.ledger.consumedNonces[nonce]?).isSome = true := by
      intro hsome
      rcases worldStep_ledger hstep with ⟨hsame, -⟩ | ⟨call, rfl, hledger⟩
      · rw [hsame]
        exact hsome
      · rcases hledger.nonce_cases with ⟨hnonces, -⟩ | ⟨permit, now, rfl, -, hnonces⟩
        · rw [hnonces]
          exact hsome
        · rw [hnonces, Table.get_insert]
          split
          · rfl
          · exact hsome
    by_cases hsome : (w.ledger.consumedNonces[nonce]?).isSome = true
    · rw [if_pos hsome] at h
      rw [if_pos (hkept hsome)]
      exact h
    · rw [if_neg hsome] at h
      omega

/-- The sections of the service respect the permit ledger wherever they run. -/
def Steady : Section → Prop
  | .ledger (.recordTransition _ expectedState newState _ _ _) =>
    ¬ (expectedState = .prepared ∧ newState = .claimed)
  | .ledger (.fenceRecovery _ expectedState _ _ _) => expectedState.isMutation = true
  | _ => True

theorem Routine.steady (op : Section) (h : Routine op) : Steady op := by
  cases op with
  | authority call | promote key permitId prepared => trivial
  | ledger call => cases call <;> exact h
  | _ => trivial

theorem Steady.guarded (h : Steady op) (hstep : worldStep host op w answer w') :
    guardedStep host Orderly op w answer w' := by
  refine ⟨hstep, ?_⟩
  rintro call rfl
  cases call with
  | recordTransition permitId expectedState newState details terminalResult now =>
    exact fun _ _ _ => h
  | fenceRecovery permitId expectedState repoPath reason now => exact fun _ _ _ => h
  | _ => trivial

theorem ServiceProgram.steady {p : Program Unit} (h : ServiceProgram host p) : p.Uses Steady := by
  have hroutine : ∀ op, Routine op → Steady op ∧ (fun _ : Section => 0) op = 0 :=
    fun op hop => ⟨hop.steady op, rfl⟩
  have hignored : ∀ {α : Type} {method : Py α}, method.Within Steady (fun _ => 0) 0 →
      (ignored method).Uses Steady := fun hmethod =>
    (Prog.within_bind (m := 0) hmethod fun _ => Prog.within_ret _).uses
  cases h with
  | restart => exact hignored ((quiet_recover host).within hroutine)
  | request config request peerUid peerGid =>
    exact hignored (within_handleRequest hroutine (fun _ => ⟨trivial, rfl⟩) host config request
      peerUid peerGid fun _ _ _ => ⟨trivial, Nat.le_refl 0⟩)

/-- What holds of an idempotency key after a run with the given trace: it was dispatched, claimed
and promoted at most once. -/
structure AtMostOnce (key : String) (trace : List WorldEvent) (w : World) : Prop where
  oneRecord : ∀ (id id' : String) record record', w.authority.records[id]? = some record →
    w.authority.records[id']? = some record' → record.idempotencyKey = executionKey key →
    record'.idempotencyKey = executionKey key → id = id'
  dispatched : occurrences WorldEvent.dispatched? (executionKey key) trace ≤ 1
  logged : ∀ (id : String) record events, w.authority.records[id]? = some record →
    record.idempotencyKey = executionKey key → w.authority.events[id]? = some events →
    (events.map (·.eventType)).count .markedDispatched ≤ 1
  promoted : occurrences WorldEvent.promoted? key trace ≤ 1
  onePermit : ∀ (id id' : String) record record', w.ledger.permits[id]? = some record →
    w.ledger.permits[id']? = some record' → record.permit.idempotencyKey = key →
    record'.permit.idempotencyKey = key → id = id'
  claimed : ∀ (id : String) record, w.ledger.permits[id]? = some record →
    record.permit.idempotencyKey = key → record.states.count .claimed ≤ 1
  spent : ∀ (id : String) record, w.ledger.permits[id]? = some record →
    record.permit.idempotencyKey = key →
    occurrences WorldEvent.spent? record.permit.authorityNonce trace ≤ 1

/-- **At most one mutation per action**: every key is dispatched, promoted and claimed at most once
in every interleaving. -/
theorem at_most_one_mutation (host : Host) {w : World} (hauthority : w.authority = .empty)
    (hledger : w.ledger = .empty) {trace : List WorldEvent}
    {pool : Pool Section Section.Answer World Unit}
    (hrun : PoolRun (worldStep host) (ServiceProgram host) ⟨[], w⟩ trace pool) (key : String) :
    AtMostOnce key trace pool.state := by
  have hempty : StoreInvariant host.sha w.authority := by
    rw [hauthority]
    exact .empty host.sha
  have hlogged : Logged host.sha (executionKey key) trace pool.state :=
    hrun.history (Logged host.sha (executionKey key)) ⟨hempty, .inl rfl⟩
      fun _ _ _ _ _ h hstep => h.step hstep
  have hpaid := (PoolRun.sound (D := promotionRight host key)
    (fun p hp s hkeeps => hp.safe (hkeeps hempty).1)
    (fun _ _ _ _ _ _ hstep => worldStep_keepsIdentity hstep) hrun).2
  have hearned : earned (promotionRight host key) trace =
      occurrences WorldEvent.dispatched? (executionKey key) trace :=
    occurrences_eq_sum WorldEvent.dispatched? (executionKey key) trace
  have hspent : spent (promotionRight host key) trace =
      occurrences WorldEvent.promoted? key trace :=
    occurrences_eq_sum WorldEvent.promoted? key trace
  have horder : LedgerInvariant (issuedPermits trace) pool.state.ledger := by
    obtain ⟨hsteady, -⟩ := hrun.restrict fun p hp => hp.steady
    refine hsteady.history (fun trace s => LedgerInvariant (issuedPermits trace) s.ledger) ?_ ?_
    · show LedgerInvariant [] w.ledger
      rw [hledger]
      exact .empty
    · intro trace op s answer s' h hstep
      exact h.world_step (hstep.1.guarded hstep.2)
  have hnonces : ∀ nonce, occurrences WorldEvent.spent? nonce trace ≤ 1 := by
    intro nonce
    have hle := hrun.history (fun trace s => occurrences WorldEvent.spent? nonce trace ≤
      if (s.ledger.consumedNonces[nonce]?).isSome then 1 else 0) (Nat.zero_le _)
      fun _ _ _ _ _ h hstep => spent_step h hstep
    split at hle <;> omega
  constructor
  · intro id id' record record' hrecord hrecord' hkey hkey'
    have hleft := (hlogged.1.idempotency _ id).mpr ⟨record, hrecord, hkey⟩
    have hright := (hlogged.1.idempotency _ id').mpr ⟨record', hrecord', hkey'⟩
    exact Option.some.inj (hleft.symm.trans hright)
  · exact hlogged.le_one
  · intro id record events hrecord _ hevents
    obtain ⟨-, -, stored, hstored, hhistory⟩ := hlogged.1.records id record hrecord
    have heq : stored = events := Option.some.inj (hstored.symm.trans hevents)
    rw [← heq]
    exact hhistory.word.count_markedDispatched_le
  · have hroom := hlogged.le_one
    omega
  · intro id id' record record' hrecord hrecord' hkey hkey'
    have hleft := (horder.idempotency _ id).mpr ⟨record, hrecord, hkey⟩
    have hright := (horder.idempotency _ id').mpr ⟨record', hrecord', hkey'⟩
    exact Option.some.inj (hleft.symm.trans hright)
  · intro id record hrecord _
    exact (horder.records id record hrecord).count_le .claimed
  · exact fun _ record _ _ => hnonces _

def serviceHost : Host := { sampleHost with allowedTestCommands := [["t"]] }

def sampleService : ServiceConfig where
  allowedUids := [0]
  clientPublicKeys := (∅ : Table String).insert "c" "k"
  authorityKeyId := "a"
  responseTtlSeconds := 30
  ttl_positive := by decide
  ttl_bounded := by decide
  adapter := some ⟨"h", true⟩
  hasVerifier := true
  validateRequest _ := .ok ()
  validateDecision _ := .ok ()
  verifyProof _ _ _ := .ok true
  signResponse _ := .null
  parseTime text := .ok (if text = "i" then 0 else 1000000)

def verifiedPatch : PreparedRepoPatch where
  sourceRepo := "/r"
  relativeTarget := "a"
  baseCommit := "0000000000000000000000000000000000000000"
  baseTree := "0000000000000000000000000000000000000000"
  originalBytes := [98]
  updatedBytes := [99]
  changedPaths := ["a"]
  testResults := [⟨["t"], 0, genesisDigest, genesisDigest, by decide, by decide⟩]
  verifierReceipt := some []

def admittedGate : Dict :=
  [("allowed", .bool true),
   ("authority_eligible", .bool true),
   ("decision", .obj [("decision", .str "allow")]),
   ("request", .obj
      [("schema_version", .str "mesh.hsai_admission_request.v2"),
       ("actor_ref", .obj [("team_id", .str "t")]),
       ("mesh_run_id", .str "m"),
       ("mesh_action_id", .str "d"),
       ("action_kind", .str "repo_patch"),
       ("action_proposal_digest", .str "p"),
       ("evidence_packet_digest", .str "e"),
       ("mesh_policy_id", .str "p"),
       ("requested_claims", .arr []),
       ("explicit_nonclaims", .arr [])]),
   ("request_digest", .str "r"),
   ("decision_digest", .str "d"),
   ("candidate_digest", .str "c")]

def executeRequest : Dict :=
  [("body", .obj
      [("schema_version", .str authorityRequestVersion),
       ("operation", .str "execute"),
       ("request_id", .str "q"),
       ("idempotency_key", .str "d:investigate_and_patch"),
       ("issued_at", .str "i"),
       ("expires_at", .str "x"),
       ("client_key_id", .str "c"),
       ("decision", .obj
          [("decision_id", .str "d"),
           ("execution_plan", .obj
              [("system", .str "repo_patch_service"),
               ("action", .str "investigate_and_patch"),
               ("parameters", .obj
                  [("repo_path", .str "/r"),
                   ("patch_template", .obj
                      [("target_file", .str "a"), ("find", .str "b"), ("replace", .str "c")]),
                   ("allowed_paths", .arr [.str "a"]),
                   ("test_commands", .arr [.str "t"])])])]),
       ("evaluation", .obj
          [("evaluation_id", .str "e"),
           ("decision_id", .str "d"),
           ("passed", .bool true),
           ("final_recommendation", .str "execute"),
           ("stage_results", .obj []),
           ("blocking_reasons", .arr [])]),
       ("hsai_gate", .obj admittedGate),
       ("preflight_receipt", .obj (preflightReceiptPayload checksumHash verifiedPatch))]),
   ("authorization_proof", .obj
      [("key_id", .str "c"), ("signing_profile", .str clientRequestSigningProfile)])]

def helpful (token : Nat) : Script where
  now := 0
  token := hex64 token
  reply
    | .admission _ => .ok admittedGate
    | .executable name => .ok (name, genesisDigest)
    | .prepare _ _ _ => .ok verifiedPatch
    | .close _ => .ok ()
    | .testCommand _ _ => .ok ⟨0, "", ""⟩

theorem scripted_run {host : Host} {list : List (Script × Program Unit)}
    {startable : Program Unit → Prop} (hstart : ∀ entry ∈ list, startable entry.2)
    {P : World → Prop} [DecidablePred P] {w : World}
    (hexec : (Prog.execAll (list.map fun entry =>
      (scripted host (fun _ _ => True) entry.1, 100, entry.2)) w).any
        (fun w' => decide (P w')) = true) :
    ∃ trace w', PoolRun (worldStep host) startable ⟨[], w⟩ trace ⟨[], w'⟩ ∧ P w' := by
  obtain ⟨w', hw', hP⟩ := (Option.any_eq_true _ _).mp hexec
  have hprograms : ∀ entry ∈ list.map fun entry =>
      (scripted host (fun _ _ => True) entry.1, 100, entry.2), startable entry.2.2 := by
    intro entry hentry
    obtain ⟨pair, hpair, rfl⟩ := List.mem_map.mp hentry
    exact hstart pair hpair
  have hanswers : ∀ entry ∈ list.map fun entry =>
      (scripted host (fun _ _ => True) entry.1, 100, entry.2), ∀ op s r s',
      entry.1 op s = some (r, s') → worldStep host op s r s' := by
    intro entry hentry op s r s' hanswer
    obtain ⟨pair, hpair, rfl⟩ := List.mem_map.mp hentry
    have hguarded : guardedStep host (fun _ _ => True) op s r s' :=
      scripted_step op s r s' hanswer
    exact hguarded.1
  obtain ⟨trace, hrun⟩ := Prog.execAll_poolRun hprograms hanswers hw'
  exact ⟨trace, w', hrun, of_decide_eq_true hP⟩

/-- The execution is requested twice: the patch is in place, and was promoted
once. -/
theorem at_most_one_mutation_sample :
    ∃ trace w, PoolRun (worldStep serviceHost) (ServiceProgram serviceHost) ⟨[], sampleWorld⟩
        trace ⟨[], w⟩ ∧
      w.files["/r/a"]? = some (.file [99]) ∧
      AtMostOnce "d:investigate_and_patch" trace w := by
  have hprogram : ServiceProgram serviceHost
      (ignored (handleRequest serviceHost sampleService executeRequest 0 0)) :=
    .request sampleService executeRequest 0 0
  obtain ⟨trace, w, hrun, hfile⟩ := @scripted_run serviceHost
    [(helpful 1, ignored (handleRequest serviceHost sampleService executeRequest 0 0)),
     (helpful 2, ignored (handleRequest serviceHost sampleService executeRequest 0 0))]
    (ServiceProgram serviceHost)
    (by
      simp only [List.mem_cons, List.not_mem_nil, or_false, forall_eq_or_imp, forall_eq]
      exact ⟨hprogram, hprogram⟩)
    (fun w => w.files["/r/a"]? = some (.file [99])) _ sampleWorld (by decide +kernel)
  exact ⟨trace, w, hrun, hfile, at_most_one_mutation serviceHost rfl rfl hrun _⟩

end OrbitalMesh
