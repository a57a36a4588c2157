import Mathlib.Data.List.Nodup
import OrbitalMesh.Runtime

/-!
# Deferred rechecks

A run that decides to wait leaves a record in a file shared by all processes.
Each process runs a loop that claims the records that are due, creates a child
run for each of them and marks the record.  Between any two of these steps the
process may die, and another one may start.
-/

namespace OrbitalMesh.Deferred

inductive DeferredStatus where
  | pending
  | claimed
  | spawned
  | failed
deriving DecidableEq

/-- What `parse_iso` makes of `due_at`: an aware datetime, a naive one, or
nothing. -/
inductive DueAt where
  | aware (instant : Instant)
  | naive
  | unreadable
deriving DecidableEq

/-- The members of a record that are read again. -/
structure DeferredRecord where
  deferId : String
  sourceRunId : String
  dueAt : DueAt
  status : DeferredStatus
  childRunId : Option String
  failure : Option String

variable (now : Instant)

/-- `not due_at > now`, where `due_at` is `now` when it cannot be read. -/
def DueAt.reached : DueAt → Except PyError Bool
  | .aware instant => .ok (decide (instant ≤ now))
  | .unreadable => .ok true
  | .naive =>
    .error ⟨.typeError, "can't compare offset-naive and offset-aware datetimes"⟩

variable (records : List DeferredRecord)

def create (deferId sourceRunId : String) (dueAt : DueAt) :
    List DeferredRecord :=
  records ++ [{
    deferId, sourceRunId, dueAt, status := .pending, childRunId := none, failure := none }]

/-- `DeferredRunStore.claim_due`: the records claimed, and all records after
it.  Nothing is written when the comparison raises. -/
def claimDue (now : Instant) : (limit : Nat) → List DeferredRecord →
    Except PyError (List DeferredRecord × List DeferredRecord)
  | 0, records => .ok ([], records)
  | _, [] => .ok ([], [])
  | limit + 1, record :: rest => do
    if record.status ≠ .pending then
      let (claimed, rest) ← claimDue now (limit + 1) rest
      return (claimed, record :: rest)
    if ← record.dueAt.reached now then
      let taken := { record with status := .claimed }
      let (claimed, rest) ← claimDue now limit rest
      return (taken :: claimed, taken :: rest)
    else
      let (claimed, rest) ← claimDue now (limit + 1) rest
      return (claimed, record :: rest)

def updateFirst (deferId : String) (update : DeferredRecord → DeferredRecord) :
    List DeferredRecord → List DeferredRecord
  | [] => []
  | record :: rest =>
    if record.deferId = deferId then update record :: rest
    else record :: updateFirst deferId update rest

def markSpawned (deferId childRunId : String) :
    List DeferredRecord :=
  updateFirst deferId
    (fun record => { record with status := .spawned, childRunId := some childRunId }) records

def markFailed (deferId reason : String) :
    List DeferredRecord :=
  updateFirst deferId
    (fun record => { record with status := .failed, failure := some reason }) records

/-- A loop: what came of the record it works on, and the claimed records it has not come to. -/
structure RecheckLoop where
  outcome : Option (String × Except String String)
  batch : List DeferredRecord

def RecheckLoop.idle : RecheckLoop := { outcome := none, batch := [] }

/-- The records, the loops that are running, and the child runs with the record
each was created for. -/
structure System where
  records : List DeferredRecord
  loops : List RecheckLoop
  children : List (String × String)

inductive Act where
  | create (deferId sourceRunId : String) (dueAt : DueAt)
  /-- a process starts its loop -/
  | start
  /-- `claim_due(limit=5)` of loop `i` -/
  | claim (i : Nat) (now : Instant)
  /-- `_spawn_deferred_recheck(record)` of loop `i` -/
  | spawn (i : Nat) (answer : Except String String)
  /-- `mark_spawned` or `mark_failed` of loop `i` -/
  | mark (i : Nat)
  /-- the process of loop `i` dies -/
  | crash (i : Nat)

/-- The `limit` of the loop. -/
def claimLimit : Nat := 5

/-- `mark_spawned`, or `mark_failed` after an exception. -/
def marked (deferId : String) :
    Except String String → List DeferredRecord
  | .ok childRunId => markSpawned records deferId childRunId
  | .error reason => markFailed records deferId reason

/-- One step, where it is the loop's turn.  A loop whose `claim_due` raises has
ended. -/
def step (s : System) : Act → Option System
  | .create deferId sourceRunId dueAt =>
    some { s with records := create s.records deferId sourceRunId dueAt }
  | .start => some { s with loops := s.loops ++ [.idle] }
  | .claim i now =>
    match s.loops[i]? with
    | some ⟨none, []⟩ =>
      match claimDue now claimLimit s.records with
      | .ok (claimed, records) =>
        some { s with records, loops := s.loops.set i ⟨none, claimed⟩ }
      | .error _ => some { s with loops := s.loops.eraseIdx i }
    | _ => none
  | .spawn i answer =>
    match s.loops[i]? with
    | some ⟨none, record :: batch⟩ =>
      some { s with
        loops := s.loops.set i ⟨some (record.deferId, answer), batch⟩
        children := s.children ++ (answer.toOption.map (record.deferId, ·)).toList }
    | _ => none
  | .mark i =>
    match s.loops[i]? with
    | some ⟨some (deferId, outcome), batch⟩ =>
      some { s with
        records := marked s.records deferId outcome
        loops := s.loops.set i ⟨none, batch⟩ }
    | _ => none
  | .crash i =>
    if i < s.loops.length then some { s with loops := s.loops.eraseIdx i } else none

def System.empty : System := { records := [], loops := [], children := [] }

/-- A run in which every step satisfies `P` where it is taken. -/
inductive Run (P : System → Act → Prop) : System → Prop
  | refl : Run P .empty
  | tail {s t : System} {act : Act} (run : Run P s) (hact : P s act)
      (hstep : step s act = some t) : Run P t

/-- The steps by what they find and leave. -/
inductive Moves : System → Act → System → Prop
  | create (s : System) (deferId sourceRunId : String) (dueAt : DueAt) :
      Moves s (.create deferId sourceRunId dueAt)
        { s with records := create s.records deferId sourceRunId dueAt }
  | start (s : System) : Moves s .start { s with loops := s.loops ++ [.idle] }
  | claim {records records' claimed : List DeferredRecord} {children : List (String × String)}
      {before after : List RecheckLoop} {i : Nat} {now : Instant}
      (h : claimDue now claimLimit records = .ok (claimed, records')) :
      Moves ⟨records, before ++ ⟨none, []⟩ :: after, children⟩ (.claim i now)
        ⟨records', before ++ ⟨none, claimed⟩ :: after, children⟩
  | claimRaises {records : List DeferredRecord} {children : List (String × String)}
      {before after : List RecheckLoop} {i : Nat} {now : Instant} {e : PyError}
      (h : claimDue now claimLimit records = .error e) :
      Moves ⟨records, before ++ ⟨none, []⟩ :: after, children⟩ (.claim i now)
        ⟨records, before ++ after, children⟩
  | spawn {records batch : List DeferredRecord} {record : DeferredRecord}
      {children : List (String × String)} {before after : List RecheckLoop} {i : Nat}
      (answer : Except String String) :
      Moves ⟨records, before ++ ⟨none, record :: batch⟩ :: after, children⟩ (.spawn i answer)
        ⟨records, before ++ ⟨some (record.deferId, answer), batch⟩ :: after,
          children ++ (answer.toOption.map (record.deferId, ·)).toList⟩
  | mark {records batch : List DeferredRecord} {deferId : String}
      {outcome : Except String String} {children : List (String × String)}
      {before after : List RecheckLoop} {i : Nat} :
      Moves ⟨records, before ++ ⟨some (deferId, outcome), batch⟩ :: after, children⟩ (.mark i)
        ⟨marked records deferId outcome, before ++ ⟨none, batch⟩ :: after, children⟩
  | crash {records : List DeferredRecord} {children : List (String × String)}
      {before after : List RecheckLoop} {loop : RecheckLoop} {i : Nat}
      (hloop : (before ++ loop :: after)[i]? = some loop) :
      Moves ⟨records, before ++ loop :: after, children⟩ (.crash i)
        ⟨records, before ++ after, children⟩

theorem split_at {α : Type} {items : List α} {i : Nat} {item : α} (h : items[i]? = some item) :
    ∃ before after, items = before ++ item :: after ∧
      (∀ other, items.set i other = before ++ other :: after) ∧
      items.eraseIdx i = before ++ after := by
  obtain ⟨hi, hitem⟩ := List.getElem?_eq_some_iff.mp h
  refine ⟨items.take i, items.drop (i + 1), ?_, fun other => ?_, ?_⟩
  · rw [← hitem, List.getElem_cons_drop, List.take_append_drop]
  · rw [List.set_eq_take_append_cons_drop, if_pos hi]
  · exact List.eraseIdx_eq_take_drop_succ items i

variable {s : System} {t : System} {act : Act}

theorem step_moves (h : step s act = some t) : Moves s act t := by
  obtain ⟨records, loops, children⟩ := s
  cases act with
  | create deferId sourceRunId dueAt =>
    cases h
    exact .create _ _ _ _
  | start =>
    cases h
    exact .start _
  | claim i now =>
    simp only [step] at h
    split at h
    · next hloop =>
      obtain ⟨before, after, rfl, hset, herase⟩ := split_at hloop
      split at h
      · next claimed records' hclaim =>
        cases h
        rw [hset]
        exact .claim hclaim
      · next e hclaim =>
        cases h
        rw [herase]
        exact .claimRaises hclaim
    · cases h
  | spawn i answer =>
    simp only [step] at h
    split at h
    · next record batch hloop =>
      obtain ⟨before, after, rfl, hset, -⟩ := split_at hloop
      cases h
      rw [hset]
      exact .spawn answer
    · cases h
  | mark i =>
    simp only [step] at h
    split at h
    · next deferId outcome batch hloop =>
      obtain ⟨before, after, rfl, hset, -⟩ := split_at hloop
      cases h
      rw [hset]
      exact .mark
    · cases h
  | crash i =>
    simp only [step] at h
    split at h
    · next hi =>
      obtain ⟨loop, hloop⟩ : ∃ loop, loops[i]? = some loop :=
        ⟨loops[i], List.getElem?_eq_getElem hi⟩
      obtain ⟨before, after, rfl, -, herase⟩ := split_at hloop
      cases h
      rw [herase]
      exact .crash hloop
    · cases h

def takenIds : List String :=
  (records.filter fun record => record.status ≠ .pending).map (·.deferId)

def RecheckLoop.waitingIds (loop : RecheckLoop) : List String := loop.batch.map (·.deferId)

def System.childIds (s : System) : List String := s.children.map Prod.fst

section

variable {records records' claimed : List DeferredRecord} {record : DeferredRecord}

theorem takenIds_cons_pending (h : record.status = .pending) :
    takenIds (record :: records) = takenIds records := by
  simp [takenIds, h]

theorem takenIds_cons_taken (h : record.status ≠ .pending) :
    takenIds (record :: records) = record.deferId :: takenIds records := by
  simp [takenIds, h]

theorem count_takenIds_claimDue {now : Instant} {limit : Nat}
    (h : claimDue now limit records = .ok (claimed, records')) (id : String) :
    (takenIds records').count id =
      (takenIds records).count id + (claimed.map (·.deferId)).count id := by
  induction records generalizing limit claimed records' with
  | nil =>
    cases limit <;> cases h <;> rfl
  | cons record rest ih =>
    cases limit with
    | zero =>
      cases h
      simp
    | succ limit =>
      simp only [claimDue] at h
      split at h
      · next hstatus =>
        obtain ⟨⟨claimed', rest'⟩, hrest, hout⟩ := bind_ok h
        cases hout
        have hcount := ih hrest
        simp only [takenIds_cons_taken hstatus, List.count_cons]
        omega
      · next hstatus =>
        have hpending : record.status = .pending := not_not.mp hstatus
        obtain ⟨reached, -, hnext⟩ := bind_ok h
        split at hnext
        · obtain ⟨⟨claimed', rest'⟩, hrest, hout⟩ := bind_ok hnext
          cases hout
          have hcount := ih hrest
          rw [takenIds_cons_pending hpending, takenIds_cons_taken (by simp)]
          simp only [List.map_cons, List.count_cons]
          omega
        · obtain ⟨⟨claimed', rest'⟩, hrest, hout⟩ := bind_ok hnext
          cases hout
          rw [takenIds_cons_pending hpending, takenIds_cons_pending hpending]
          exact ih hrest

/-- Marking gives no record back. -/
theorem count_takenIds_updateFirst {update : DeferredRecord → DeferredRecord}
    (hid : ∀ record, (update record).deferId = record.deferId)
    (hstatus : ∀ record, (update record).status ≠ .pending) (deferId id : String) :
    (takenIds records).count id ≤ (takenIds (updateFirst deferId update records)).count id := by
  induction records with
  | nil => exact Nat.le_refl _
  | cons record rest ih =>
    unfold updateFirst
    split
    · rw [takenIds_cons_taken (hstatus record), hid]
      by_cases hpending : record.status = .pending
      · rw [takenIds_cons_pending hpending]
        exact List.count_le_count_cons
      · rw [takenIds_cons_taken hpending]
    · by_cases hpending : record.status = .pending
      · rw [takenIds_cons_pending hpending, takenIds_cons_pending hpending]
        exact ih
      · rw [takenIds_cons_taken hpending, takenIds_cons_taken hpending]
        simp only [List.count_cons]
        omega

theorem count_takenIds_marked (deferId : String) (outcome : Except String String) (id : String) :
    (takenIds records).count id ≤ (takenIds (marked records deferId outcome)).count id := by
  cases outcome with
  | ok childRunId =>
    exact count_takenIds_updateFirst (by simp) (by simp) deferId id
  | error reason =>
    exact count_takenIds_updateFirst (by simp) (by simp) deferId id

end

def Accounted (s : System) : Prop :=
  ∀ id, (s.loops.flatMap (·.waitingIds)).count id + s.childIds.count id ≤
    (takenIds s.records).count id

theorem step_accounted (h : step s act = some t) (hs : Accounted s) : Accounted t := by
  intro id
  have hcount := hs id
  cases step_moves h with
  | create _ deferId sourceRunId dueAt =>
    simpa [takenIds, create, System.childIds] using hcount
  | start => simpa [RecheckLoop.waitingIds, RecheckLoop.idle, System.childIds] using hcount
  | claim hclaim =>
    have htaken := count_takenIds_claimDue hclaim id
    simp [RecheckLoop.waitingIds, System.childIds] at hcount ⊢
    omega
  | claimRaises hclaim =>
    simp [RecheckLoop.waitingIds, System.childIds] at hcount ⊢
    omega
  | @spawn records batch record children before after i answer =>
    cases answer with
    | ok childRunId | error reason =>
      simp [RecheckLoop.waitingIds, System.childIds, List.count_cons, Except.toOption]
        at hcount ⊢
      omega
  | @mark records batch deferId outcome children before after i =>
    have hmarked := @count_takenIds_marked records deferId outcome id
    simp [RecheckLoop.waitingIds, System.childIds] at hcount ⊢
    omega
  | crash hloop =>
    simp [System.childIds] at hcount ⊢
    omega

variable {P : System → Act → Prop}

/-- **One child for each record**, however the loops interleave and wherever they die. -/
theorem children_le_records (hrun : Run P s) (id : String) :
    s.childIds.count id ≤ (s.records.map (·.deferId)).count id := by
  have haccounted : Accounted s := by
    induction hrun with
    | refl => intro id; exact Nat.le_refl _
    | tail _ _ hstep ih => exact step_accounted hstep ih
  have htaken : (takenIds s.records).count id ≤ (s.records.map (·.deferId)).count id :=
    ((List.filter_sublist).map _).count_le id
  have hcount := haccounted id
  omega

/-- The ids of the records that a running loop still has to answer for. -/
def RecheckLoop.inHand (loop : RecheckLoop) : List String :=
  match loop.outcome with
  | some (deferId, .error _) => deferId :: loop.waitingIds
  | _ => loop.waitingIds

/-- The ids of the records in the hands of running loops. -/
def System.held (s : System) : List String := s.loops.flatMap (·.inHand)

/-- What the loop relies on: no process dies with claimed records in hand, new
records have ids of their own, and `due_at` has an offset. -/
def Careful (s : System) : Act → Prop
  | .create deferId _ dueAt => deferId ∉ s.records.map (·.deferId) ∧ dueAt ≠ .naive
  | .crash i => ∀ loop ∈ s.loops[i]?, loop.inHand = []
  | _ => True

instance (s : System) (act : Act) : Decidable (Careful s act) :=
  match act with
  | .create deferId _ dueAt =>
    inferInstanceAs (Decidable (deferId ∉ s.records.map (·.deferId) ∧ dueAt ≠ .naive))
  | .crash i => inferInstanceAs (Decidable (∀ loop ∈ s.loops[i]?, loop.inHand = []))
  | .start => inferInstanceAs (Decidable True)
  | .claim _ _ => inferInstanceAs (Decidable True)
  | .spawn _ _ => inferInstanceAs (Decidable True)
  | .mark _ => inferInstanceAs (Decidable True)

/-- Every record without a child, and not marked failed, is pending or in the
hands of a running loop. -/
structure Kept (s : System) : Prop where
  distinct : (s.records.map (·.deferId)).Nodup
  aware : ∀ record ∈ s.records, record.dueAt ≠ .naive
  spawned : ∀ loop ∈ s.loops, ∀ id childRunId,
    loop.outcome = some (id, .ok childRunId) → id ∈ s.childIds
  kept : ∀ record ∈ s.records, record.deferId ∉ s.childIds → record.status ≠ .failed →
    record.status = .pending ∨ record.deferId ∈ s.held

section

variable {records records' claimed : List DeferredRecord}

theorem claimDue_keeps {now : Instant} {limit : Nat}
    (h : claimDue now limit records = .ok (claimed, records')) :
    records'.map (fun record => (record.deferId, record.dueAt)) =
        records.map (fun record => (record.deferId, record.dueAt)) ∧
      ∀ record ∈ records', record ∈ records ∨ record.deferId ∈ claimed.map (·.deferId) := by
  induction records generalizing limit claimed records' with
  | nil =>
    cases limit <;> cases h <;> simp
  | cons record rest ih =>
    cases limit with
    | zero =>
      cases h
      simp
    | succ limit =>
      simp only [claimDue] at h
      split at h
      · obtain ⟨⟨claimed', rest'⟩, hrest, hout⟩ := bind_ok h
        cases hout
        obtain ⟨hsame, hmem⟩ := ih hrest
        refine ⟨by simp [hsame], ?_⟩
        simp only [List.mem_cons, forall_eq_or_imp, true_or, true_and]
        intro other hother
        exact (hmem other hother).imp_left .inr
      · obtain ⟨reached, -, hnext⟩ := bind_ok h
        split at hnext
        · obtain ⟨⟨claimed', rest'⟩, hrest, hout⟩ := bind_ok hnext
          cases hout
          obtain ⟨hsame, hmem⟩ := ih hrest
          refine ⟨by simp [hsame], ?_⟩
          simp only [List.mem_cons, List.map_cons, forall_eq_or_imp, true_or, or_true,
            true_and]
          intro other hother
          exact (hmem other hother).imp .inr .inr
        · obtain ⟨⟨claimed', rest'⟩, hrest, hout⟩ := bind_ok hnext
          cases hout
          obtain ⟨hsame, hmem⟩ := ih hrest
          refine ⟨by simp [hsame], ?_⟩
          simp only [List.mem_cons, forall_eq_or_imp, true_or, true_and]
          intro other hother
          exact (hmem other hother).imp_left .inr

variable {update : DeferredRecord → DeferredRecord}

theorem map_updateFirst {β : Type} {f : DeferredRecord → β}
    (hf : ∀ record, f (update record) = f record) (deferId : String) :
    (updateFirst deferId update records).map f = records.map f := by
  induction records with
  | nil => rfl
  | cons record rest ih =>
    unfold updateFirst
    split
    · simp [hf]
    · simp [ih]

theorem marked_keeps (deferId : String) (outcome : Except String String) :
    (marked records deferId outcome).map (fun record => (record.deferId, record.dueAt)) =
      records.map (fun record => (record.deferId, record.dueAt)) := by
  cases outcome with
  | ok childRunId =>
    exact map_updateFirst (by simp) deferId
  | error reason =>
    exact map_updateFirst (by simp) deferId

theorem mem_updateFirst {deferId : String} (hdistinct : (records.map (·.deferId)).Nodup)
    {record : DeferredRecord} (h : record ∈ updateFirst deferId update records) :
    (record ∈ records ∧ record.deferId ≠ deferId) ∨
      ∃ old ∈ records, old.deferId = deferId ∧ record = update old := by
  induction records with
  | nil => cases h
  | cons first rest ih =>
    rw [List.map_cons, List.nodup_cons] at hdistinct
    unfold updateFirst at h
    split at h
    · next hfirst =>
      rcases List.mem_cons.mp h with rfl | hrest
      · exact .inr ⟨first, List.mem_cons_self, hfirst, rfl⟩
      · refine .inl ⟨List.mem_cons_of_mem _ hrest, ?_⟩
        rintro rfl
        exact hdistinct.1 (hfirst ▸ List.mem_map_of_mem hrest)
    · next hfirst =>
      rcases List.mem_cons.mp h with rfl | hrest
      · exact .inl ⟨List.mem_cons_self, hfirst⟩
      · rcases ih hdistinct.2 hrest with ⟨hmem, hne⟩ | ⟨old, hold, hid, hupdate⟩
        · exact .inl ⟨List.mem_cons_of_mem _ hmem, hne⟩
        · exact .inr ⟨old, List.mem_cons_of_mem _ hold, hid, hupdate⟩

section

variable (hsame : records'.map (fun record => (record.deferId, record.dueAt)) =
  records.map (fun record => (record.deferId, record.dueAt)))

include hsame

theorem aware_of_same
    (haware : ∀ record ∈ records, record.dueAt ≠ .naive) :
    ∀ record ∈ records', record.dueAt ≠ .naive := by
  intro record hrecord
  have hmem : (record.deferId, record.dueAt) ∈
      records'.map (fun record => (record.deferId, record.dueAt)) := List.mem_map_of_mem hrecord
  rw [hsame] at hmem
  obtain ⟨old, hold, heq⟩ := List.mem_map.mp hmem
  rw [← (Prod.mk.inj heq).2]
  exact haware old hold

theorem distinct_of_same
    (hdistinct : (records.map (·.deferId)).Nodup) : (records'.map (·.deferId)).Nodup := by
  have hids := congrArg (List.map Prod.fst) hsame
  simp only [List.map_map, Function.comp_def] at hids
  rw [hids]
  exact hdistinct

end

end

theorem claimDue_ok {now : Instant} {limit : Nat} {records : List DeferredRecord}
    (haware : ∀ record ∈ records, record.dueAt ≠ .naive) :
    ∃ claimed records', claimDue now limit records = .ok (claimed, records') := by
  induction records generalizing limit with
  | nil => cases limit <;> exact ⟨_, _, rfl⟩
  | cons record rest ih =>
    have hrest : ∀ other ∈ rest, other.dueAt ≠ .naive :=
      fun other hother => haware other (List.mem_cons_of_mem _ hother)
    cases limit with
    | zero => exact ⟨_, _, rfl⟩
    | succ limit =>
      have hreached : ∃ reached, record.dueAt.reached now = .ok reached := by
        cases hdue : record.dueAt with
        | naive => exact absurd hdue (haware record List.mem_cons_self)
        | aware instant | unreadable => exact ⟨_, rfl⟩
      obtain ⟨reached, hreached⟩ := hreached
      obtain ⟨claimed, rest', hskip⟩ := @ih (limit + 1) hrest
      obtain ⟨taken, rest'', htake⟩ := @ih limit hrest
      simp only [claimDue, hreached, hskip, htake, ok_bind]
      split
      · exact ⟨_, _, rfl⟩
      · split <;> exact ⟨_, _, rfl⟩

theorem step_kept (h : step s act = some t) (hcareful : Careful s act) (hs : Kept s) : Kept t := by
  obtain ⟨hdistinct, haware, hspawned, hkept⟩ := hs
  cases step_moves h with
  | create _ deferId sourceRunId dueAt =>
    obtain ⟨hfresh, hdue⟩ := hcareful
    refine ⟨?_, ?_, hspawned, ?_⟩
    · simp only [create, List.map_append, List.map_cons, List.map_nil]
      rw [← List.concat_eq_append]
      exact hdistinct.concat hfresh
    · simp only [create, List.mem_append, List.mem_singleton]
      rintro record (hold | rfl)
      · exact haware record hold
      · exact hdue
    · simp only [create, List.mem_append, List.mem_singleton]
      rintro record (hold | rfl) hchild hfailed
      · exact hkept record hold hchild hfailed
      · exact .inl rfl
  | start =>
    refine ⟨hdistinct, haware, ?_, ?_⟩
    · simp only [List.mem_append, List.mem_singleton]
      rintro loop (hold | rfl)
      · exact hspawned loop hold
      · intro id childRunId hout
        cases hout
    · intro record hrecord hchild hfailed
      refine (hkept record hrecord hchild hfailed).imp_right fun hheld => ?_
      simp only [System.held, List.flatMap_append, List.mem_append] at hheld ⊢
      exact .inl hheld
  | claim hclaim =>
    obtain ⟨hsame, hmem⟩ := claimDue_keeps hclaim
    refine ⟨distinct_of_same hsame hdistinct, aware_of_same hsame haware, ?_, ?_⟩
    · intro loop hloop id childRunId hout
      simp only [List.mem_append, List.mem_cons] at hloop
      rcases hloop with hloop | rfl | hloop
      · exact hspawned loop (by simp [hloop]) id childRunId hout
      · cases hout
      · exact hspawned loop (by simp [hloop]) id childRunId hout
    · intro record hrecord hchild hfailed
      simp only [System.held, List.flatMap_append, List.flatMap_cons, List.mem_append,
        RecheckLoop.inHand, RecheckLoop.waitingIds] at hkept ⊢
      rcases hmem record hrecord with hold | htaken
      · rcases hkept record hold hchild hfailed with hpending | hheld
        · exact .inl hpending
        · simp only [List.map_nil, List.not_mem_nil, false_or] at hheld
          tauto
      · tauto
  | claimRaises hclaim =>
    -- with aware due dates `claim_due` cannot raise
    rename_i now e
    obtain ⟨claimed, records', hok⟩ := @claimDue_ok now claimLimit _ haware
    rw [hclaim] at hok
    cases hok
  | @spawn records batch record children before after i answer =>
    refine ⟨hdistinct, haware, ?_, ?_⟩
    · intro loop hloop id childRunId hout
      simp only [System.childIds, List.map_append, List.mem_append] at hspawned ⊢
      simp only [List.mem_append, List.mem_cons] at hloop
      rcases hloop with hloop | rfl | hloop
      · exact .inl (hspawned loop (by simp [hloop]) id childRunId hout)
      · cases hout
        exact .inr (by simp [Except.toOption])
      · exact .inl (hspawned loop (by simp [hloop]) id childRunId hout)
    · intro other hother hchild hfailed
      simp only [System.childIds, List.map_append, List.mem_append, not_or] at hkept hchild
      refine (hkept other hother hchild.1 hfailed).imp_right fun hheld => ?_
      simp only [System.held, List.flatMap_append, List.flatMap_cons, List.mem_append,
        RecheckLoop.inHand, RecheckLoop.waitingIds, List.map_cons, List.mem_cons] at hheld ⊢
      cases answer with
      | ok childRunId =>
        have hne : other.deferId ≠ record.deferId := by simpa [Except.toOption] using hchild.2
        tauto
      | error reason =>
        simp only [List.mem_cons]
        tauto
  | @mark records batch deferId outcome children before after i =>
    have hsame := @marked_keeps records deferId outcome
    refine ⟨distinct_of_same hsame hdistinct, aware_of_same hsame haware, ?_, ?_⟩
    · intro loop hloop id childRunId hout
      simp only [List.mem_append, List.mem_cons] at hloop
      rcases hloop with hloop | rfl | hloop
      · exact hspawned loop (by simp [hloop]) id childRunId hout
      · cases hout
      · exact hspawned loop (by simp [hloop]) id childRunId hout
    · intro record hrecord hchild hfailed
      have hunmarked : record ∈ records ∧ record.deferId ≠ deferId := by
        cases outcome with
        | ok childRunId =>
          rcases mem_updateFirst hdistinct hrecord with hold | ⟨old, -, hid, rfl⟩
          · exact hold
          · have hspawn := hspawned ⟨some (deferId, .ok childRunId), batch⟩ (by simp)
              deferId childRunId rfl
            rw [← hid] at hspawn
            exact absurd hspawn hchild
        | error reason =>
          rcases mem_updateFirst hdistinct hrecord with hold | ⟨old, -, -, rfl⟩
          · exact hold
          · exact absurd rfl hfailed
      refine (hkept record hunmarked.1 hchild hfailed).imp_right fun hheld => ?_
      simp only [System.held, List.flatMap_append, List.flatMap_cons, List.mem_append,
        RecheckLoop.inHand, RecheckLoop.waitingIds] at hheld ⊢
      cases outcome with
      | ok childRunId => exact hheld
      | error reason =>
        simp only [List.mem_cons] at hheld
        tauto
  | @crash records children before after loop i hloop =>
    have hempty : loop.inHand = [] := hcareful loop hloop
    refine ⟨hdistinct, haware, ?_, ?_⟩
    · intro other hother
      refine hspawned other ?_
      simp only [List.mem_append, List.mem_cons] at hother ⊢
      tauto
    · intro record hrecord hchild hfailed
      refine (hkept record hrecord hchild hfailed).imp_right fun hheld => ?_
      simp only [System.held, List.flatMap_append, List.flatMap_cons, List.mem_append, hempty,
        List.not_mem_nil, false_or] at hheld ⊢
      exact hheld

theorem run_kept (hrun : Run Careful s) : Kept s := by
  induction hrun with
  | refl =>
    refine ⟨List.nodup_nil, ?_, ?_, ?_⟩ <;> simp [System.empty]
  | tail _ hcareful hstep ih => exact step_kept hstep hcareful ih

def pendingDue (record : DeferredRecord) : Bool :=
  record.status == .pending && record.dueAt.reached now matches .ok true

/-- What one more `claim_due` at this time hands out. -/
def handedOut (records : List DeferredRecord) : List DeferredRecord :=
  match claimDue now claimLimit records with
  | .ok (claimed, _) => claimed
  | .error _ => []

/-- The records after one more `claim_due` at this time. -/
def afterClaim (records : List DeferredRecord) : List DeferredRecord :=
  match claimDue now claimLimit records with
  | .ok (_, records') => records'
  | .error _ => records

theorem claimDue_spec {now : Instant} {limit : Nat} {records records' claimed : List DeferredRecord}
    (h : claimDue now limit records = .ok (claimed, records')) :
    claimed.map (·.deferId) =
        ((records.filter (pendingDue now)).take limit).map (·.deferId) ∧
      records'.filter (pendingDue now) = (records.filter (pendingDue now)).drop limit := by
  induction records generalizing limit claimed records' with
  | nil =>
    cases limit <;> cases h <;> simp
  | cons record rest ih =>
    cases limit with
    | zero =>
      cases h
      simp
    | succ limit =>
      simp only [claimDue] at h
      split at h
      · next hstatus =>
        obtain ⟨⟨claimed', rest'⟩, hrest, hout⟩ := bind_ok h
        cases hout
        simpa [pendingDue, List.filter_cons, hstatus] using ih hrest
      · next hstatus =>
        have hpending : record.status = .pending := not_not.mp hstatus
        obtain ⟨reached, hreached, hnext⟩ := bind_ok h
        cases reached with
        | true | false =>
          obtain ⟨⟨claimed', rest'⟩, hrest, hout⟩ := bind_ok hnext
          cases hout
          simpa [pendingDue, List.filter_cons, hpending, hreached] using ih hrest

theorem offered {now : Instant} {n : Nat} : ∀ {records : List DeferredRecord}
    {record : DeferredRecord}, (∀ record ∈ records, record.dueAt ≠ .naive) →
    (records.filter (pendingDue now)).length ≤ claimLimit * n →
    record ∈ records.filter (pendingDue now) →
    ∃ k, record.deferId ∈ (handedOut now ((afterClaim now)^[k] records)).map (·.deferId) := by
  induction n with
  | zero =>
    intro records record _ hlength hmem
    have hnil := List.eq_nil_of_length_eq_zero (Nat.le_zero.mp hlength)
    rw [hnil] at hmem
    cases hmem
  | succ n ih =>
    intro records record haware hlength hmem
    obtain ⟨claimed, records', hclaim⟩ := @claimDue_ok now claimLimit records haware
    obtain ⟨htaken, hleft⟩ := claimDue_spec hclaim
    have hafter : afterClaim now records = records' := by simp [afterClaim, hclaim]
    have hsplit := List.take_append_drop claimLimit (records.filter (pendingDue now))
    rw [← hsplit, List.mem_append] at hmem
    rcases hmem with hfirst | hlater
    · refine ⟨0, ?_⟩
      simp only [handedOut, Function.iterate_zero, id_eq, hclaim, htaken]
      exact List.mem_map_of_mem hfirst
    · rw [← hleft] at hlater
      obtain ⟨hsame, -⟩ := claimDue_keeps hclaim
      have haware' := aware_of_same hsame haware
      obtain ⟨k, hk⟩ := @ih records' record haware'
        (by rw [hleft, List.length_drop]; simp only [claimLimit] at hlength ⊢; omega) hlater
      refine ⟨k + 1, ?_⟩
      rw [Function.iterate_succ_apply, hafter]
      exact hk

/-- **Every recheck runs once** in every run in which no process dies with claimed records in
hand. -/
theorem recheck_runs_once {s : System} (hrun : Run Careful s) :
    (∀ id, s.childIds.count id ≤ 1) ∧
      ∀ record ∈ s.records, record.deferId ∉ s.childIds → record.status ≠ .failed →
        record.deferId ∈ s.held ∨
          ∀ now, record.dueAt.reached now = .ok true →
            ∃ k, record.deferId ∈
              (handedOut now ((afterClaim now)^[k] s.records)).map (·.deferId) := by
  have hkept := run_kept hrun
  constructor
  · intro id
    exact (children_le_records hrun id).trans (List.nodup_iff_count_le_one.mp hkept.distinct id)
  · intro record hrecord hchild hfailed
    rcases hkept.kept record hrecord hchild hfailed with hpending | hheld
    · refine .inr fun now hdue => ?_
      have hmem : record ∈ s.records.filter (pendingDue now) := by
        simp [hrecord, pendingDue, hpending, hdue]
      have hlength : (s.records.filter (pendingDue now)).length ≤
          claimLimit * (s.records.filter (pendingDue now)).length := by
        simp only [claimLimit]
        omega
      exact offered hkept.aware hlength hmem
    · exact .inl hheld

def play (P : System → Act → Prop) [∀ s act, Decidable (P s act)] : List Act → System →
    Option System
  | [], s => some s
  | act :: rest, s => if P s act then (step s act).bind (play P rest) else none

theorem play_run [∀ s act, Decidable (P s act)] {acts : List Act} (hrun : Run P s)
    (hplay : play P acts s = some t) : Run P t := by
  induction acts generalizing s with
  | nil =>
    cases hplay
    exact hrun
  | cons act rest ih =>
    simp only [play] at hplay
    split at hplay
    · next hact =>
      obtain ⟨middle, hstep, hrest⟩ := Option.bind_eq_some_iff.mp hplay
      exact ih (hrun.tail hact hstep) hrest
    · cases hplay

def servedActs : List Act :=
  [.create "d1" "run_1" (.aware 5), .create "d2" "run_1" (.aware 50), .start, .claim 0 10,
   .spawn 0 (.ok "run_2"), .mark 0, .crash 0, .start]

/-- The first record has its child; the second one is not due yet and will be
handed out. -/
theorem recheck_runs_once_sample :
    ∃ s, Run Careful s ∧ s.childIds = ["d1"] ∧
      (∀ id, s.childIds.count id ≤ 1) ∧
      ∃ record ∈ s.records, record.deferId = "d2" ∧ record.deferId ∉ s.childIds ∧
        (record.deferId ∈ s.held ∨
          ∀ now, record.dueAt.reached now = .ok true →
            ∃ k, record.deferId ∈
              (handedOut now ((afterClaim now)^[k] s.records)).map (·.deferId)) := by
  have hplay : (play Careful servedActs .empty).isSome = true := by decide
  obtain ⟨s, hs⟩ := Option.isSome_iff_exists.mp hplay
  have hrun := play_run .refl hs
  obtain ⟨hone, hkept⟩ := recheck_runs_once hrun
  cases hs
  refine ⟨_, hrun, rfl, hone, _, List.mem_cons_of_mem _ List.mem_cons_self, rfl, by decide, ?_⟩
  exact hkept _ (List.mem_cons_of_mem _ List.mem_cons_self) (by decide) (by decide)

def lostActs : List Act :=
  [.create "d1" "run_1" (.aware 5), .start, .claim 0 10, .crash 0, .start]

def lostRecord : DeferredRecord :=
  { deferId := "d1", sourceRunId := "run_1", dueAt := .aware 5, status := .claimed,
    childRunId := none, failure := none }

/-- **A recheck that never runs**: a process dies with a claimed record in hand, which no later
`claim_due` hands out. -/
theorem recheck_lost :
    ∃ s, Run (fun _ _ => True) s ∧ ∃ record ∈ s.records,
      record.dueAt.reached 10 = .ok true ∧ record.deferId ∉ s.childIds ∧
        record.status ≠ .failed ∧ record.deferId ∉ s.held ∧
        ∀ now k, record.deferId ∉
          (handedOut now ((afterClaim now)^[k] s.records)).map (·.deferId) := by
  have hplay : play (fun _ _ => True) lostActs .empty =
      some { records := [lostRecord], loops := [.idle], children := [] } := rfl
  refine ⟨_, play_run .refl hplay, lostRecord, List.mem_singleton.mpr rfl, rfl, by decide,
    by decide, by decide, ?_⟩
  intro now k
  have hfixed : (afterClaim now)^[k] [lostRecord] = [lostRecord] := by
    induction k with
    | zero => rfl
    | succ k ih =>
      exact ih
  rw [hfixed]
  simp [handedOut, claimDue, claimLimit, lostRecord]

/-- What a run of the loops leaves of the records: each in its place, and taken if it was. -/
structure Stays (records later : List DeferredRecord) : Prop where
  places : records.map (fun record => (record.deferId, record.dueAt)) <+:
    later.map fun record => (record.deferId, record.dueAt)
  taken : ∀ id, (takenIds records).count id ≤ (takenIds later).count id

theorem Stays.refl (records : List DeferredRecord) : Stays records records :=
  ⟨List.prefix_refl _, fun _ => Nat.le_refl _⟩

theorem step_stays (h : step s act = some t) : Stays s.records t.records := by
  cases step_moves h with
  | create => exact ⟨by simp [create], fun id => by simp [create, takenIds]⟩
  | start | claimRaises _ | spawn _ | crash _ => exact .refl _
  | claim hclaim =>
    exact ⟨(claimDue_keeps hclaim).1 ▸ List.prefix_refl _,
      fun id => Nat.le.intro (count_takenIds_claimDue hclaim id).symm⟩
  | mark => exact ⟨marked_keeps _ _ ▸ List.prefix_refl _, count_takenIds_marked _ _⟩

/-- **No recheck is taken back.**  However the loops interleave and wherever they die, no record
is lost or moved in time, and none that was taken is pending again. -/
theorem rechecks_stay (h : Relation.ReflTransGen (fun s t => ∃ act, step s act = some t) s t) :
    Stays s.records t.records := by
  induction h with
  | refl => exact .refl _
  | tail _ hlast ih =>
    obtain ⟨act, hstep⟩ := hlast
    have hstays := step_stays hstep
    exact ⟨ih.places.trans hstays.places, fun id => (ih.taken id).trans (hstays.taken id)⟩

/-- The loop dies with the record in hand. -/
theorem rechecks_stay_sample :
    ∃ t, step ⟨[⟨"d", "r", .unreadable, .pending, none, none⟩], [.idle], []⟩ (.claim 0 0) =
        some t ∧ takenIds t.records = ["d"] ∧
      ∃ u, step t (.crash 0) = some u ∧ Stays t.records u.records :=
  ⟨_, rfl, rfl, _, rfl, rechecks_stay (.single ⟨.crash 0, rfl⟩)⟩

end OrbitalMesh.Deferred
