import OrbitalMesh.ControlPlane.ExecutionGate
import OrbitalMesh.ControlPlane.Recordings

/-!
# The worker's stage under concurrent saves

The thread of a run moves its session from stage to stage with `_update_session`.
Other threads save the whole session that they have read, with the stage and the
status it had then; the merge keeps a final lifecycle and takes any other from the
saved copy.  So the worker's lifecycle stands as long as each copy still finds the
lifecycle it was read with (`RunSession.Fresh`, `worker_lifecycle_kept`).
-/

namespace OrbitalMesh

open Atomic Atomic.Raising

/-- Where a session says that its run is. -/
structure Lifecycle where
  stage : String
  status : String
  pendingPauseStage : Option String
deriving DecidableEq

def RunSession.lifecycle (session : RunSession) : Lifecycle :=
  ⟨session.stage, session.status, session.pendingPauseStage⟩

/-- What the arguments of `_update_session` make of a lifecycle. -/
def Lifecycle.after (l : Lifecycle) (update : SessionUpdate) : Lifecycle where
  stage := update.stage.getD l.stage
  status := update.status.getD l.status
  pendingPauseStage := update.pendingPauseStage.getD l.pendingPauseStage

theorem lifecycle_mergeSessionSnapshot (candidate current : RunSession) :
    (mergeSessionSnapshot candidate current).lifecycle =
      if current.isFinal = true ∧ candidate.isFinal = false then current.lifecycle
      else candidate.lifecycle := by
  have hcursor : (preserveEventCursor candidate current).lifecycle = candidate.lifecycle := by
    unfold preserveEventCursor
    split <;> rfl
  show (preserveFinalLifecycle (preserveEventCursor candidate current) current).lifecycle = _
  unfold preserveFinalLifecycle
  rw [preserveEventCursor_isFinal]
  split
  · next hkeeps =>
    rw [hcursor, if_neg]
    rintro ⟨hcurrent, hcandidate⟩
    simp [hcurrent, hcandidate] at hkeeps
  · next hfinal =>
    simp only [Bool.or_eq_true, Bool.not_eq_true', not_or, Bool.not_eq_true,
      Bool.not_eq_false] at hfinal
    rw [if_pos hfinal]
    rfl

/-- What a save may find stored: its copy's lifecycle as it was read, or a final one that it
cannot take back. -/
def RunSession.Fresh (session read current : RunSession) : Prop :=
  if session.lifecycle = read.lifecycle then
    current.lifecycle = read.lifecycle ∨ current.isFinal = true ∧ session.isFinal = false
  else current.isFinal = true → session.isFinal = true

variable {session read current : RunSession}

theorem RunSession.Fresh.kept
    (h : session.Fresh read current) (hsame : session.lifecycle = read.lifecycle) :
    (mergeSessionSnapshot session current).lifecycle = current.lifecycle := by
  rw [Fresh, if_pos hsame] at h
  rw [lifecycle_mergeSessionSnapshot]
  split
  · rfl
  · next hnot =>
    rcases h with h | h
    · rw [hsame, h]
    · exact absurd h hnot

theorem RunSession.Fresh.moved
    (h : session.Fresh read current) (hread : read.lifecycle = current.lifecycle) :
    (mergeSessionSnapshot session current).lifecycle = session.lifecycle := by
  by_cases hsame : session.lifecycle = read.lifecycle
  · rw [h.kept hsame, hsame, hread]
  · rw [Fresh, if_neg hsame] at h
    rw [lifecycle_mergeSessionSnapshot, if_neg]
    rintro ⟨hcurrent, hsession⟩
    rw [h hcurrent] at hsession
    cases hsession

def RecordOp.Fresh (runId : String) : RecordOp → MeshState → Prop
  | .store (.saveSession session (some read)), s =>
    ∀ current, s.store.getRunSession runId = some current → session.Fresh read current
  | _, _ => True

/-- The sections of the calls, as far as their saves are fresh. -/
def freshStep (config : StoreConfig) (hash : MerkleHash) (runId : String) (op : RecordOp)
    (s : MeshState) (r : op.Answer) (t : MeshState) : Prop :=
  op.Fresh runId s ∧ recordStep config hash op s r t

def Live (config : StoreConfig) (runId : String) (l : Lifecycle) (s : MeshState) : Prop :=
  s.store.Roomy config ∧ ∃ session, s.store.getRunSession runId = some session ∧
    session.lifecycle = l

def RecordOp.Calm : RecordOp → Prop
  | .store op => op.saves = false
  | .ask _ => False
  | _ => True

def RecordOp.Copies (runId : String) : RecordOp → Prop
  | .store (.saveSession session read) =>
    session.runId = runId ∧ ∃ copy, read = some copy ∧ session.lifecycle = copy.lifecycle
  | op => op.Calm

section

variable {config : StoreConfig} {hash : MerkleHash} {runId : String} {l : Lifecycle}
variable {s t : MeshState}

section

variable (h : Live config runId l s)

include h

theorem Live.of_runs_eq (hruns : t.store.runs = s.store.runs) : Live config runId l t := by
  obtain ⟨hroomy, session, hget, hl⟩ := h
  refine ⟨hroomy.of_runs_eq hruns, session, ?_, hl⟩
  rw [RunStore.getRunSession, hruns]
  exact hget

theorem Live.save {session stored : RunSession} {store : RunStore}
    (hid : session.runId = runId) (hsave : s.store.saveSession config session = (stored, store)) :
    stored.runId = runId ∧ ∃ current, s.store.getRunSession runId = some current ∧
      current.lifecycle = l ∧
      Live config runId (mergeSessionSnapshot session current).lifecycle { s with store } := by
  obtain ⟨hroomy, current, hget, hl⟩ := h
  subst hid
  obtain ⟨u, hu, hroomy', hget', -⟩ := RunStore.saveSession_live hroomy hget
  rw [hu, Prod.mk.injEq] at hsave
  obtain ⟨rfl, rfl⟩ := hsave
  exact ⟨mergeSessionSnapshot_runId _ _, current, hget, hl, hroomy', _, hget', rfl⟩

variable {op : RecordOp}

theorem Live.calm {r : op.Answer} (hcalm : op.Calm) (hstep : recordStep config hash op s r t) :
    Live config runId l t := by
  cases op with
  | store op =>
    match r with
    | .error e =>
      obtain rfl : t = s := hstep
      exact h
    | .ok value =>
      obtain ⟨store, hstep, rfl⟩ := hstep
      exact h.of_runs_eq (storeStep_runs hstep hcalm)
  | ask question => exact hcalm.elim
  | getControl | pausePoints | autoMode | hasCommands =>
    obtain ⟨-, rfl⟩ := hstep
    exact h
  | wait =>
    obtain rfl : t = s := hstep
    exact h
  | addPausePoint | setAutoMode | setPausePoints | pushCommand | finalizeRun =>
    obtain rfl := hstep
    exact h.of_runs_eq rfl
  | forceApprovalGate =>
    obtain rfl := hstep
    refine h.of_runs_eq ?_
    split <;> rfl

theorem Live.copies {r : op.Answer} (hcopies : op.Copies runId)
    (hstep : freshStep config hash runId op s r t) : Live config runId l t := by
  unfold RecordOp.Copies at hcopies
  split at hcopies
  · next session read =>
    obtain ⟨hid, copy, rfl, hsame⟩ := hcopies
    obtain ⟨hfresh, hstep⟩ := hstep
    match r with
    | .error e =>
      obtain rfl : t = s := hstep
      exact h
    | .ok stored =>
      obtain ⟨store, hsave, rfl⟩ := hstep
      obtain ⟨-, current, hget, hl, hlive⟩ := h.save hid hsave
      have hkept := RunSession.Fresh.kept (hfresh current hget) hsame
      rwa [hkept, hl] at hlive
  · exact h.calm hcopies hstep.2

end

end

variable {α : Type} {s : MeshState}

theorem wp_onStore {D : Discipline RecordOp RecordOp.Answer MeshState}
    {Q : Except PyError α → Nat → MeshState → Prop} {c : Nat} {op : StoreOp}
    {k : StoreResp op → StoreProg α} {p : StoreProg α} (hp : p = .call op k)
    (h : wp D (.call (.store op) (storeAnswered k)) Q c s) : wp D (onStore p) Q c s := by
  rw [hp, onStore_call]
  exact h

theorem onStore_calm {p : StoreProg α} (h : p.Uses fun op => op.saves = false) :
    Prog.Uses RecordOp.Calm (onStore p) := onStore_uses h

theorem materialize_calm (other : String) (force : Bool) :
    (FileStateStore.materializeVault other force).Uses fun op => op.saves = false := by
  refine ⟨rfl, fun due => ?_⟩
  cases due with
  | false => trivial
  | true =>
    refine ⟨rfl, fun found => ?_⟩
    cases found with
    | none => trivial
    | some session => exact ⟨rfl, fun _ => ⟨rfl, fun _ => trivial⟩⟩

theorem afterSave_calm (stored : RunSession) :
    Prog.Uses (fun op => op.saves = false) (do
      FileStateStore.materializeVault stored.runId
        (vaultForceStages.contains stored.stage || vaultForceStages.contains stored.status)
      pure stored : StoreProg RunSession) :=
  Prog.uses_bind (materialize_calm _ _) fun _ => trivial

/-- The worker's updates, one after the other. -/
def runUpdates (runId : String) : List SessionUpdate → Recording Unit
  | [] => return ()
  | update :: rest => do
    updateSession runId update
    runUpdates runId rest

section

variable (config : StoreConfig) (hash : MerkleHash) (runId : String)

/-- The worker relies on the others to leave its lifecycle alone. -/
def workerDiscipline : Discipline RecordOp RecordOp.Answer MeshState where
  step := freshStep config hash runId
  rely s t := ∀ l, Live config runId l s → Live config runId l t
  allowed _ _ := True
  earn _ _ := 0
  spend _ _ := 0
  rely_refl _ _ h := h
  rely_trans hst htu l h := htu l (hst l h)

variable {config hash runId} {α β : Type} {l l' : Lifecycle} {s : MeshState} {c : Nat}

def Reaches (config : StoreConfig) (runId : String) (l : Lifecycle) (outcome : Except PyError α)
    (_ : Nat) (s : MeshState) : Prop :=
  ∀ a, outcome = .ok a → Live config runId l s

theorem wp_calm {p : Prog RecordOp RecordOp.Answer α} (hcalm : p.Uses RecordOp.Calm)
    (h : Live config runId l s) :
    wp (workerDiscipline config hash runId) p (fun _ _ t => Live config runId l t) c s := by
  refine wp_of_uses hcalm (fun _ _ _ => trivial) (fun _ _ => rfl)
    (fun t u ht htu => htu l ht) ?_ h
  exact fun op t r u hop ht hstep => ht.calm hop hstep.2

theorem wp_raised {e : PyError} :
    wp (workerDiscipline config hash runId) (.ret (.error e) : Prog _ _ (Except PyError α))
      (Reaches config runId l) c s := by
  intro t _ a ha
  cases ha

theorem wp_calm_then {x : Recording α} {f : α → Recording β} (hcalm : Prog.Uses RecordOp.Calm x)
    (h : Live config runId l s)
    (hf : ∀ a c t, Live config runId l t →
      wp (workerDiscipline config hash runId) (f a) (Reaches config runId l') c t) :
    wp (workerDiscipline config hash runId) (x >>= f : Recording β) (Reaches config runId l')
      c s := by
  refine wp_andThen ((wp_calm hcalm h).mono ?_)
  rintro (e | a) c' t ht
  · exact wp_raised
  · exact hf a c' t ht

theorem wp_save {session copy : RunSession} (h : Live config runId l s)
    (hid : session.runId = runId) (hcopy : copy.lifecycle = l) :
    wp (workerDiscipline config hash runId)
      (onStore (FileStateStore.saveRunSession session (some copy)))
      (Reaches config runId session.lifecycle) c s := by
  refine wp_onStore rfl fun t hst => ⟨trivial, ?_⟩
  rintro (e | stored) u ⟨hfresh, hstep⟩
  · exact ⟨Nat.zero_le _, wp_raised⟩
  obtain ⟨store, hsave, rfl⟩ := hstep
  obtain ⟨-, current, hget, hl, hlive⟩ := (hst l h).save hid hsave
  rw [RunSession.Fresh.moved (hfresh current hget) (hcopy.trans hl.symm)] at hlive
  exact ⟨Nat.zero_le _, (wp_calm (onStore_calm (afterSave_calm stored)) hlive).mono
    fun _ _ _ ht _ _ => ht⟩

/-- One update moves the lifecycle as its arguments say. -/
theorem updateSession_wp (update : SessionUpdate) (h : Live config runId l s) :
    wp (workerDiscipline config hash runId) (updateSession runId update)
      (Reaches config runId (l.after update)) c s := by
  refine wp_andThen (wp_onStore rfl fun t hst => ⟨trivial, ?_⟩)
  rintro (e | found) u ⟨-, hstep⟩
  · exact ⟨Nat.zero_le _, fun v _ => wp_raised⟩
  obtain ⟨store, ⟨rfl, rfl⟩, rfl⟩ := hstep
  have hlive := hst l h
  obtain ⟨hroomy, session, hget, hl⟩ := hst l h
  rw [hget]
  refine ⟨Nat.zero_le _, fun v hv => ?_⟩
  refine wp_calm_then (onStore_calm ⟨rfl, fun _ => trivial⟩) (hv l hlive) fun now c w hw => ?_
  refine wp_andThen (wp.mono (wp_save hw ?_ hl) ?_)
  · exact (RunStore.getRunSession_spec hget).2
  rintro (e | stored) c' x hx
  · exact wp_raised
  · intro y hy a _
    refine hy _ ?_
    have hx := hx stored rfl
    rw [← hl]
    exact hx

theorem runUpdates_wp (updates : List SessionUpdate) (h : Live config runId l s) :
    wp (workerDiscipline config hash runId) (runUpdates runId updates)
      (Reaches config runId (updates.foldl Lifecycle.after l)) c s := by
  induction updates generalizing l s c with
  | nil => exact fun t hst a _ => hst l h
  | cons update rest ih =>
    refine wp_andThen ((updateSession_wp update h).mono ?_)
    rintro (e | a) c' t ht
    · exact wp_raised
    · exact ih (ht a rfl)

end

/-- The calls beside the worker that save a session of the run. -/
inductive SideCall where
  /-- `steer_run` with the command `attach_note` -/
  | attachNote (cap : Nat) (payload : Dict)
  | recordApproval (approval : Json)
  | setArtifact (key : String) (value : Json)
  | appendRunEvent (draft : EventDraft)

/-- The call on the run `runId`. -/
def SideCall.program (hash : MerkleHash) (runId : String) : SideCall → Recording Unit
  | .attachNote cap payload =>
    steerRun hash runId cap (payload.set "command" (.str "attach_note"))
  | .recordApproval approval => onStore (FileStateStore.recordApproval runId approval)
  | .setArtifact key value => OrbitalMesh.setArtifact runId key value
  | .appendRunEvent draft => OrbitalMesh.appendRunEvent hash { draft with runId }

section

variable (config : StoreConfig) (hash : MerkleHash) (runId : String)

def sideDiscipline : Discipline RecordOp RecordOp.Answer MeshState where
  step := freshStep config hash runId
  rely _ _ := True
  allowed op _ := op.Copies runId
  earn _ _ := 0
  spend _ _ := 0
  rely_refl _ := trivial
  rely_trans _ _ := trivial

variable {config hash runId} {α : Type} {ok : α → Prop}

theorem respects_onStore {op : StoreOp} {k : StoreResp op → StoreProg α} {p : StoreProg α}
    (hp : p = .call op k) (hcopies : (RecordOp.store op).Copies runId)
    (hk : ∀ s value t, storeStep config hash op s value t →
      Respects (sideDiscipline config hash runId) (onStore (k value)) ok) :
    Respects (sideDiscipline config hash runId) (onStore p) ok := by
  refine fun c s => wp_onStore hp fun t _ => ⟨hcopies, ?_⟩
  rintro (e | value) u ⟨-, hstep⟩
  · refine ⟨Nat.zero_le _, fun v _ a ha => ?_⟩
    cases ha
  · obtain ⟨store, hstep, rfl⟩ := hstep
    exact ⟨Nat.zero_le _, hk _ value store hstep _ _⟩

theorem respects_calm {x : Recording α} (hcalm : Prog.Uses RecordOp.Calm x) :
    Respects (sideDiscipline config hash runId) x fun _ => True := by
  have hcopies : ∀ op : RecordOp, op.Calm → op.Copies runId := by
    intro op hop
    unfold RecordOp.Copies
    split
    · cases hop
    · exact hop
  intro c s
  refine (@wp_of_uses _ _ _ _ _ _ (fun _ => True) _ _ _ hcalm (fun op _ hop => hcopies op hop)
    (fun _ _ => rfl) ?_ ?_ trivial).mono fun _ _ _ _ _ _ => trivial
  · exact fun _ _ _ _ => trivial
  · exact fun _ _ _ _ _ _ _ => trivial

theorem perform_respects {op : RecordOp} (hcopies : op.Copies runId) :
    Respects (sideDiscipline config hash runId) (perform op) fun _ => True :=
  respects_perform (fun _ => hcopies) (fun _ => rfl) fun _ _ _ _ => trivial

theorem timestamp_respects :
    Respects (sideDiscipline config hash runId) (onStore FileStateStore.timestamp)
      fun _ => True :=
  respects_calm (onStore_calm ⟨rfl, fun _ => trivial⟩)

theorem getRunSession_respects :
    Respects (sideDiscipline config hash runId) (getRunSession runId)
      fun found => ∀ session, found = some session → session.runId = runId := by
  refine respects_onStore rfl rfl fun s found t hstep => respects_pure ?_
  obtain ⟨rfl, rfl⟩ := hstep
  exact fun session hget => (RunStore.getRunSession_spec hget).2

variable {copy : RunSession}

theorem save_then_respects {session : RunSession} {f : RunSession → StoreProg α}
    (hid : session.runId = runId) (hsame : session.lifecycle = copy.lifecycle)
    (hf : ∀ stored, (f stored).Uses fun op => op.saves = false) :
    Respects (sideDiscipline config hash runId)
      (onStore (FileStateStore.saveRunSession session (some copy) >>= f)) fun _ => True := by
  refine respects_onStore rfl ⟨hid, copy, rfl, hsame⟩ fun _ stored _ _ => ?_
  exact respects_calm (onStore_calm (Prog.uses_bind (afterSave_calm stored) hf))

theorem save_respects {session : RunSession} (hid : session.runId = runId)
    (hsame : session.lifecycle = copy.lifecycle) :
    Respects (sideDiscipline config hash runId)
      (onStore (FileStateStore.saveRunSession session (some copy))) fun _ => True :=
  respects_onStore rfl ⟨hid, copy, rfl, hsame⟩ fun _ stored _ _ =>
    respects_calm (onStore_calm (afterSave_calm stored))

theorem recordApproval_respects (approval : Json) :
    Respects (sideDiscipline config hash runId)
      (onStore (FileStateStore.recordApproval runId approval)) fun _ => True := by
  refine respects_onStore rfl rfl fun s found t hstep => ?_
  obtain ⟨hfound, -⟩ := hstep
  cases found with
  | none => exact respects_pure trivial
  | some session =>
    refine respects_onStore rfl rfl fun _ now _ _ => ?_
    exact save_then_respects (RunStore.getRunSession_spec hfound.symm).2 rfl fun _ => trivial

theorem appendRunEvent_respects {draft : EventDraft} (hid : draft.runId = runId) :
    Respects (sideDiscipline config hash runId)
      (onStore (FileStateStore.appendRunEvent hash draft)) fun _ => True := by
  subst hid
  refine respects_onStore rfl rfl fun _ event _ _ => ?_
  refine respects_onStore rfl rfl fun _ _ _ _ => ?_
  refine respects_onStore rfl rfl fun s found t hstep => ?_
  obtain ⟨hfound, -⟩ := hstep
  cases found with
  | none => exact respects_pure trivial
  | some session =>
    dsimp only [Prog.bind]
    split
    · exact respects_pure trivial
    · refine respects_onStore rfl rfl fun _ events _ _ => ?_
      refine respects_onStore rfl rfl fun _ _ _ _ => ?_
      refine respects_onStore rfl rfl fun _ now _ _ => ?_
      refine respects_onStore rfl ⟨?_, session, rfl, rfl⟩ fun _ stored _ _ => ?_
      · exact (RunStore.getRunSession_spec hfound.symm).2
      · exact respects_calm (onStore_calm (Prog.uses_bind (Prog.uses_bind
          (afterSave_calm stored) fun _ => trivial) fun _ => trivial))

theorem setArtifact_respects (key : String) (value : Json) :
    Respects (sideDiscipline config hash runId) (setArtifact runId key value) fun _ => True := by
  refine respects_andThen getRunSession_respects fun found hfound => ?_
  cases found with
  | none => exact respects_pure trivial
  | some session =>
    refine respects_then timestamp_respects fun now => ?_
    refine respects_then (save_respects ?_ rfl) fun _ => respects_pure trivial
    exact hfound session rfl

theorem queueCommand_respects {command : SteeringCommand} {eventId : String} {operator : Json}
    (htype : command.commandType = "attach_note") :
    Respects (sideDiscipline config hash runId) (queueCommand runId command eventId operator)
      fun _ => True := by
  refine respects_then (perform_respects trivial) fun tracked => ?_
  split
  · exact respects_ofExcept fun _ _ => trivial
  · rw [if_neg (by rw [htype]; decide), if_neg (by rw [htype]; decide),
      if_neg (by rw [htype]; decide)]
    exact perform_respects trivial

theorem attachNote_respects (cap : Nat) (payload : Dict) :
    Respects (sideDiscipline config hash runId)
      (steerRun hash runId cap (payload.set "command" (.str "attach_note"))) fun _ => True := by
  have hcommand : valueAt (payload.set "command" (.str "attach_note")) "command" =
      .str "attach_note" := by
    simp [valueAt, Dict.get?_set_self]
  have htype : pyStr (.str "attach_note") = "attach_note" := rfl
  unfold steerRun
  simp only [hcommand, htype]
  refine respects_then (respects_ofExcept fun _ _ => trivial) fun supported => ?_
  split
  · refine respects_andThen getRunSession_respects fun found hfound => ?_
    cases found with
    | none => exact respects_ofExcept fun _ _ => trivial
    | some session =>
      refine respects_then (respects_ofExcept fun _ _ => trivial) fun _ => ?_
      refine respects_then timestamp_respects fun stamp => ?_
      refine respects_then timestamp_respects fun issuedAt => ?_
      refine respects_then (appendRunEvent_respects rfl) fun event => ?_
      rw [if_neg (by decide)]
      split
      · refine respects_then timestamp_respects fun now => ?_
        refine respects_then (save_respects ?_ rfl) fun _ => respects_pure trivial
        exact hfound session rfl
      · exact queueCommand_respects rfl
  · exact respects_ofExcept fun _ _ => trivial

theorem sideCall_respects (call : SideCall) :
    Respects (sideDiscipline config hash runId) (call.program hash runId) fun _ => True := by
  cases call with
  | attachNote cap payload => exact attachNote_respects cap payload
  | recordApproval approval => exact recordApproval_respects approval
  | setArtifact key value => exact setArtifact_respects key value
  | appendRunEvent draft =>
    exact respects_then (appendRunEvent_respects rfl) fun _ => respects_pure trivial

end

/-- **The worker's lifecycle stands** once the worker has returned, when every save of an
interleaving is fresh. -/
theorem worker_lifecycle_kept {config : StoreConfig} {hash : MerkleHash} {runId : String}
    {updates : List SessionUpdate} {calls : List SideCall} {s t : MeshState}
    {session : RunSession} {trace : List (Event RecordOp RecordOp.Answer)}
    {threads : List (Prog RecordOp RecordOp.Answer (Except PyError Unit))}
    (hroomy : s.store.Roomy config) (hget : s.store.getRunSession runId = some session)
    (h : Interleaves (freshStep config hash runId)
      (runUpdates runId updates :: calls.map (SideCall.program hash runId)) s trace
      (.ret (.ok ()) :: threads) t) :
    ∃ later, t.store.getRunSession runId = some later ∧
      later.lifecycle = updates.foldl Lifecycle.after session.lifecycle := by
  have hled : Led (workerDiscipline config hash runId) (sideDiscipline config hash runId)
      (Reaches config runId (updates.foldl Lifecycle.after session.lifecycle)) s
      (runUpdates runId updates :: calls.map (SideCall.program hash runId)) := by
    refine ⟨⟨0, runUpdates_wp updates ⟨hroomy, session, hget, rfl⟩⟩, fun program hprogram => ?_⟩
    obtain ⟨call, -, rfl⟩ := List.mem_map.mp hprogram
    exact ⟨0, (sideCall_respects call 0 s).mono fun _ _ _ _ => trivial⟩
  have hreached := hled.interleaves rfl (fun _ _ _ _ _ _ => trivial)
    (fun _ _ _ _ hcopies hstep => ⟨fun _ hlive => hlive.copies hcopies hstep, trivial⟩) h
  obtain ⟨c, hreaches⟩ := hreached.returned
  obtain ⟨-, later, hlater, hlifecycle⟩ := hreaches () rfl
  exact ⟨later, hlater, hlifecycle⟩

instance (session read current : RunSession) : Decidable (session.Fresh read current) := by
  unfold RunSession.Fresh
  infer_instance

def RecordOp.isFresh (s : MeshState) : RecordOp → Bool
  | .store (.saveSession session (some read)) =>
    (s.store.getRunSession "run").all fun current => decide (session.Fresh read current)
  | _ => true

theorem RecordOp.fresh_of_isFresh {op : RecordOp} (h : op.isFresh s = true) : op.Fresh "run" s := by
  unfold RecordOp.Fresh
  split
  · next session read =>
    intro current hget
    simpa only [isFresh, hget, Option.all_some, decide_eq_true_eq] using h
  · trivial

def freshAnswer (op : RecordOp) (s : MeshState) : Option (op.Answer × MeshState) :=
  if op.isFresh s then sampleRunAnswer (.record op) s else none

theorem freshAnswer_step (op : RecordOp) (s : MeshState) (r : op.Answer) (t : MeshState)
    (h : freshAnswer op s = some (r, t)) : freshStep ⟨100⟩ plainHash "run" op s r t := by
  by_cases hfresh : op.isFresh s = true
  · rw [freshAnswer, if_pos hfresh] at h
    exact ⟨RecordOp.fresh_of_isFresh hfresh, sampleRunAnswer_step (.record op) s r t h⟩
  · rw [freshAnswer, if_neg hfresh] at h
    cases h

def executingUpdate : SessionUpdate :=
  { stage := some "executing", status := some "running", pendingPauseStage := some none }

def workerAndNote : List (Prog RecordOp RecordOp.Answer (Except PyError Unit)) :=
  runUpdates "run" [executingUpdate] ::
    [SideCall.attachNote 1000 [("note", .str "n")]].map (SideCall.program plainHash "run")

def workerStart : MeshState := ⟨storeWithRun, ⟨[], false, []⟩, true⟩

def workerReturned : List (Prog RecordOp RecordOp.Answer (Except PyError Unit)) → Bool
  | .ret (.ok _) :: _ => true
  | _ => false

theorem workerReturned_inv {threads : List (Prog RecordOp RecordOp.Answer (Except PyError Unit))}
    (h : workerReturned threads = true) : ∃ rest, threads = .ret (.ok ()) :: rest := by
  unfold workerReturned at h
  split at h
  · exact ⟨_, rfl⟩
  · cases h

/-- The note is attached after the worker has moved on. -/
theorem worker_lifecycle_kept_sample :
    ∃ trace threads t later,
      Interleaves (freshStep ⟨100⟩ plainHash "run") workerAndNote workerStart trace
        (.ret (.ok ()) :: threads) t ∧
      t.store.getRunSession "run" = some later ∧
      later.lifecycle = ⟨"executing", "running", none⟩ := by
  have hoverview : ((schedule freshAnswer ([0, 0, 0, 0] ++ List.replicate 14 1) workerAndNote
      workerStart).map fun reached => workerReturned reached.1) = some true := by
    decide +kernel
  obtain ⟨⟨threads, t⟩, hschedule, hreturned⟩ := Option.map_eq_some_iff.mp hoverview
  obtain ⟨rest, rfl⟩ := workerReturned_inv hreturned
  obtain ⟨trace, hrun⟩ := schedule_interleaves freshAnswer_step hschedule
  have hroomy : storeWithRun.Roomy ⟨100⟩ := ⟨by simp [storeWithRun], by decide⟩
  obtain ⟨later, hlater, hlifecycle⟩ := worker_lifecycle_kept hroomy rfl hrun
  exact ⟨trace, rest, t, later, hrun, hlater, hlifecycle⟩

/-- A note whose session was read before the worker moved on takes the run back
to the stage in which it was read. -/
theorem note_reverts_stage :
    ¬ ∀ (config : StoreConfig) (hash : MerkleHash) (runId : String)
      (updates : List SessionUpdate) (calls : List SideCall) (s t : MeshState)
      (session : RunSession) (trace : List (Event RecordOp RecordOp.Answer))
      (threads : List (Prog RecordOp RecordOp.Answer (Except PyError Unit))),
      s.store.Roomy config → s.store.getRunSession runId = some session →
      Interleaves (recordStep config hash)
        (runUpdates runId updates :: calls.map (SideCall.program hash runId)) s trace
        (.ret (.ok ()) :: threads) t → (∀ p ∈ threads, ∃ a, p = .ret a) →
      ∃ later, t.store.getRunSession runId = some later ∧
        later.lifecycle = updates.foldl Lifecycle.after session.lifecycle := by
  intro hclaim
  have hoverview : ((schedule (fun op => sampleRunAnswer (.record op))
      ([1, 0, 0, 0, 0] ++ List.replicate 13 1) workerAndNote workerStart).map fun reached =>
        (workerReturned reached.1, allReturned reached.1,
          (reached.2.store.getRunSession "run").map RunSession.stage)) =
      some (true, true, some "queued") := by
    decide +kernel
  obtain ⟨⟨threads, t⟩, hschedule, hreached⟩ := Option.map_eq_some_iff.mp hoverview
  simp only [Prod.mk.injEq] at hreached
  obtain ⟨hreturned, hall, hstage⟩ := hreached
  obtain ⟨rest, rfl⟩ := workerReturned_inv hreturned
  obtain ⟨trace, hrun⟩ := schedule_interleaves
    (fun op s r u h => sampleRunAnswer_step (.record op) s r u h) hschedule
  have hroomy : storeWithRun.Roomy ⟨100⟩ := ⟨by simp [storeWithRun], by decide⟩
  obtain ⟨later, hlater, hlifecycle⟩ := hclaim _ _ "run" [executingUpdate] _ workerStart t _ trace
    rest hroomy rfl hrun
    fun p hp => exists_ret_of_allReturned hall p (List.mem_cons_of_mem _ hp)
  rw [hlater, Option.map_some, Option.some.injEq] at hstage
  have hexecuting := congrArg Lifecycle.stage hlifecycle
  rw [show later.lifecycle.stage = "queued" from hstage] at hexecuting
  exact absurd hexecuting (by decide)

end OrbitalMesh
