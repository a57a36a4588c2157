import OrbitalMesh.Base.Interleaving
import OrbitalMesh.ControlPlane.LiveRun

/-!
# Approvals and notes under concurrent updates

`record_operator_note`, `record_approval` and the cursor update each read the session,
change their copy and save it, in two separate sections.  The save merges cursors
and keys, but takes the notes and approvals from the copy.  So nothing is lost as
long as each save still finds the lists that its copy was made from
(`StoreOp.Timely`, `every_note_and_approval_kept`).
-/

namespace OrbitalMesh

open Atomic

inductive SessionCall where
  | recordApproval (approval : Json)
  | recordOperatorNote (note : String)
  | appendRunEvent (draft : EventDraft)

namespace SessionCall

/-- The call on the run `runId`. -/
def prog (hash : MerkleHash) (runId : String) : SessionCall → StoreProg Unit
  | .recordApproval approval => FileStateStore.recordApproval runId approval
  | .recordOperatorNote note => do
    let _ ← FileStateStore.recordOperatorNote runId note
    pure ()
  | .appendRunEvent draft => do
    let _ ← FileStateStore.appendRunEvent hash { draft with runId }
    pure ()

def notes : SessionCall → List String
  | .recordOperatorNote note => [note]
  | _ => []

def approvals : SessionCall → List Json
  | .recordApproval approval => [approval]
  | _ => []

end SessionCall

/-- `artifacts["approvals"]`, where it is a list. -/
def RunSession.approvals (session : RunSession) : List Json :=
  match session.artifacts.get? "approvals" with
  | some (.arr approvals) => approvals
  | _ => []

/-- The lists that a save replaces are those that its copy was made from. -/
structure RunSession.MadeFrom (session read current : RunSession) : Prop where
  notes : current.operatorNotes = read.operatorNotes
  approvals : (session.artifacts.get? "approvals").isSome →
    current.artifacts.get? "approvals" = read.artifacts.get? "approvals"

def StoreOp.Timely (runId : String) : StoreOp → RunStore → Prop
  | .saveSession session (some read), s =>
    ∀ current, s.getRunSession runId = some current → session.MadeFrom read current
  | _, _ => True

def timelyStep (config : StoreConfig) (hash : MerkleHash) (runId : String) (op : StoreOp)
    (s : RunStore) (r : StoreResp op) (t : RunStore) : Prop :=
  op.Timely runId s ∧ storeStep config hash op s r t

/-- A number read off a session to which each call adds its share, and which a
timely save carries over. -/
structure Tally where
  of : RunSession → Nat
  adds : SessionCall → Nat
  adds_append : ∀ draft, adds (.appendRunEvent draft) = 0
  of_note : ∀ (session : RunSession) note now,
    of { session with operatorNotes := session.operatorNotes ++ [note], updatedAt := now } =
      of session + adds (.recordOperatorNote note)
  of_approval : ∀ (session : RunSession) approval now,
    of { session with
      artifacts := FileStateStore.withApproval session.artifacts approval, updatedAt := now } =
      of session + adds (.recordApproval approval)
  of_cursor : ∀ (session : RunSession) eventId sequence root now,
    of { session with
      latestEventId := eventId, latestEventSequence := sequence, latestMerkleRoot := root,
      updatedAt := now } = of session
  of_merge : ∀ session read current : RunSession, session.artifacts.Distinct →
    (session.artifacts.get? "approvals" = none → read.artifacts.get? "approvals" = none) →
    session.MadeFrom read current →
    of (mergeSessionSnapshot session current) + of read = of current + of session

theorem approvals_withApproval (session : RunSession) (approval : Json) (now : String) :
    RunSession.approvals { session with
      artifacts := FileStateStore.withApproval session.artifacts approval, updatedAt := now } =
      session.approvals ++ [approval] := by
  simp only [RunSession.approvals, FileStateStore.withApproval]
  cases hget : session.artifacts.get? "approvals" with
  | none => simp [Dict.get?_set_self]
  | some value =>
    cases value with
    | arr approvals | _ => simp [Dict.get?_set_self]

theorem distinct_withApproval {artifacts : Dict} (h : artifacts.Distinct) (approval : Json) :
    (FileStateStore.withApproval artifacts approval).Distinct := by
  unfold FileStateStore.withApproval
  split <;> exact h.set _ _

theorem get?_withApproval (artifacts : Dict) (approval : Json) :
    (FileStateStore.withApproval artifacts approval).get? "approvals" ≠ none := by
  unfold FileStateStore.withApproval
  split <;> simp [Dict.get?_set_self]

def noteTally (note : String) : Tally where
  of session := session.operatorNotes.count note
  adds call := call.notes.count note
  adds_append _ := rfl
  of_note session other now := by simp [SessionCall.notes, List.count_append]
  of_approval session approval now := by simp [SessionCall.notes]
  of_cursor session _ _ _ _ := rfl
  of_merge session read current _ _ hmade := by
    rw [mergeSessionSnapshot_operatorNotes, hmade.notes]
    omega

def approvalTally (approval : Json) : Tally where
  of session := session.approvals.count approval
  adds call := call.approvals.count approval
  adds_append _ := rfl
  of_note session other now := by
    simp only [SessionCall.approvals, List.count_nil, Nat.add_zero]
    rfl
  of_approval session other now := by
    rw [approvals_withApproval, List.count_append]
    rfl
  of_cursor session _ _ _ _ := rfl
  of_merge session read current hdistinct hkeeps hmade := by
    have hmerged : (mergeSessionSnapshot session current).artifacts.get? "approvals" =
        (session.artifacts.get? "approvals").or (current.artifacts.get? "approvals") := by
      rw [mergeSessionSnapshot_artifacts_eq]
      exact get?_mergeArtifacts hdistinct _ (by decide)
    cases hown : session.artifacts.get? "approvals" with
    | none =>
      rw [hown, Option.none_or] at hmerged
      have hread := hkeeps hown
      simp only [RunSession.approvals, hmerged, hread, hown]
    | some value =>
      rw [hown, Option.some_or] at hmerged
      have hcurrent := hmade.approvals (by simp [hown])
      simp only [RunSession.approvals, hmerged, hcurrent, hown]
      omega

namespace Tally

/-- What a save adds to the copy it was made from. -/
def amount (tally : Tally) : StoreOp → Nat
  | .saveSession session (some read) => tally.of session - tally.of read
  | _ => 0

/-- The sections of the calls: sessions of the run are read, and a saved session
is one of them with something added. -/
def Permits (tally : Tally) (runId : String) : StoreOp → Prop
  | .getSession other => other = runId
  | .saveSession session read =>
    session.runId = runId ∧ session.artifacts.Distinct ∧ ∃ copy, read = some copy ∧
      tally.of copy ≤ tally.of session ∧
      (session.artifacts.get? "approvals" = none → copy.artifacts.get? "approvals" = none)
  | _ => True

def Answers (runId : String) : (op : StoreOp) → StoreResp op → Prop
  | .getSession _, found =>
    ∃ session, found = some session ∧ session.runId = runId ∧ session.artifacts.Distinct
  | .saveSession _ _, stored => stored.runId = runId
  | _, _ => True

/-- The session of the run is live and counts `n`. -/
def Counts (tally : Tally) (config : StoreConfig) (runId : String) (n : Nat) (s : RunStore) :
    Prop :=
  s.Roomy config ∧ ∃ session, s.getRunSession runId = some session ∧
    session.artifacts.Distinct ∧ tally.of session = n

section

variable {tally : Tally} {config : StoreConfig} {hash : MerkleHash} {runId : String} {n : Nat}
variable {s t : RunStore}

theorem Counts.of_runs_eq (h : tally.Counts config runId n s) (hruns : t.runs = s.runs) :
    tally.Counts config runId n t := by
  obtain ⟨hroomy, session, hget, hrest⟩ := h
  refine ⟨hroomy.of_runs_eq hruns, session, ?_, hrest⟩
  rw [RunStore.getRunSession, hruns]
  exact hget

theorem Counts.save (h : tally.Counts config runId n s) {session stored : RunSession}
    {read : Option RunSession} (hpermits : tally.Permits runId (.saveSession session read))
    (htimely : (StoreOp.saveSession session read).Timely runId s)
    (hsave : s.saveSession config session = (stored, t)) :
    stored.runId = runId ∧
      tally.Counts config runId (n + tally.amount (.saveSession session read)) t := by
  obtain ⟨hroomy, current, hget, hcurrent, rfl⟩ := h
  obtain ⟨rfl, hdistinct, copy, rfl, hle, hkeeps⟩ := hpermits
  obtain ⟨u, hu, hroomy', hget', -⟩ := RunStore.saveSession_live hroomy hget
  rw [hu, Prod.mk.injEq] at hsave
  obtain ⟨rfl, rfl⟩ := hsave
  refine ⟨mergeSessionSnapshot_runId _ _, hroomy', _, hget', ?_, ?_⟩
  · rw [mergeSessionSnapshot_artifacts_eq]
    exact distinct_mergeArtifacts hcurrent _
  · have hmerge := tally.of_merge session copy current hdistinct hkeeps (htimely current hget)
    simp only [amount]
    omega

theorem Counts.step (h : tally.Counts config runId n s) {op : StoreOp} {r : StoreResp op}
    (hpermits : tally.Permits runId op) (hstep : timelyStep config hash runId op s r t) :
    Answers runId op r ∧ tally.Counts config runId (n + tally.amount op) t := by
  obtain ⟨htimely, hstep⟩ := hstep
  cases op with
  | getSession other =>
    obtain rfl : other = runId := hpermits
    obtain ⟨rfl, rfl⟩ := hstep
    have hlive := h
    obtain ⟨-, session, hget, hdistinct, -⟩ := hlive
    exact ⟨⟨session, hget, (RunStore.getRunSession_spec hget).2, hdistinct⟩, h⟩
  | saveSession session read => exact h.save hpermits htimely hstep
  | logNew | logGiven | cacheEvent | readCache | readLog | storeCache | timestamp | mirrorDue =>
    exact ⟨trivial, h.of_runs_eq (storeStep_runs hstep rfl)⟩

end

end Tally

section

variable (tally : Tally) (hash : MerkleHash) (runId : String)

/-- The program delivers `n` to the tally. -/
abbrev Tally.Gives (n : Nat) {α : Type} (p : StoreProg α) : Prop :=
  Delivers (tally.Permits runId) (Tally.Answers runId) tally.amount n p

variable {tally hash runId}

theorem gives_load : tally.Gives runId 0 (FileStateStore.loadRunEventsFromDisk runId) :=
  delivers_free trivial rfl fun _ _ => delivers_free trivial rfl fun _ _ => rfl

theorem gives_materialize (force : Bool) :
    tally.Gives runId 0 (FileStateStore.materializeVault runId force) := by
  refine delivers_free trivial rfl fun due _ => ?_
  cases due with
  | false => exact rfl
  | true =>
    refine delivers_free rfl rfl fun found _ => ?_
    cases found with
    | none => exact rfl
    | some session => exact delivers_then gives_load fun _ => rfl

theorem gives_save {session copy : RunSession} {added : Nat} (hid : session.runId = runId)
    (hdistinct : session.artifacts.Distinct) (hadded : tally.of session = tally.of copy + added)
    (hkeeps : session.artifacts.get? "approvals" = none →
      copy.artifacts.get? "approvals" = none) :
    tally.Gives runId added (FileStateStore.saveRunSession session (some copy)) := by
  have hpermits : tally.Permits runId (.saveSession session (some copy)) :=
    ⟨hid, hdistinct, copy, rfl, by omega, hkeeps⟩
  have hamount : tally.amount (.saveSession session (some copy)) = added := by
    simp only [Tally.amount]
    omega
  show Delivers _ _ _ added (Prog.bind (Prog.issue _) _)
  rw [← Nat.add_zero added, ← hamount]
  refine delivers_issue hpermits fun stored hstored => ?_
  obtain rfl : stored.runId = runId := hstored
  exact delivers_then (gives_materialize _) fun _ => rfl

theorem gives_advance (event : RunEvent) :
    tally.Gives runId 0 (FileStateStore.advanceSessionEventCursor hash runId event) := by
  refine delivers_free rfl rfl fun found hfound => ?_
  obtain ⟨session, rfl, hid, hdistinct⟩ := hfound
  dsimp only
  split
  · exact rfl
  · refine delivers_then (delivers_then gives_load fun _ => rfl) fun snapshot => ?_
    refine delivers_free trivial rfl fun now _ => ?_
    exact delivers_then (gives_save hid hdistinct (tally.of_cursor session _ _ _ _) id)
      fun _ => rfl

theorem gives_call (call : SessionCall) :
    tally.Gives runId (tally.adds call) (call.prog hash runId) := by
  cases call with
  | recordApproval approval =>
    refine delivers_free rfl rfl fun found hfound => ?_
    obtain ⟨session, rfl, hid, hdistinct⟩ := hfound
    refine delivers_free trivial rfl fun now _ => ?_
    rw [← Nat.add_zero (tally.adds _)]
    refine delivers_bind (gives_save hid ?_ (tally.of_approval session approval now) ?_)
      fun _ => rfl
    · exact distinct_withApproval hdistinct approval
    · exact fun hnone => absurd hnone (get?_withApproval _ approval)
  | recordOperatorNote note =>
    rw [← Nat.add_zero (tally.adds _)]
    refine delivers_bind ?_ fun _ => rfl
    refine delivers_free rfl rfl fun found hfound => ?_
    obtain ⟨session, rfl, hid, hdistinct⟩ := hfound
    refine delivers_free trivial rfl fun now _ => ?_
    rw [← Nat.add_zero (tally.adds _)]
    exact delivers_bind (gives_save hid hdistinct (tally.of_note session note now) id)
      fun _ => rfl
  | appendRunEvent draft =>
    rw [tally.adds_append]
    refine delivers_then ?_ fun _ => rfl
    refine delivers_free trivial rfl fun event _ => ?_
    refine delivers_free trivial rfl fun _ _ => ?_
    exact delivers_then (gives_advance event) fun _ => rfl

theorem gives_calls (calls : List SessionCall) :
    Owes (tally.Permits runId) (Tally.Answers runId) tally.amount
      (calls.map (SessionCall.prog hash runId)) (calls.map tally.adds).sum := by
  induction calls with
  | nil => exact .nil
  | cons call rest ih => exact .cons (gives_call call) ih

end

section

variable {config : StoreConfig} {hash : MerkleHash} {runId : String} {s t : RunStore}
variable {calls : List SessionCall} {trace : List (Event StoreOp StoreResp)}
variable {threads : List (StoreProg Unit)}

theorem counts_of_interleaving (tally : Tally) {session : RunSession} (hroomy : s.Roomy config)
    (hget : s.getRunSession runId = some session) (hdistinct : session.artifacts.Distinct)
    (h : Interleaves (timelyStep config hash runId) (calls.map (SessionCall.prog hash runId)) s
      trace threads t)
    (hdone : ∀ p ∈ threads, ∃ a, p = .ret a) :
    tally.Counts config runId (tally.of session + (calls.map tally.adds).sum) t :=
  h.delivered (fun _ _ _ _ _ hpermits hcounts hstep => hcounts.step hpermits hstep)
    (gives_calls calls) ⟨hroomy, session, hget, hdistinct, rfl⟩ hdone

/-- **No note and no approval is lost** when every save of an interleaving is timely. -/
theorem every_note_and_approval_kept {session : RunSession} (hroomy : s.Roomy config)
    (hget : s.getRunSession runId = some session) (hdistinct : session.artifacts.Distinct)
    (h : Interleaves (timelyStep config hash runId) (calls.map (SessionCall.prog hash runId)) s
      trace threads t)
    (hdone : ∀ p ∈ threads, ∃ a, p = .ret a) :
    ∃ later, t.getRunSession runId = some later ∧
      later.operatorNotes.Perm (session.operatorNotes ++ calls.flatMap SessionCall.notes) ∧
      later.approvals.Perm (session.approvals ++ calls.flatMap SessionCall.approvals) := by
  obtain ⟨-, later, hlater, -, -⟩ :=
    counts_of_interleaving (noteTally "") hroomy hget hdistinct h hdone
  refine ⟨later, hlater, List.perm_iff_count.mpr fun note => ?_,
    List.perm_iff_count.mpr fun approval => ?_⟩
  · obtain ⟨-, found, hfound, -, hcount⟩ :=
      counts_of_interleaving (noteTally note) hroomy hget hdistinct h hdone
    obtain rfl := Option.some.inj (hlater.symm.trans hfound)
    rw [List.count_append, List.count_flatMap]
    exact hcount
  · obtain ⟨-, found, hfound, -, hcount⟩ :=
      counts_of_interleaving (approvalTally approval) hroomy hget hdistinct h hdone
    obtain rfl := Option.some.inj (hlater.symm.trans hfound)
    rw [List.count_append, List.count_flatMap]
    exact hcount

end

def StoreOp.findsLists (s : RunStore) : StoreOp → Bool
  | .saveSession _ (some read) =>
    (s.getRunSession "run").all fun current =>
      current.operatorNotes = read.operatorNotes &&
        current.artifacts.get? "approvals" = read.artifacts.get? "approvals"
  | _ => true

theorem StoreOp.findsLists_timely {op : StoreOp} {s : RunStore} (h : op.findsLists s = true) :
    op.Timely "run" s := by
  unfold StoreOp.Timely
  split
  · next session read =>
    intro current hget
    simp only [findsLists, hget, Option.all_some, Bool.and_eq_true, decide_eq_true_eq] at h
    exact ⟨h.1, fun _ => h.2⟩
  · trivial

def timelyAnswer (config : StoreConfig) (hash : MerkleHash) (op : StoreOp) (s : RunStore) :
    Option (StoreResp op × RunStore) :=
  if op.findsLists s then sampleAnswer config hash op s else none

theorem timelyAnswer_step {config : StoreConfig} {hash : MerkleHash} (op : StoreOp)
    (s : RunStore) (r : StoreResp op) (t : RunStore)
    (h : timelyAnswer config hash op s = some (r, t)) : timelyStep config hash "run" op s r t := by
  by_cases hfinds : op.findsLists s = true
  · rw [timelyAnswer, if_pos hfinds] at h
    exact ⟨StoreOp.findsLists_timely hfinds, sampleAnswer_step op s r t h⟩
  · rw [timelyAnswer, if_neg hfinds] at h
    cases h

theorem every_note_and_approval_kept_sample :
    ∃ t later, ∃ threads : List (StoreProg Unit), ∃ trace,
      Interleaves (timelyStep ⟨100⟩ plainHash "run")
        ([.recordOperatorNote "a", .recordApproval .null].map (SessionCall.prog plainHash "run"))
        storeWithRun trace threads t ∧
      t.getRunSession "run" = some later ∧ later.operatorNotes.Perm ["a"] ∧
      later.approvals.Perm [.null] := by
  obtain ⟨⟨threads, t⟩, hrun⟩ := Option.isSome_iff_exists.mp (show (schedule
    (timelyAnswer ⟨100⟩ plainHash) [0, 0, 0, 0, 1, 1, 1, 1]
    ([.recordOperatorNote "a", .recordApproval .null].map (SessionCall.prog plainHash "run"))
    storeWithRun).isSome = true by decide +kernel)
  obtain ⟨trace, hinterleaves⟩ := schedule_interleaves timelyAnswer_step hrun
  have hdone : allReturned threads = true := by
    have hall : ((schedule (timelyAnswer ⟨100⟩ plainHash) [0, 0, 0, 0, 1, 1, 1, 1]
        ([.recordOperatorNote "a", .recordApproval .null].map
          (SessionCall.prog plainHash "run")) storeWithRun).map
        fun result => allReturned result.1) = some true := by decide +kernel
    rw [hrun] at hall
    exact Option.some.inj hall
  have hroomy : storeWithRun.Roomy ⟨100⟩ := ⟨by simp [storeWithRun], by decide⟩
  obtain ⟨later, hlater, hnotes, happrovals⟩ := every_note_and_approval_kept hroomy rfl
    (by simp [queuedSession, Dict.Distinct]) hinterleaves (exists_ret_of_allReturned hdone)
  exact ⟨t, later, threads, trace, hinterleaves, hlater, hnotes, happrovals⟩

/-- Two notes are recorded by two threads that both read the session before
either saves it: the first note is gone. -/
theorem concurrent_note_lost :
    ¬ ∀ (config : StoreConfig) (hash : MerkleHash) (runId : String) (calls : List SessionCall)
      (s t : RunStore) (session : RunSession) (trace : List (Event StoreOp StoreResp))
      (threads : List (StoreProg Unit)), s.Roomy config →
      s.getRunSession runId = some session → session.artifacts.Distinct →
      Interleaves (storeStep config hash) (calls.map (SessionCall.prog hash runId)) s trace
        threads t → (∀ p ∈ threads, ∃ a, p = .ret a) →
      ∃ later, t.getRunSession runId = some later ∧
        later.operatorNotes.Perm (session.operatorNotes ++ calls.flatMap SessionCall.notes) ∧
        later.approvals.Perm (session.approvals ++ calls.flatMap SessionCall.approvals) := by
  intro hclaim
  set calls : List SessionCall := [.recordOperatorNote "a", .recordOperatorNote "b"] with hcalls
  -- both read, then the first saves, then the second
  set result := schedule (sampleAnswer ⟨100⟩ plainHash) [0, 1, 0, 0, 0, 1, 1, 1]
    (calls.map (SessionCall.prog plainHash "run")) storeWithRun with hresult
  have hoverview : (result.map fun reached => (allReturned reached.1,
      (reached.2.getRunSession "run").map RunSession.operatorNotes)) =
      some (true, some ["b"]) := by
    decide +kernel
  cases hrun : result with
  | none => simp [hrun] at hoverview
  | some reached =>
    obtain ⟨threads, t⟩ := reached
    simp only [hrun, Option.map_some, Option.some.injEq, Prod.mk.injEq] at hoverview
    obtain ⟨hdone, hnotes⟩ := hoverview
    obtain ⟨trace, hinterleaves⟩ := schedule_interleaves sampleAnswer_step hrun
    have hroomy : storeWithRun.Roomy ⟨100⟩ := ⟨by simp [storeWithRun], by decide⟩
    obtain ⟨later, hlater, hperm, -⟩ := hclaim _ _ "run" calls _ t _ trace threads hroomy rfl
      (by simp [queuedSession, Dict.Distinct]) hinterleaves (exists_ret_of_allReturned hdone)
    rw [hlater, Option.map_some, Option.some.injEq] at hnotes
    rw [hnotes] at hperm
    exact absurd hperm.length_eq (by decide)

end OrbitalMesh
