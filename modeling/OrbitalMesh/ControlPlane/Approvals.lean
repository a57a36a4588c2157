import OrbitalMesh.ControlPlane.Interruptions

/-!
# What an approval is for

An approval is a command in the run's queue that does not say which decision it is
for: the run takes it when it next waits.  So an approval issued before the decision
was evaluated, or for another decision, releases the run as well.  As long as no such
approval is in the queue when an evaluation is recorded, every decision that is
executed was approved after its own evaluation (`approved_after_evaluation`).
-/

namespace OrbitalMesh

open Atomic Atomic.Raising

def Released : List SteeringCommand → Prop
  | [] => False
  | command :: rest => command.Approves ∨ ¬ command.EndsWait ∧ Released rest

def gatedStep (config : StoreConfig) (hash : MerkleHash) (op : RunOp) (s : MeshState)
    (r : op.Answer) (t : MeshState) : Prop :=
  s.control.autoMode = false ∧ t.control.autoMode = false ∧ runStep config hash op s r t

/-- When an evaluation is recorded that allows its decision, no approval is in the
queue that would release the run. -/
def RecordsAfresh : RunOp → MeshState × RunTrace → Prop
  | .record (.store (.logNew draft)), s => draft.eventType = "evaluation_ready" →
      ∀ evaluation ∈ (judged s.2).getLast?, evaluation.Allows → ¬ Released s.1.control.commands
  | _, _ => True

def afreshStep (config : StoreConfig) (hash : MerkleHash) (op : RunOp)
    (s : MeshState × RunTrace) (r : op.Answer) (t : MeshState × RunTrace) : Prop :=
  RecordsAfresh op s ∧ traced (gatedStep config hash) op s r t

variable (decision : ContractDecision) (evaluation : EvaluationResult)

/-- The decision was evaluated last, and `late` is what has happened since. -/
def EvaluatedLast (past late : RunTrace) : Prop :=
  ∃ earlier trigger allow,
    past = earlier ++ ⟨.evaluate trigger decision allow, .ok evaluation⟩ :: late ∧ judged late = []

def JustEvaluated (s : MeshState × RunTrace) : Prop :=
  ∃ late, EvaluatedLast decision evaluation s.2 late

/-- The evaluation of the decision was recorded, and `late` is what has happened
since. -/
def RecordedLast (past late : RunTrace) : Prop :=
  ∃ middle draft logged, EvaluatedLast decision evaluation past
      (middle ++ ⟨.record (.store (.logNew draft)), .ok logged⟩ :: late) ∧
    draft.eventType = "evaluation_ready" ∧ draft.payload = evaluation.asDict

/-- What the run has taken last is an approval that was issued after the evaluation
of the decision had been recorded. -/
def ApprovedSince (past : RunTrace) : Prop :=
  ∃ late pending fresh approval, RecordedLast decision evaluation past late ∧
    taken late = pending ++ (fresh ++ [approval]) ∧ fresh ++ [approval] <+: issued late ∧
    approval.Approves

/-- A run at the gate: what it takes was pending when the evaluation was recorded, or was issued
since. -/
def AwaitsApproval (s : MeshState × RunTrace) : Prop :=
  ∃ late pending, RecordedLast decision evaluation s.2 late ∧
    taken late ++ s.1.control.commands = pending ++ issued late ∧
    (evaluation.Allows → ¬ Released (pending.drop (taken late).length))

section

variable {config : StoreConfig} {hash : MerkleHash} {decision : ContractDecision}
variable {evaluation : EvaluationResult} {s t : MeshState × RunTrace} {past late more : RunTrace}

theorem afreshStep_run (op : RunOp) (s : MeshState × RunTrace) (r : op.Answer)
    (t : MeshState × RunTrace) (h : afreshStep config hash op s r t) :
    traced (runStep config hash) op s r t := ⟨h.2.1.2.2, h.2.2⟩

theorem EvaluatedLast.append (h : EvaluatedLast decision evaluation past late)
    (hmore : judged more = []) :
    EvaluatedLast decision evaluation (past ++ more) (late ++ more) := by
  obtain ⟨earlier, trigger, allow, rfl, hlate⟩ := h
  exact ⟨earlier, trigger, allow, by simp, by simp [hlate, hmore]⟩

theorem EvaluatedLast.getLast (h : EvaluatedLast decision evaluation past late) :
    (judged past).getLast? = some evaluation := by
  obtain ⟨earlier, trigger, allow, rfl, hlate⟩ := h
  have hjudged : judged (⟨.evaluate trigger decision allow, .ok evaluation⟩ :: late) =
      evaluation :: judged late := rfl
  rw [judged_append, hjudged, hlate, List.getLast?_append]
  rfl

theorem JustEvaluated.moves (h : JustEvaluated decision evaluation s) (hmoves : Moves s t) :
    JustEvaluated decision evaluation t := by
  obtain ⟨late, hlate⟩ := h
  obtain ⟨more, hpast, -, hjudged, -⟩ := hmoves.past
  refine ⟨late ++ more, ?_⟩
  rw [hpast]
  exact hlate.append hjudged

theorem RecordedLast.append (h : RecordedLast decision evaluation past late)
    (hmore : judged more = []) :
    RecordedLast decision evaluation (past ++ more) (late ++ more) := by
  obtain ⟨middle, draft, logged, hlast, htype, hpayload⟩ := h
  refine ⟨middle, draft, logged, ?_, htype, hpayload⟩
  simpa using hlast.append hmore

theorem ApprovedSince.moves (h : ApprovedSince decision evaluation s.2) (hmoves : Moves s t) :
    ApprovedSince decision evaluation t.2 := by
  obtain ⟨more, hpast, htaken, hjudged, -⟩ := hmoves.past
  obtain ⟨late, pending, fresh, approval, hlast, hlate, hissued, happroves⟩ := h
  refine ⟨late ++ more, pending, fresh, approval, ?_, ?_, ?_, happroves⟩
  · rw [hpast]
    exact hlast.append hjudged
  · rw [taken_append, htaken, List.append_nil, hlate]
  · rw [issued_append]
    exact hissued.trans (List.prefix_append _ _)

theorem AwaitsApproval.moves (h : AwaitsApproval decision evaluation s) (hmoves : Moves s t) :
    AwaitsApproval decision evaluation t := by
  obtain ⟨more, hpast, htaken, hjudged, hqueue⟩ := hmoves.past
  obtain ⟨late, pending, hlast, horder, hreleased⟩ := h
  refine ⟨late ++ more, pending, ?_, ?_, ?_⟩
  · rw [hpast]
    exact hlast.append hjudged
  · rw [taken_append, htaken, List.append_nil, hqueue, ← List.append_assoc, horder, issued_append,
      List.append_assoc]
  · rwa [taken_append, htaken, List.append_nil]

theorem AwaitsApproval.changed (h : AwaitsApproval decision evaluation s)
    {e : Event RunOp RunOp.Answer} (hqueue : t.1.control.commands = s.1.control.commands)
    (hpast : t.2 = s.2 ++ [e]) (htaken : takenBy e = none) (hissued : issuedBy e = none)
    (hjudged : judgedBy e = none) : AwaitsApproval decision evaluation t := by
  obtain ⟨late, pending, hlast, horder, hreleased⟩ := h
  refine ⟨late ++ [e], pending, ?_, ?_, ?_⟩
  · rw [hpast]
    exact hlast.append (by simp [judged, hjudged])
  · rw [taken_concat htaken, issued_concat hissued, hqueue, horder]
  · rwa [taken_concat htaken]

theorem next_of_append_eq {α : Type} {xs zs first second : List α} {y : α}
    (h : xs ++ y :: zs = first ++ second) :
    first.drop xs.length = y :: first.drop (xs.length + 1) ∨
      first.drop (xs.length + 1) = [] ∧
        ∃ fresh, xs = first ++ fresh ∧ second = fresh ++ y :: zs := by
  rcases List.append_eq_append_iff.mp h with ⟨front, hfirst, hrest⟩ | ⟨front, hxs, hrest⟩
  · cases front with
    | nil =>
      refine .inr ⟨by simp [hfirst], [], by simpa using hfirst.symm, by simpa using hrest.symm⟩
    | cons head front =>
      obtain ⟨rfl, -⟩ := List.cons.inj hrest
      exact .inl (by simp [hfirst, ← List.drop_drop])
  · refine .inr ⟨List.drop_eq_nil_iff.mpr ?_, front, hxs, hrest⟩
    rw [hxs, List.length_append]
    omega

variable {next : SteeringCommand}

theorem RecordedLast.take (h : RecordedLast decision evaluation s.2 late)
    (hpast : t.2 = s.2 ++ [⟨.popCommand, .ok next⟩]) :
    ∃ later, RecordedLast decision evaluation t.2 later ∧ taken later = taken late ++ [next] ∧
      issued later = issued late := by
  refine ⟨late ++ [⟨.popCommand, .ok next⟩], ?_, by simp [taken, takenBy], issued_concat rfl _⟩
  rw [hpast]
  exact h.append rfl

theorem AwaitsApproval.approved (h : AwaitsApproval decision evaluation s)
    (hallows : evaluation.Allows) {approval : SteeringCommand} (happroves : approval.Approves)
    (hstep : afreshStep config hash .popCommand s (.ok approval) t) :
    ApprovedSince decision evaluation t.2 := by
  obtain ⟨hqueue, -, -, hpast, -⟩ := taken_of_pop afreshStep_run hstep
  obtain ⟨late, pending, hlast, horder, hreleased⟩ := h
  rw [hqueue] at horder
  obtain ⟨later, hlater, htaken, hissued⟩ := hlast.take hpast
  rcases next_of_append_eq horder with hpending | ⟨-, fresh, hfresh, hrest⟩
  · refine absurd ?_ (hreleased hallows)
    rw [hpending]
    exact .inl happroves
  · refine ⟨later, pending, fresh, approval, hlater, ?_, ?_, happroves⟩
    · rw [htaken, hfresh, List.append_assoc]
    · rw [hissued, hrest]
      exact ⟨t.1.control.commands, by simp⟩

theorem AwaitsApproval.take (h : AwaitsApproval decision evaluation s) (hgoes : ¬ next.EndsWait)
    (hstep : afreshStep config hash .popCommand s (.ok next) t) :
    AwaitsApproval decision evaluation t := by
  obtain ⟨hqueue, -, -, hpast, -⟩ := taken_of_pop afreshStep_run hstep
  obtain ⟨late, pending, hlast, horder, hreleased⟩ := h
  rw [hqueue] at horder
  obtain ⟨later, hlater, htaken, hissued⟩ := hlast.take hpast
  refine ⟨later, pending, hlater, ?_, fun hallows hleft => ?_⟩
  · rw [htaken, hissued, ← horder, List.append_assoc, List.singleton_append]
  · rw [htaken, List.length_append, List.length_singleton] at hleft
    rcases next_of_append_eq horder with hpending | ⟨hnone, -⟩
    · refine hreleased hallows ?_
      rw [hpending]
      exact .inr ⟨hgoes, hleft⟩
    · rw [hnone] at hleft
      exact hleft

theorem approval_gatekeeping {permits : ContractDecision → EvaluationResult → RunTrace → Prop} :
    Gatekeeping Prod.fst (workerWithPast (afreshStep config hash) permits) (some evaluation)
      (AwaitsApproval decision evaluation)
      (fun s => AwaitsApproval decision evaluation s ∧
        (Opens "evaluation_ready" (some evaluation) → s.1.control.autoMode = false))
      (fun s => ApprovedSince decision evaluation s.2) (fun _ => True) := by
  refine holding_gatekeeping afreshStep_run ?_ ?_ AwaitsApproval.moves ApprovedSince.moves
    (fun _ _ => trivial) ?_ ?_ ?_ fun _ _ _ => trivial
  · intro _ op s r t _ hstep
    obtain ⟨-, ⟨hoff, hstill, hrun⟩, -⟩ := hstep
    unfold HoldsOut
    split
    · exact fun _ => hoff
    · rw [show t.1 = _ from hrun] at hstill
      exact hstill
    · trivial
  · intro _ s stages t _ hstep hopen
    exact absurd (hstep.2.1.1.symm.trans hopen.1) (by decide)
  · intro s enabled u t h hstep
    obtain ⟨-, ⟨-, -, hrun⟩, hpast⟩ := hstep
    exact h.changed (by rw [show t.1 = _ from hrun]) hpast rfl rfl rfl
  · intro s stage u t h hstep
    obtain ⟨-, ⟨-, -, hrun⟩, hpast⟩ := hstep
    exact h.changed (by rw [show t.1 = _ from hrun]) hpast rfl rfl rfl
  · intro s next t h hstep hgoes
    refine ⟨h.take hgoes hstep, fun happroves hopens => ?_⟩
    exact h.approved (opens_allows hopens) happroves hstep

theorem EvaluatedLast.of_step {trigger : Dict} {allow : Bool}
    (hstep : afreshStep config hash (.evaluate trigger decision allow) s (.ok evaluation) t) :
    EvaluatedLast decision evaluation t.2 [] :=
  ⟨s.2, trigger, allow, hstep.2.2, rfl⟩

theorem AwaitsApproval.of_log {draft : EventDraft} {logged : RunEvent}
    (h : EvaluatedLast decision evaluation s.2 late) (htype : draft.eventType = "evaluation_ready")
    (hpayload : draft.payload = evaluation.asDict)
    (hstep : afreshStep config hash (.record (.store (.logNew draft))) s (.ok logged) t) :
    AwaitsApproval decision evaluation t := by
  obtain ⟨hafresh, ⟨-, -, hrun⟩, hpast⟩ := hstep
  obtain ⟨store, -, ht⟩ : ∃ store, _ ∧ t.1 = { s.1 with store } := hrun
  refine ⟨[], s.1.control.commands, ?_, ?_, ?_⟩
  · refine ⟨late, draft, logged, ?_, htype, hpayload⟩
    rw [hpast]
    exact h.append rfl
  · rw [ht]
    simp [taken, issued]
  · exact hafresh htype evaluation h.getLast

end

section

variable {config : StoreConfig} {hash : MerkleHash} {runId : String} {s : MeshState × RunTrace}
variable {permits : ContractDecision → EvaluationResult → RunTrace → Prop}

theorem recordEvaluation_awaits {modes : RunModes} {decision : ContractDecision}
    {evaluation : EvaluationResult} {allowRereevaluation : Bool}
    (hs : JustEvaluated decision evaluation s) :
    Leads (workerWithPast (afreshStep config hash) permits)
      (record (recordEvaluation hash runId modes decision evaluation allowRereevaluation))
      (fun _ t => AwaitsApproval decision evaluation t) s := by
  have hw : Working config hash Prod.fst (workerWithPast (afreshStep config hash) permits) :=
    working afreshStep_run
  refine leads_record_bind (hw.quiet_leads (setArtifact_quiet _ _) JustEvaluated.moves hs)
    fun _ t ht => ?_
  refine leads_record_bind (hw.quiet_leads (updateSession_quiet _) JustEvaluated.moves ht)
    fun _ u hu => ?_
  refine leads_record_bind (hw.appendRunEvent_leads (K := AwaitsApproval decision evaluation)
    JustEvaluated.moves AwaitsApproval.moves ?_ hu) fun _ v hv => ?_
  · rintro v logged w ⟨late, hlate⟩ hstep
    exact .of_log hlate rfl rfl hstep
  · exact hw.quiet_leads (afterEvaluation_quiet _ _ _) AwaitsApproval.moves hv

/-- **An approval is for the plan that runs** as long as none is in the queue when an evaluation is
recorded. -/
theorem approved_after_evaluation {modes : RunModes} {signal : Dict}
    {scenarioKey : Option String} {rounds : Nat} {requests : List OperatorRequest} {s : MeshState}
    {t : MeshState × RunTrace} {before rest : RunTrace} {threads : List (Coord Unit)}
    {decision : ContractDecision} {evaluation : EvaluationResult} {answer : Except PyError Dict}
    (hrun : Interleaves (afreshStep config hash)
      (executeRun hash runId modes signal scenarioKey rounds ::
        requestThreads hash runId () requests) (s, [])
      (before ++ ⟨.execute decision evaluation, answer⟩ :: rest) threads t) :
    ApprovedSince decision evaluation before := by
  have hw : Working config hash Prod.fst (workerWithPast (afreshStep config hash) ApprovedSince) :=
    working afreshStep_run
  have hleads : Leads (workerWithPast (afreshStep config hash) ApprovedSince)
      (executeRun hash runId modes signal scenarioKey rounds) (fun _ _ => True) (s, []) := by
    refine hw.executeRun_leads (J := fun _ => True) (fun _ _ => trivial)
      (fun _ _ _ _ _ _ _ => trivial) (fun _ _ => approval_gatekeeping) ?_
      (fun _ _ _ _ => trivial) (fun _ _ _ h => h) trivial
    intro source trigger decision allow u _
    refine hw.recordDecisionAndEvaluation_leads (J := fun _ => True) (fun _ _ => trivial)
      @JustEvaluated.moves @AwaitsApproval.moves ?_ ?_ trivial
    · exact fun _ _ _ _ _ hstep => ⟨[], .of_step hstep⟩
    · exact fun _ _ _ hv => recordEvaluation_awaits hv
  exact executed_where_permitted afreshStep_run hleads requestThreads_quiet hrun

end

instance decidableReleased : (queue : List SteeringCommand) → Decidable (Released queue)
  | [] => isFalse id
  | _ :: rest =>
    have := decidableReleased rest
    inferInstanceAs (Decidable (_ ∨ _ ∧ _))

instance (op : RunOp) (s : MeshState × RunTrace) : Decidable (RecordsAfresh op s) := by
  rcases op with ((_ | _) | _) | _ <;> unfold RecordsAfresh <;> infer_instance

variable (op : RunOp)

def gatedAnswer (s : MeshState) : Option (op.Answer × MeshState) :=
  match sampleRunAnswer op s with
  | some (r, t) =>
    if s.control.autoMode = false ∧ t.control.autoMode = false then some (r, t) else none
  | none => none

theorem gatedAnswer_step (s : MeshState) (r : op.Answer) (t : MeshState)
    (h : gatedAnswer op s = some (r, t)) : gatedStep ⟨100⟩ plainHash op s r t := by
  unfold gatedAnswer at h
  split at h
  · next hanswer =>
    split at h
    · next hoff =>
      cases h
      exact ⟨hoff.1, hoff.2, sampleRunAnswer_step op s _ _ hanswer⟩
    · cases h
  · cases h

def afreshAnswer (s : MeshState × RunTrace) :
    Option (op.Answer × MeshState × RunTrace) :=
  if RecordsAfresh op s then
    (gatedAnswer op s.1).map fun (r, t) => (r, t, s.2 ++ [⟨op, r⟩])
  else none

theorem afreshAnswer_step (s : MeshState × RunTrace) (r : op.Answer)
    (t : MeshState × RunTrace) (h : afreshAnswer op s = some (r, t)) :
    afreshStep ⟨100⟩ plainHash op s r t := by
  unfold afreshAnswer at h
  split at h
  · next hafresh =>
    obtain ⟨⟨answer, u⟩, hanswer, hpair⟩ := Option.map_eq_some_iff.mp h
    cases hpair
    exact ⟨hafresh, gatedAnswer_step op s.1 _ _ hanswer, rfl⟩
  · cases h

def approvedRun : List (Coord Unit) :=
  executeRun plainHash "run" ⟨"native", "native"⟩ [] none 1 ::
    requestThreads plainHash "run" () [.steer 1000 [("command", .str "approve")]]

def gatedStart : MeshState := ⟨storeWithRun, ⟨[], false, []⟩, true⟩

theorem approved_after_evaluation_sample :
    ∃ before decision evaluation threads t,
      Interleaves (afreshStep ⟨100⟩ plainHash) approvedRun (gatedStart, [])
        (before ++ [⟨.execute decision evaluation, .ok []⟩]) threads t ∧
      ApprovedSince decision evaluation before := by
  have hoverview : ((scheduleTrace afreshAnswer
      (List.replicate 130 0 ++ List.replicate 17 1 ++ List.replicate 26 0) approvedRun
      (gatedStart, [])).map fun reached =>
        (aboutToExecute reached.2.1, reached.2.2.1.control.autoMode)) = some (true, false) := by
    decide +kernel
  obtain ⟨⟨before, threads, u⟩, hschedule, hreached⟩ := Option.map_eq_some_iff.mp hoverview
  obtain ⟨hnext, hoff⟩ := Prod.mk.inj hreached
  obtain ⟨decision, evaluation, k, rest, rfl⟩ := aboutToExecute_inv hnext
  have hbefore := scheduleTrace_interleaves afreshAnswer_step hschedule
  have hrun := @Interleaves.tail _ _ _ _ (afreshStep ⟨100⟩ plainHash) _ [] rest _ k _ _
    (u.1, u.2 ++ [⟨.execute decision evaluation, .ok []⟩]) (.ok []) before hbefore
    ⟨trivial, ⟨hoff, hoff, u.1.store, rfl⟩, rfl⟩
  exact ⟨before, decision, evaluation, _, _, hrun, approved_after_evaluation hrun⟩

def evaluatesOrIssues (e : Event RunOp RunOp.Answer) : Option Bool :=
  if (judgedBy e).isSome then some true else if (issuedBy e).isSome then some false else none

theorem ApprovedSince.issued_late {decision : ContractDecision} {evaluation : EvaluationResult}
    {past : RunTrace} (h : ApprovedSince decision evaluation past) :
    [true, false].Sublist (past.filterMap evaluatesOrIssues) := by
  obtain ⟨late, pending, fresh, approval, hlast, -, hissued, -⟩ := h
  obtain ⟨middle, draft, logged, ⟨earlier, trigger, allow, rfl, -⟩, -⟩ := hlast
  have hmem : approval ∈ issued late := hissued.subset (by simp)
  obtain ⟨e, he, hissuedBy⟩ := List.mem_filterMap.mp hmem
  have hjudged : judgedBy e = none := by
    unfold issuedBy at hissuedBy
    split at hissuedBy
    · rfl
    · cases hissuedBy
  have hissues : evaluatesOrIssues e = some false := by
    simp [evaluatesOrIssues, hjudged, hissuedBy]
  have hevaluates : evaluatesOrIssues ⟨.evaluate trigger decision allow, .ok evaluation⟩ =
      some true := rfl
  rw [List.filterMap_append, List.filterMap_cons_some hevaluates, List.filterMap_append]
  refine List.Sublist.trans ?_ (List.sublist_append_right _ _)
  refine List.Sublist.cons_cons true (List.Sublist.trans ?_ (List.sublist_append_right _ _))
  exact List.singleton_sublist.mpr
    (List.mem_filterMap.mpr ⟨e, List.mem_cons_of_mem _ he, hissues⟩)

/-- An approval that is issued before the run has even begun releases it. -/
theorem early_approval_releases :
    ¬ ∀ (config : StoreConfig) (hash : MerkleHash) (runId : String) (modes : RunModes)
      (signal : Dict) (scenarioKey : Option String) (rounds : Nat)
      (requests : List OperatorRequest) (s t : MeshState) (before rest : RunTrace)
      (threads : List (Coord Unit)) (decision : ContractDecision)
      (evaluation : EvaluationResult) (answer : Except PyError Dict),
      Interleaves (gatedStep config hash)
        (executeRun hash runId modes signal scenarioKey rounds ::
          requestThreads hash runId () requests) s
        (before ++ ⟨.execute decision evaluation, answer⟩ :: rest) threads t →
      ApprovedSince decision evaluation before := by
  intro hclaim
  have hoverview : ((scheduleTrace gatedAnswer (List.replicate 17 1 ++ List.replicate 156 0)
      approvedRun gatedStart).map fun reached => (aboutToExecute reached.2.1,
        reached.2.2.control.autoMode, reached.1.filterMap evaluatesOrIssues)) =
      some (true, false, [false, true]) := by
    decide +kernel
  obtain ⟨⟨before, threads, u⟩, hschedule, hreached⟩ := Option.map_eq_some_iff.mp hoverview
  simp only [Prod.mk.injEq] at hreached
  obtain ⟨hnext, hoff, horder⟩ := hreached
  obtain ⟨decision, evaluation, k, rest, rfl⟩ := aboutToExecute_inv hnext
  have hbefore := scheduleTrace_interleaves gatedAnswer_step hschedule
  have hrun := @Interleaves.tail _ _ _ _ (gatedStep ⟨100⟩ plainHash) _ [] rest _ k _ _ u
    (.ok []) before hbefore ⟨hoff, hoff, u.store, rfl⟩
  have happroved := hclaim _ _ _ _ _ _ _ [.steer 1000 [("command", .str "approve")]] gatedStart u
    before [] _ decision evaluation (.ok []) hrun
  have horders := happroved.issued_late
  rw [horder] at horders
  exact absurd horders (by decide)

end OrbitalMesh
