import OrbitalMesh.ControlPlane.ExecutionGate
import OrbitalMesh.ControlPlane.Recordings

/-!
# How a run leaves the gate at `evaluation_ready`

A run goes on past the gate in one of three ways: the control is found open on
arrival, the waiting run finds the mode on, or it takes an approval from its
queue.  The rules say so for any account of what is true of a run that stands at
the gate, of one that looks whether it may go on by itself, and of one that may
leave (`Gatekeeping`); each property of the gate is such an account.
-/

namespace OrbitalMesh

open Atomic Atomic.Raising

variable (command : SteeringCommand)

/-- The command releases a waiting run. -/
def SteeringCommand.Approves : Prop :=
  command.commandType = "approve" ∨ command.commandType = "resume"

instance (command : SteeringCommand) : Decidable command.Approves :=
  inferInstanceAs (Decidable (_ ∨ _))

def SteeringCommand.Replaces : Prop :=
  steeringDecisionCommands.contains command.commandType = true

instance (command : SteeringCommand) : Decidable command.Replaces :=
  inferInstanceAs (Decidable (_ = true))

def SteeringCommand.EndsWait : Prop :=
  command.commandType = "cancel" ∨ command.Replaces

instance (command : SteeringCommand) : Decidable command.EndsWait :=
  inferInstanceAs (Decidable (_ ∨ _))

theorem SteeringCommand.Approves.not_endsWait {command : SteeringCommand} (h : command.Approves) :
    ¬ command.EndsWait := by
  unfold SteeringCommand.EndsWait SteeringCommand.Replaces
  rcases h with h | h
  all_goals
    rw [h]
    decide

def MeshState.OpenGate (s : MeshState) : Prop :=
  s.control.autoMode = true ∧ "evaluation_ready" ∉ s.control.pausePoints

def RunOp.acts : RunOp → Bool
  | .execute _ _ => true
  | _ => false

section

variable {τ : Type} (config : StoreConfig) (hash : MerkleHash) (mesh : τ → MeshState)
variable (D : Discipline RunOp RunOp.Answer τ)

/-- Everything but the execution is allowed to the worker, its sections do what those of a run
do, and the others are quiet. -/
structure Working : Prop where
  free : ∀ {op : RunOp} {s : τ}, op.acts = false → D.allowed op s
  cost : ∀ op r, D.spend op r = 0
  runs : ∀ {op s r t}, D.step op s r t → runStep config hash op (mesh s) r (mesh t)
  quiet : ∀ {op : RecordOp} {s r t}, op.Quiet → D.step (.record op) s r t → D.rely s t
  beside : ∀ {s t}, D.rely s t → Beside (mesh s) (mesh t)

/-- What is true of a run that stands at the gate, of one that is about to look whether it goes
on by itself, of one that may leave, and of one that is given another decision. -/
structure Gatekeeping (evaluation : Option EvaluationResult)
    (stands looks leaves again : τ → Prop) : Prop where
  stands_stable : ∀ {s t}, stands s → D.rely s t → stands t
  looks_stable : ∀ {s t}, looks s → D.rely s t → looks t
  leaves_stable : ∀ {s t}, leaves s → D.rely s t → leaves t
  again_stable : ∀ {s t}, again s → D.rely s t → again t
  waits : ∀ {s}, looks s → stands s
  readPauses : ∀ {s stages t}, stands s → D.step (.record .pausePoints) s stages t → stands t
  readMode : ∀ {s enabled t}, stands s → D.step (.record .autoMode) s enabled t → stands t
  readQueue : ∀ {s found t}, stands s → D.step (.record .hasCommands) s found t → stands t
  /-- the queue was found empty -/
  empty : ∀ {s t}, stands s → D.step (.record .hasCommands) s false t → looks t
  /-- a command has set the mode -/
  mode : ∀ {s enabled u t}, stands s → D.step (.record (.setAutoMode enabled)) s u t → looks t
  lookMode : ∀ {s enabled t}, looks s → D.step (.record .autoMode) s enabled t → looks t
  /-- a command has added a pause point -/
  pause : ∀ {s stage u t}, stands s → D.step (.record (.addPausePoint stage)) s u t → stands t
  /-- the mode is on while the run waits -/
  byItself : ∀ {s t}, Opens "evaluation_ready" evaluation → looks s →
    D.step (.record .autoMode) s true t → leaves t
  /-- the control is open on arrival -/
  onArrival : ∀ {s stages t}, Opens "evaluation_ready" evaluation → stands s →
    (mesh s).OpenGate → D.step (.record .pausePoints) s stages t → leaves t
  /-- a command is taken from the queue -/
  take : ∀ {s command t}, stands s → D.step .popCommand s (.ok command) t →
    ¬ command.EndsWait →
    stands t ∧ (command.Approves → Opens "evaluation_ready" evaluation → leaves t)
  /-- a command for another decision is taken -/
  replace : ∀ {s command t}, stands s → D.step .popCommand s (.ok command) t →
    command.Replaces → again t

variable {config hash mesh D} {α β : Type} {s : τ} {x : Recording α} {J : τ → Prop}

theorem leads_record_bind {f : α → Recording β} {Q : α → τ → Prop} {Q' : β → τ → Prop}
    (hx : Leads D (record x) Q s) (hf : ∀ a t, Q a t → Leads D (record (f a)) Q' t) :
    Leads D (record (x >>= f)) Q' s := by
  rw [record_bind]
  exact leads_andThen hx hf

variable (hw : Working config hash mesh D)

include hw

theorem Working.quiet_leads (hx : QuietCall x) (hJ : ∀ {s t}, J s → D.rely s t → J t) (hs : J s) :
    Leads D (record x) (fun _ t => J t) s := by
  refine leads_of_uses (P := fun op => ∃ o : RecordOp, op = .record o ∧ o.Quiet)
    (record_uses (hx.mono fun op hop => ⟨op, rfl, hop⟩)) ?_ hw.cost (fun t u => hJ) ?_ hs
  · rintro _ t ⟨op, rfl, -⟩
    exact hw.free rfl
  · rintro _ t r u ⟨op, rfl, hop⟩ ht hstep
    exact hJ ht (hw.quiet hop hstep)

theorem Working.free_leads {x : Coord α} (hx : Prog.Uses (fun op => op.acts = false) x) :
    Leads D x (fun _ _ => True) s :=
  leads_of_uses (J := fun _ => True) hx (fun _ _ hop => hw.free hop) hw.cost
    (fun _ _ _ _ => trivial) (fun _ _ _ _ _ _ _ => trivial) trivial

theorem Working.section_leads {op : RecordOp} {ok : op.Answer → τ → Prop}
    (hok : ∀ t r u v, D.rely s t → D.step (.record op) t r u → D.rely u v → ok r v) :
    Leads D (record (perform op)) ok s :=
  leads_perform (fun _ => hw.free rfl) (hw.cost _) hok

theorem Working.appendRunEvent_leads {draft : EventDraft} {K : τ → Prop}
    (hJ : ∀ {s t}, J s → D.rely s t → J t) (hK : ∀ {s t}, K s → D.rely s t → K t)
    (hlog : ∀ t event u, J t → D.step (.record (.store (.logNew draft))) t (.ok event) u → K u)
    (hs : J s) : Leads D (record (appendRunEvent hash draft)) (fun _ t => K t) s := by
  have hfirst : Leads D (record (onStore (FileStateStore.logNew draft))) (fun _ t => K t) s := by
    have hcall : onStore (FileStateStore.logNew draft) =
        (Prog.call (RecordOp.store (.logNew draft)) (storeAnswered .ret) : Recording RunEvent) :=
      onStore_call
    rw [hcall]
    intro c t hst
    refine ⟨hw.free rfl, fun r u hstep => ⟨by rw [hw.cost]; omega, ?_⟩⟩
    match r with
    | .error e =>
      intro v huv event hevent
      cases hevent
    | .ok event =>
      intro v huv _ _
      exact hK (hlog t event u (hJ hs hst) hstep) huv
  have hall : Leads D (record (onStore (FileStateStore.appendRunEvent hash draft)))
      (fun _ t => K t) s := by
    unfold FileStateStore.appendRunEvent
    rw [onStore_bind]
    exact leads_record_bind hfirst fun event t ht => hw.quiet_leads (onStore_quiet _) hK ht
  exact leads_record_bind hall fun _ t ht => leads_pure fun u htu => hK ht htu

variable {evaluation : Option EvaluationResult} {stands looks leaves again : τ → Prop}
variable (hg : Gatekeeping mesh D evaluation stands looks leaves again)

include hg

theorem Gatekeeping.pausesAt_leads (hs : stands s) :
    Leads D (record (pausesAt "evaluation_ready")) (fun _ t => stands t) s := by
  refine leads_record_bind (hw.section_leads fun t stages u v hst hstep huv => ?_)
    fun stages t ht => leads_pure fun u htu => hg.stands_stable ht htu
  exact hg.stands_stable (hg.readPauses (hg.stands_stable hs hst) hstep) huv

theorem Gatekeeping.readMode_leads (hs : stands s) :
    Leads D (record (perform .autoMode)) (fun enabled t => stands t ∧
      (enabled = true → (mesh t).control.autoMode = true ∨
        "evaluation_ready" ∈ (mesh t).control.pausePoints)) s := by
  refine hw.section_leads fun t enabled u v hst hstep huv => ?_
  refine ⟨hg.stands_stable (hg.readMode (hg.stands_stable hs hst) hstep) huv, fun hon => ?_⟩
  obtain ⟨henabled, hsame⟩ := hw.runs hstep
  refine (hw.beside huv).on_or_paused (.inl ?_)
  rw [hsame, ← henabled]
  exact hon

theorem Gatekeeping.requiresPause_leads (hs : stands s) :
    Leads D (record (requiresPause "evaluation_ready")) (fun _ t => stands t) s := by
  refine leads_record_bind (hg.pausesAt_leads hw hs) fun paused t ht => ?_
  split
  · exact leads_pure fun u htu => hg.stands_stable ht htu
  · refine leads_record_bind (hg.readMode_leads hw ht) fun enabled u hu => ?_
    exact leads_pure fun v huv => hg.stands_stable hu.1 huv

theorem Gatekeeping.openPause_leads (hopens : Opens "evaluation_ready" evaluation)
    (hs : stands s) (hseen : (mesh s).control.autoMode = true ∨
      "evaluation_ready" ∈ (mesh s).control.pausePoints) :
    Leads D (record (pausesAt "evaluation_ready"))
      (fun paused t => stands t ∧ (paused = false → leaves t)) s := by
  refine leads_record_bind (Q := fun stages t => stands t ∧
    (stages.contains "evaluation_ready" = false → leaves t)) ?_ fun stages t ht => ?_
  · refine hw.section_leads fun t stages u v hst hstep huv => ?_
    have ht := hg.stands_stable hs hst
    refine ⟨hg.stands_stable (hg.readPauses ht hstep) huv, fun habsent => ?_⟩
    obtain ⟨hstages, -⟩ := hw.runs hstep
    have hnot : "evaluation_ready" ∉ (mesh t).control.pausePoints := by
      rw [← hstages]
      simpa using habsent
    have hopen : (mesh t).OpenGate :=
      ⟨((hw.beside hst).on_or_paused hseen).resolve_right hnot, hnot⟩
    exact hg.leaves_stable (hg.onArrival hopens ht hopen hstep) huv
  · exact leads_pure fun u htu =>
      ⟨hg.stands_stable ht.1 htu, fun habsent => hg.leaves_stable (ht.2 habsent) htu⟩

/-- What is found on arrival lets the run through only where it may leave. -/
theorem Gatekeeping.evaluationContinues_leads (hs : stands s) :
    Leads D (record (evaluationContinues "evaluation_ready" evaluation))
      (fun continues t => stands t ∧ (continues = true → leaves t)) s := by
  have hstay : ∀ {t}, stands t → Leads D (record (pure false))
      (fun continues t => stands t ∧ (continues = true → leaves t)) t :=
    fun ht => leads_pure fun u htu => ⟨hg.stands_stable ht htu, fun h => nomatch h⟩
  unfold evaluationContinues
  refine leads_record_bind (hg.readMode_leads hw hs) fun enabled t ⟨ht, hseen⟩ => ?_
  split
  · next hon =>
    split
    · exact hstay ht
    · next result =>
      split
      · next htest =>
        refine leads_record_bind (hg.openPause_leads hw (opens_of_test htest) ht
          (hseen hon)) fun paused u hu => ?_
        refine leads_pure fun v huv => ⟨hg.stands_stable hu.1 huv, fun habsent => ?_⟩
        exact hg.leaves_stable (hu.2 (by simpa using habsent)) huv
      · exact hstay ht
  · exact hstay ht

theorem Gatekeeping.canAutoContinue_leads (hs : stands s) :
    Leads D (record (canAutoContinue "evaluation_ready" evaluation))
      (fun continues t => stands t ∧ (continues = true → leaves t)) s := by
  refine leads_record_bind (hg.evaluationContinues_leads hw hs) fun continues t ht => ?_
  split
  · next htrue =>
    exact leads_pure fun u htu =>
      ⟨hg.stands_stable ht.1 htu, fun _ => hg.leaves_stable (ht.2 htrue) htu⟩
  · rw [if_neg (by decide)]
    exact leads_pure fun u htu => ⟨hg.stands_stable ht.1 htu, fun h => nomatch h⟩

/-- A waiting run goes on by itself only where it may leave. -/
theorem Gatekeeping.continuesByItself_leads (hs : looks s) :
    Leads D (record (continuesByItself "evaluation_ready" evaluation))
      (fun continues t => stands t ∧ (continues = true → leaves t)) s := by
  have hstay : ∀ {t}, stands t → Leads D (record (pure false))
      (fun continues t => stands t ∧ (continues = true → leaves t)) t :=
    fun ht => leads_pure fun u htu => ⟨hg.stands_stable ht htu, fun h => nomatch h⟩
  unfold continuesByItself
  refine leads_record_bind (Q := fun enabled t => stands t ∧
    (Opens "evaluation_ready" evaluation → enabled = true → leaves t)) ?_
    fun enabled t ⟨ht, hleaves⟩ => ?_
  · refine hw.section_leads fun t enabled u v hst hstep huv => ?_
    have ht := hg.looks_stable hs hst
    refine ⟨hg.stands_stable (hg.readMode (hg.waits ht) hstep) huv, fun hopens hon => ?_⟩
    subst hon
    exact hg.leaves_stable (hg.byItself hopens ht hstep) huv
  · split
    · next hon =>
      split
      · exact hstay ht
      · next result =>
        refine leads_pure fun u htu => ⟨hg.stands_stable ht htu, fun htest => ?_⟩
        exact hg.leaves_stable (hleaves (opens_of_test htest) hon) htu
    · exact hstay ht

omit hw hg in
def Waits (leaves again : τ → Prop) : Option WaitOutcome → τ → Prop
  | some .proceed, t => leaves t
  | some (.override _), t => again t
  | some .cancel, _ => True
  | none, _ => True

theorem Gatekeeping.hasCommands_leads (hs : stands s) :
    Leads D (record (perform .hasCommands))
      (fun found t => stands t ∧ (found = false → looks t)) s := by
  refine hw.section_leads fun t found u v hst hstep huv => ?_
  have ht := hg.stands_stable hs hst
  refine ⟨hg.stands_stable (hg.readQueue ht hstep) huv, fun hempty => ?_⟩
  subst hempty
  exact hg.looks_stable (hg.empty ht hstep) huv

theorem Gatekeeping.popCommand_leads (hs : stands s) :
    Leads D popCommand (fun command t =>
      (¬ command.EndsWait →
        stands t ∧ (command.Approves → Opens "evaluation_ready" evaluation → leaves t)) ∧
      (command.Replaces → again t)) s := by
  intro c t hst
  refine ⟨hw.free rfl, fun r u hstep => ⟨by rw [hw.cost]; omega, ?_⟩⟩
  intro v huv command hcommand
  subst hcommand
  have ht := hg.stands_stable hs hst
  refine ⟨fun hgoes => ?_, fun hreplaces => hg.again_stable (hg.replace ht hstep hreplaces) huv⟩
  obtain ⟨hu, hleaves⟩ := hg.take ht hstep hgoes
  exact ⟨hg.stands_stable hu huv, fun happroves hopens =>
    hg.leaves_stable (hleaves happroves hopens) huv⟩

variable {runId : String}

theorem Gatekeeping.pauseAfterStage_leads (stage : Json) (hs : stands s) :
    Leads D (record (pauseAfterStage runId stage)) (fun _ t => stands t) s := by
  refine leads_record_bind (Q := fun _ t => stands t)
    (leads_ofExcept fun _ t _ hst => hg.stands_stable hs hst) fun known t ht => ?_
  split
  · refine leads_record_bind (Q := fun _ t => stands t) (hw.section_leads ?_) fun _ u hu => ?_
    · exact fun u _ v w htu hstep hvw =>
        hg.stands_stable (hg.pause (hg.stands_stable ht htu) hstep) hvw
    refine leads_record_bind (Q := fun _ t => stands t) (hw.section_leads ?_) fun stages v hv => ?_
    · exact fun v stages w x huv hstep hwx =>
        hg.stands_stable (hg.readPauses (hg.stands_stable hu huv) hstep) hwx
    exact hw.quiet_leads (updateSession_quiet _) hg.stands_stable hv
  · exact leads_pure fun u htu => hg.stands_stable ht htu

theorem Gatekeeping.resume_leads {stage : String} (hs : leaves s) :
    Leads D (record (resumeStage runId stage)) (Waits leaves again) s := by
  refine leads_record_bind (hw.quiet_leads (updateSession_quiet _) hg.leaves_stable hs)
    fun _ t ht => ?_
  exact leads_pure fun u htu => hg.leaves_stable ht htu

/-- Every way out of the loop that goes on is one that the account knows. -/
theorem Gatekeeping.awaitOperator_leads (rounds : Nat) (hs : stands s) :
    Leads D (awaitOperator hash runId "evaluation_ready" evaluation rounds)
      (Waits leaves again) s := by
  induction rounds generalizing s with
  | zero => exact leads_pure fun _ _ => trivial
  | succ rounds ih =>
    refine leads_andThen (hg.hasCommands_leads hw hs) fun found t ⟨ht, hempty⟩ => ?_
    split
    · refine leads_andThen (hg.popCommand_leads hw ht) fun command u hu => ?_
      obtain ⟨hgoes, hagain⟩ := hu
      have hother : ∀ {other : String}, (command.commandType == other) = true →
          ¬ (other = "cancel" ∨ steeringDecisionCommands.contains other = true) → stands u := by
        intro other htype hne
        rw [beq_iff_eq] at htype
        subst htype
        exact (hgoes hne).1
      split
      · next htype => exact ih (hother htype (by decide))
      split
      · next htype =>
        exact leads_andThen (hg.pauseAfterStage_leads hw _ (hother htype (by decide)))
          fun _ v hv => ih hv
      split
      · next htype =>
        have hstands := hother htype (by decide)
        refine leads_andThen (Q := fun _ t => looks t) (hw.section_leads ?_) fun _ v hv => ?_
        · exact fun v _ w x huv hstep hwx =>
            hg.looks_stable (hg.mode (hg.stands_stable hstands huv) hstep) hwx
        refine leads_andThen (Q := fun _ t => looks t) (hw.section_leads ?_)
          fun autoMode w hlooks => ?_
        · exact fun w _ x y hvw hstep hxy =>
            hg.looks_stable (hg.lookMode (hg.looks_stable hv hvw) hstep) hxy
        refine leads_andThen (hw.quiet_leads (updateSession_quiet _) hg.looks_stable hlooks)
          fun _ x hx => ?_
        refine leads_andThen (hg.continuesByItself_leads hw hx) fun continues y hy => ?_
        split
        · next htrue => exact hg.resume_leads hw (hy.2 htrue)
        · exact ih hy.1
      split
      · exact leads_pure fun _ _ => trivial
      split
      · next htype =>
        have happroves : command.Approves := by
          simpa [SteeringCommand.Approves, or_comm] using htype
        obtain ⟨hstands, hleaves⟩ := hgoes happroves.not_endsWait
        split
        · split
          · exact leads_andThen (hw.quiet_leads (appendRunEvent_quiet _) hg.stands_stable
              hstands) fun _ v hv => ih hv
          · next hopen => simp at hopen
        · next result =>
          split
          · exact leads_andThen (hw.quiet_leads (appendRunEvent_quiet _) hg.stands_stable
              hstands) fun _ v hv => ih hv
          · next hopen =>
            refine hg.resume_leads hw (hleaves happroves fun _ => ⟨result, rfl, ?_⟩)
            simpa [EvaluationResult.Allows] using hopen
      split
      · next hreplaces =>
        refine leads_andThen (hw.quiet_leads (updateSession_quiet _) hg.again_stable
          (hagain hreplaces)) fun _ v hv => ?_
        exact leads_pure fun w hvw => hg.again_stable hv hvw
      · next hcancel _ hreplaces =>
        have hstands : ¬ command.EndsWait := by
          rintro (hends | hends)
          · exact hcancel (beq_iff_eq.mpr hends)
          · exact hreplaces hends
        exact ih (hgoes hstands).1
    · next hfound =>
      have hlooks := hempty (by simpa using hfound)
      refine leads_andThen (hw.quiet_leads (@perform_quiet .wait trivial) hg.looks_stable
        hlooks) fun _ u hu => ?_
      refine leads_andThen (hw.quiet_leads getRunSession_quiet hg.looks_stable hu)
        fun current v hv => ?_
      split
      · exact leads_pure fun _ _ => trivial
      · refine leads_andThen (hg.continuesByItself_leads hw hv) fun continues w hw' => ?_
        split
        · next htrue => exact hg.resume_leads hw (hw'.2 htrue)
        · exact ih hw'.1

theorem Gatekeeping.waitIfNeeded_leads (rounds : Nat) (hs : stands s) :
    Leads D (waitIfNeeded hash runId rounds "evaluation_ready" evaluation)
      (Waits leaves again) s := by
  refine leads_andThen (hw.quiet_leads getRunSession_quiet hg.stands_stable hs)
    fun session t ht => ?_
  refine leads_andThen (hw.quiet_leads (@perform_quiet .getControl trivial) hg.stands_stable ht)
    fun tracked u hu => ?_
  split
  · exact leads_pure fun _ _ => trivial
  · refine leads_andThen (hg.requiresPause_leads hw hu) fun requires v hv => ?_
    refine leads_andThen (hg.canAutoContinue_leads hw hv) fun continues w hcan => ?_
    split
    · next hgo =>
      simp only [Bool.and_eq_true] at hgo
      exact leads_pure fun x hwx => hg.leaves_stable (hcan.2 hgo.2) hwx
    split
    · next hother => simp at hother
    · refine leads_andThen (hw.quiet_leads (updateSession_quiet _) hg.stands_stable hcan.1)
        fun _ x hx => ?_
      refine leads_andThen (hw.quiet_leads (ask_quiet _) hg.stands_stable hx) fun _ y hy => ?_
      exact hg.awaitOperator_leads hw rounds hy

end

section

variable {hash : MerkleHash} {runId : String} {α : Type}

/-- No section of this part of a run executes a decision. -/
abbrev FreePart (x : Coord α) : Prop := Prog.Uses (fun op => op.acts = false) x

theorem record_free (x : Recording α) : FreePart (record x) := by
  refine record_uses ?_
  suffices hall : ∀ {γ : Type} (p : Prog RecordOp RecordOp.Answer γ),
      p.Uses fun op => (RunOp.record op).acts = false from hall x
  intro γ p
  induction p with
  | ret a => trivial
  | call op k ih => exact ⟨rfl, ih⟩

theorem record_free_then {β : Type} {x : Recording α} {f : α → Coord β}
    (hf : ∀ a, FreePart (f a)) : FreePart (record x >>= f) :=
  uses_andThen (record_free x) hf

theorem awaitOperator_free (stage : String) (evaluation : Option EvaluationResult)
    (rounds : Nat) : FreePart (awaitOperator hash runId stage evaluation rounds) := by
  induction rounds with
  | zero => trivial
  | succ rounds ih =>
    refine record_free_then fun found => ?_
    split
    · refine uses_andThen ⟨rfl, fun _ => trivial⟩ fun command => ?_
      split
      · exact ih
      split
      · exact record_free_then fun _ => ih
      split
      · refine record_free_then fun _ => record_free_then fun _ => record_free_then fun _ => ?_
        refine record_free_then fun continues => ?_
        split
        · exact record_free _
        · exact ih
      split
      · trivial
      split
      · split
        · split
          · exact record_free_then fun _ => ih
          · exact record_free _
        · split
          · exact record_free_then fun _ => ih
          · exact record_free _
      split
      · exact record_free_then fun _ => trivial
      · exact ih
    · refine record_free_then fun _ => record_free_then fun current => ?_
      split
      · trivial
      · refine record_free_then fun continues => ?_
        split
        · exact record_free _
        · exact ih

theorem waitIfNeeded_free (rounds : Nat) (stage : String)
    (evaluation : Option EvaluationResult) :
    FreePart (waitIfNeeded hash runId rounds stage evaluation) := by
  refine record_free_then fun session => record_free_then fun tracked => ?_
  split
  · trivial
  · refine record_free_then fun requires => record_free_then fun continues => ?_
    split
    · trivial
    split
    · trivial
    · exact record_free_then fun _ => record_free_then fun _ =>
        awaitOperator_free stage evaluation rounds

theorem triggerGate_free (rounds remaining : Nat) :
    FreePart (triggerGate hash runId rounds remaining) := by
  induction remaining with
  | zero => trivial
  | succ remaining ih =>
    refine uses_andThen (waitIfNeeded_free rounds _ _) fun outcome => ?_
    match outcome with
    | none | some .cancel | some .proceed => trivial
    | some (.override payload) => exact record_free_then fun _ => ih

theorem feedbackGate_free (evaluation : EvaluationResult) (rounds remaining : Nat) :
    FreePart (feedbackGate hash runId evaluation rounds remaining) := by
  induction remaining with
  | zero => trivial
  | succ remaining ih =>
    refine uses_andThen (waitIfNeeded_free rounds _ _) fun outcome => ?_
    match outcome with
    | none | some .cancel | some .proceed => trivial
    | some (.override payload) => exact record_free_then fun _ => ih

end

section

variable (hash : MerkleHash) (runId : String)

def throughGate (modes : RunModes) (source : String) (trigger event : Dict) (rounds : Nat)
    (decision : ContractDecision) (evaluation : EvaluationResult) : Coord RunEnd := do
  match ← evaluationGate hash runId modes source trigger rounds rounds decision evaluation with
  | .waiting => return .waiting
  | .cancelled => cancelRun hash runId
  | .execute decision evaluation =>
    actOnDecision hash runId modes event rounds decision evaluation

variable {hash runId}
variable {τ : Type} {config : StoreConfig} {mesh : τ → MeshState}
variable {D : Discipline RunOp RunOp.Answer τ} {s : τ}
variable {stands looks leaves again : ContractDecision → EvaluationResult → τ → Prop}
variable (hw : Working config hash mesh D)

include hw

variable {modes : RunModes} {decision : ContractDecision} {evaluation : EvaluationResult}
  {source : String} {trigger event : Dict} {J : τ → Prop} {rounds : Nat}

theorem Working.recordDecisionAndEvaluation_leads {allowRereevaluation : Bool}
    {K : ContractDecision → EvaluationResult → τ → Prop} (hJ : ∀ {s t}, J s → D.rely s t → J t)
    (hK : ∀ {decision evaluation s t}, K decision evaluation s → D.rely s t →
      K decision evaluation t)
    (hstands : ∀ {decision evaluation s t}, stands decision evaluation s → D.rely s t →
      stands decision evaluation t)
    (hevaluate : ∀ decision evaluation s t, J s →
      D.step (.evaluate trigger decision allowRereevaluation) s (.ok evaluation) t →
      K decision evaluation t)
    (hrecord : ∀ decision evaluation s, K decision evaluation s →
      Leads D (record (recordEvaluation hash runId modes decision evaluation allowRereevaluation))
        (fun _ t => stands decision evaluation t) s) (hs : J s) :
    Leads D (recordDecisionAndEvaluation hash runId modes source trigger decision
      allowRereevaluation) (fun pair t => stands pair.1 pair.2 t) s := by
  refine leads_andThen (hw.quiet_leads (recordDecision_quiet _ _ _) hJ hs) fun decided t ht => ?_
  refine leads_andThen (Q := fun evaluation t => K decided evaluation t) ?_
    fun evaluation u hu => ?_
  · intro c u htu
    refine ⟨hw.free rfl, fun r v hstep => ⟨by rw [hw.cost]; omega, ?_⟩⟩
    intro w hvw evaluation hevaluation
    subst hevaluation
    exact hK (hevaluate decided evaluation u v (hJ ht htu) hstep) hvw
  · refine leads_andThen (hrecord decided evaluation u hu) fun _ v hv => ?_
    exact leads_pure fun w hvw => hstands hv hvw

theorem Working.evaluationGate_leads
    (hg : ∀ decision evaluation, Gatekeeping mesh D (some evaluation) (stands decision evaluation)
      (looks decision evaluation) (leaves decision evaluation) (again decision evaluation))
    (hagain : ∀ decision evaluation overridden s, again decision evaluation s →
      Leads D (recordDecisionAndEvaluation hash runId modes source trigger overridden true)
        (fun pair t => stands pair.1 pair.2 t) s) (rounds remaining : Nat)
    (hs : stands decision evaluation s) :
    Leads D (evaluationGate hash runId modes source trigger rounds remaining decision evaluation)
      (fun exit t => ∀ decision evaluation, exit = .execute decision evaluation →
        leaves decision evaluation t) s := by
  induction remaining generalizing s decision evaluation with
  | zero => exact leads_pure fun _ _ _ _ h => nomatch h
  | succ remaining ih =>
    have hgate := hg decision evaluation
    refine leads_andThen (hgate.waitIfNeeded_leads hw rounds hs) fun outcome t ht => ?_
    match outcome with
    | none | some .cancel => exact leads_pure fun _ _ _ _ h => nomatch h
    | some .proceed =>
      refine leads_pure fun u htu decision evaluation h => ?_
      cases h
      exact hgate.leaves_stable ht htu
    | some (.override payload) =>
      refine leads_andThen (Q := fun _ t => again decision evaluation t)
        (leads_ofExcept fun _ u _ htu => hgate.again_stable ht htu) fun overridden u hu => ?_
      refine leads_andThen (hw.quiet_leads (ask_quiet _) hgate.again_stable hu)
        fun _ v hv => ?_
      exact leads_andThen (hagain decision evaluation overridden v hv) fun pair w hpair =>
        ih hpair

theorem Working.actOnDecision_leads (hJ : ∀ {s t}, J s → D.rely s t → J t)
    (hallowed : ∀ t, J t → D.allowed (.execute decision evaluation) t) (hs : J s) :
    Leads D (actOnDecision hash runId modes event rounds decision evaluation)
      (fun _ _ => True) s := by
  refine leads_andThen (hw.quiet_leads (updateSession_quiet _) hJ hs) fun _ t ht => ?_
  refine leads_andThen (Q := fun _ _ => True) ?_ fun execution u _ => ?_
  · intro c u htu
    refine ⟨hallowed u (hJ ht htu), fun r v _ => ⟨by rw [hw.cost]; omega, ?_⟩⟩
    exact fun _ _ _ _ => trivial
  · refine hw.free_leads (record_free_then fun feedback => ?_)
    refine uses_andThen (feedbackGate_free evaluation rounds rounds) fun outcome => ?_
    match outcome with
    | none => trivial
    | some .cancel | some .proceed | some (.override payload) => exact record_free _

theorem Working.throughGate_leads
    (hg : ∀ decision evaluation, Gatekeeping mesh D (some evaluation) (stands decision evaluation)
      (looks decision evaluation) (leaves decision evaluation) (again decision evaluation))
    (hagain : ∀ decision evaluation overridden s, again decision evaluation s →
      Leads D (recordDecisionAndEvaluation hash runId modes source trigger overridden true)
        (fun pair t => stands pair.1 pair.2 t) s)
    (hallowed : ∀ decision evaluation t, leaves decision evaluation t →
      D.allowed (.execute decision evaluation) t) (hs : stands decision evaluation s) :
    Leads D (throughGate hash runId modes source trigger event rounds decision evaluation)
      (fun _ _ => True) s := by
  refine leads_andThen (hw.evaluationGate_leads hg hagain rounds rounds hs) fun exit t ht => ?_
  match exit with
  | .waiting => exact leads_pure fun _ _ => trivial
  | .cancelled => exact hw.free_leads (record_free _)
  | .execute decision evaluation =>
    exact hw.actOnDecision_leads (hg decision evaluation).leaves_stable
      (hallowed decision evaluation) (ht decision evaluation rfl)

/-- A run from its beginning: `J` holds until a decision is evaluated, and a
decision that has been evaluated and recorded stands at the gate. -/
theorem Working.executeRun_leads {signal : Dict} {scenarioKey : Option String}
    (hJ : ∀ {s t}, J s → D.rely s t → J t)
    (hstep : ∀ op s r t, op.acts = false → J s → D.step op s r t → J t)
    (hg : ∀ decision evaluation, Gatekeeping mesh D (some evaluation) (stands decision evaluation)
      (looks decision evaluation) (leaves decision evaluation) (again decision evaluation))
    (hrecorded : ∀ source trigger decision allowRereevaluation s, J s →
      Leads D (recordDecisionAndEvaluation hash runId modes source trigger decision
        allowRereevaluation) (fun pair t => stands pair.1 pair.2 t) s)
    (hagain : ∀ decision evaluation s, again decision evaluation s → J s)
    (hallowed : ∀ decision evaluation t, leaves decision evaluation t →
      D.allowed (.execute decision evaluation) t) (hs : J s) :
    Leads D (executeRun hash runId modes signal scenarioKey rounds) (fun _ _ => True) s := by
  have hkeeps : ∀ {α : Type} {x : Coord α} {s : τ}, FreePart x → J s →
      Leads D x (fun _ t => J t) s := by
    intro α x s hx hs
    exact leads_of_uses hx (fun _ _ hop => hw.free hop) hw.cost (fun _ _ => hJ) hstep hs
  have hthrough : ∀ {source : String} {trigger event : Dict} {decision : ContractDecision}
      {evaluation : EvaluationResult} {s : τ}, stands decision evaluation s →
      Leads D (throughGate hash runId modes source trigger event rounds decision evaluation)
        (fun _ _ => True) s := by
    intro source trigger event decision evaluation s hs
    refine hw.throughGate_leads hg ?_ hallowed hs
    exact fun d e overridden t ht => hrecorded _ _ overridden _ t (hagain d e t ht)
  have hdecide : ∀ {signal event trigger : Dict} {canonicalSignal : Json} {source : String} {s : τ},
      J s → Leads D (decideAndAct hash runId modes signal event trigger canonicalSignal source
        rounds) (fun _ _ => True) s := by
    intro signal event trigger canonicalSignal source s hs
    refine leads_andThen (hkeeps (record_free _) hs) fun findings t ht => ?_
    refine leads_andThen (hkeeps (record_free _) ht) fun _ u hu => ?_
    refine leads_andThen (hkeeps (record_free _) hu) fun decision v hv => ?_
    refine leads_andThen (hrecorded source trigger decision false v hv) fun pair w hpair => ?_
    have hgate := hg pair.1 pair.2
    refine leads_andThen (hw.quiet_leads (ask_quiet _) hgate.stands_stable hpair)
      fun recovery x hx => ?_
    split
    · exact leads_pure fun _ _ => trivial
    split
    · exact hw.free_leads (record_free _)
    · exact hthrough hx
  have hstages : ∀ {session : RunSession} {s : τ}, J s →
      Leads D (runStages hash runId modes session signal scenarioKey rounds)
        (fun _ _ => True) s := by
    intro session s hs
    refine leads_andThen (hkeeps (record_free _) hs) fun inputs t ht => ?_
    refine leads_andThen (hkeeps (record_free _) ht) fun detected u hu => ?_
    match detected with
    | none => exact hw.free_leads (record_free _)
    | some trigger =>
      refine leads_andThen (hkeeps (record_free _) hu) fun source v hv => ?_
      refine leads_andThen (hkeeps (record_free _) hv) fun _ w hw' => ?_
      refine leads_andThen (hkeeps (record_free _) hw') fun _ x hx => ?_
      refine leads_andThen (hkeeps (record_free _) hx) fun _ y hy => ?_
      refine leads_andThen (hkeeps (triggerGate_free rounds rounds) hy) fun outcome z hz => ?_
      match outcome with
      | none => exact leads_pure fun _ _ => trivial
      | some .cancel => exact hw.free_leads (record_free _)
      | some .proceed | some (.override payload) => exact hdecide hz
  refine leads_andThen (hkeeps (record_free _) hs) fun found t ht => ?_
  match found with
  | none => exact leads_pure fun _ _ => trivial
  | some session =>
    refine leads_andThen (leads_tryCatch (hstages ht) (fun _ _ _ _ _ => trivial) ?_)
      fun ended u _ => ?_
    · exact fun e u => hw.free_leads (record_free_then fun _ => trivial)
    · match ended with
      | .waiting => exact leads_pure fun _ _ => trivial
      | .returned => exact hw.free_leads (record_free _)

end

end OrbitalMesh
