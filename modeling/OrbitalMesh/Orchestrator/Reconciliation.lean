import OrbitalMesh.Base.Binary64
import OrbitalMesh.Base.Counting
import OrbitalMesh.Runtime

/-!
# Reconciliation of agents

Several agents attempt the tasks of a run, and each completed attempt recommends an action.
`reconcile_agent_tasks` puts the recommendations to the vote.  A vote to execute goes before
all others; attempts that only supply supporting artifacts recommend nothing, but count as
agreement with whatever wins.
-/

namespace OrbitalMesh.Orchestrator

open Counting

/-- What reconciliation reads of an `AgentAttempt`. -/
structure AgentAttempt where
  attemptId : String
  status : String
  recommendedAction : String
  riskFlags : List String

/-- What reconciliation reads of an `AgentTask`. -/
structure AgentTask where
  attempts : List AgentAttempt

def supportingActions : List String :=
  ["open_pr", "review", "root_cause_review", "stage_validation"]

def noiseFlags : List String :=
  ["allowed_paths_missing", "code_write_gate_closed", "kubernetes_scope_missing",
   "non_code_task", "test_commands_missing"]

/-- What `reconcile_agent_tasks` returns. -/
structure Reconciliation where
  selectedAction : String
  confidence : Binary64
  attemptCount : Nat
  completedAttemptCount : Nat
  recommendationCounts : List (String × Nat)
  normalizedRecommendationCounts : List (String × Nat)
  disagreement : Bool
  riskFlags : List String
  materialRiskFlags : List String
  losingAttemptIds : List String
  allAttemptIds : List String

def normalizeAction (action : String) : String :=
  if supportingActions.contains action then "supporting_artifact" else action

def selectAction (counts : List (String × Nat)) : String :=
  let actionable := counts.filter fun entry => entry.1 != "supporting_artifact"
  if actionable.any fun entry => entry.1 == "execute" then "execute"
  else
    match mostCommon actionable with
    | some best => best.1
    | none => "human_review"

variable (attempts : List AgentAttempt)

def recommended : List String :=
  (attempts.filter fun attempt => attempt.status == "completed").map
    AgentAttempt.recommendedAction

/-- `normalized_actions`. -/
def votes : List String :=
  (recommended attempts).map normalizeAction

def winner : String := selectAction (counter (votes attempts))

/-- A flag that says something about the risk. -/
def isMaterial (flag : String) : Bool := !noiseFlags.contains flag

/-- `material_risk_flags`, before they are sorted. -/
def materialFlags : List String :=
  (attempts.flatMap AgentAttempt.riskFlags).filter isMaterial

def riskPenalty : Binary64 :=
  Binary64.least ((Binary64.nearest (materialFlags attempts).length).mul 0.08) 0.4

/-- `agreement_score`, for the action that wins the vote. -/
def agreementScore (action : String) : Binary64 :=
  let support := (votes attempts).count action + (votes attempts).count "supporting_artifact"
  if (votes attempts).length = 0 then .finite 0
  else Binary64.nearest ((support : ℚ) / (votes attempts).length)

/-- `confidence` in the action that wins the vote, before it is rounded. -/
def agreedConfidence (action : String) : Binary64 :=
  Binary64.greatest (.finite 0)
    (Binary64.least (.finite 1) ((agreementScore attempts action).sub (riskPenalty attempts)))

/-- `disagreement`. -/
def disagrees : Bool :=
  1 < ((votes attempts).filter fun action => action != "supporting_artifact").dedup.length

def selectedAction : String :=
  if disagrees attempts && (agreedConfidence attempts (winner attempts)).lt 0.67 then
    "human_review"
  else winner attempts

def loses (selected : String) (attempt : AgentAttempt) : Bool :=
  !([selected, "supporting_artifact"].contains (normalizeAction attempt.recommendedAction)) ||
    attempt.riskFlags.any isMaterial

variable (tasks : List AgentTask)

def allAttempts : List AgentAttempt := tasks.flatMap AgentTask.attempts

def reconcileAgentTasks : Reconciliation :=
  let attempts := allAttempts tasks
  { selectedAction := selectedAction attempts
    confidence := (agreedConfidence attempts (winner attempts)).roundTo 4
    attemptCount := attempts.length
    completedAttemptCount :=
      (attempts.filter fun attempt => attempt.status == "completed").length
    recommendationCounts := counter (recommended attempts)
    normalizedRecommendationCounts := counter (votes attempts)
    disagreement := disagrees attempts
    riskFlags := sortedSet (attempts.flatMap AgentAttempt.riskFlags)
    materialRiskFlags := sortedSet (materialFlags attempts)
    losingAttemptIds :=
      (attempts.filter (loses (selectedAction attempts))).map AgentAttempt.attemptId
    allAttemptIds := attempts.map AgentAttempt.attemptId }

variable {action : String}

theorem normalizeAction_eq_iff {other : String} (h : other ≠ "supporting_artifact") :
    normalizeAction action = other ↔ action = other ∧ action ∉ supportingActions := by
  unfold normalizeAction
  split
  · next hsupporting =>
    have hmem : action ∈ supportingActions := by simpa using hsupporting
    simp [hmem, h.symm]
  · next hother =>
    have hmem : action ∉ supportingActions := by simpa using hother
    simp [hmem]

theorem mem_actionable {xs : List String} {n : Nat} :
    (action, n) ∈ (counter xs).filter (fun entry => entry.1 != "supporting_artifact") ↔
      (action ∈ xs ∧ xs.count action = n) ∧ action ≠ "supporting_artifact" := by
  rw [List.mem_filter, mem_counter]
  simp

theorem selectAction_spec (xs : List String) :
    ("execute" ∈ xs ∧ selectAction (counter xs) = "execute") ∨
      ("execute" ∉ xs ∧ selectAction (counter xs) ∈ xs ∧
        selectAction (counter xs) ≠ "supporting_artifact" ∧
        ∀ action ∈ xs, action ≠ "supporting_artifact" →
          xs.count action ≤ xs.count (selectAction (counter xs))) ∨
      ((∀ action ∈ xs, action = "supporting_artifact") ∧
        selectAction (counter xs) = "human_review") := by
  have hexecute : ((counter xs).filter fun entry => entry.1 != "supporting_artifact").any
      (fun entry => entry.1 == "execute") = true ↔ "execute" ∈ xs := by
    rw [List.any_eq_true]
    constructor
    · rintro ⟨⟨action, n⟩, hmem, heq⟩
      obtain rfl : action = "execute" := by simpa using heq
      exact (mem_actionable.mp hmem).1.1
    · intro hmem
      exact ⟨_, mem_actionable.mpr ⟨⟨hmem, rfl⟩, by decide⟩, by simp⟩
  simp only [selectAction]
  by_cases h : "execute" ∈ xs
  · rw [if_pos (hexecute.mpr h)]
    exact .inl ⟨h, rfl⟩
  · rw [if_neg fun hany => h (hexecute.mp hany)]
    refine .inr ?_
    split
    · next best hbest =>
      obtain ⟨hmem, hlargest⟩ := mostCommon_spec hbest
      obtain ⟨⟨hin, hcount⟩, hne⟩ := mem_actionable.mp hmem
      refine .inl ⟨h, hin, hne, ?_⟩
      intro other hother hmaterial
      rw [hcount]
      exact hlargest _ (mem_actionable.mpr ⟨⟨hother, rfl⟩, hmaterial⟩)
    · next hnone =>
      refine .inr ⟨?_, rfl⟩
      intro action hin
      by_contra hne
      have hmem := mem_actionable.mpr ⟨⟨hin, rfl⟩, hne⟩
      rw [mostCommon_eq_none_iff.mp hnone] at hmem
      cases hmem

def Rearranged (tasks tasks' : List AgentTask) : Prop :=
  ∃ mid : List AgentTask, tasks.Perm mid ∧
    List.Forall₂ (fun task task' => task.attempts.Perm task'.attempts) mid tasks'

theorem Rearranged.allAttempts {tasks tasks' : List AgentTask} (h : Rearranged tasks tasks') :
    (allAttempts tasks).Perm (allAttempts tasks') := by
  obtain ⟨mid, hperm, hinside⟩ := h
  apply (hperm.flatMap_right AgentTask.attempts).trans
  clear hperm
  induction hinside with
  | nil => exact .nil
  | cons hfirst _ ih =>
    exact hfirst.append ih

/-- Several material actions share the most votes, and none of the votes is to execute. -/
def Tied (xs : List String) : Prop :=
  "execute" ∉ xs ∧
    ∃ action ∈ xs, ∃ other ∈ xs, action ≠ other ∧ action ≠ "supporting_artifact" ∧
      other ≠ "supporting_artifact" ∧ xs.count action = xs.count other ∧
      ∀ third ∈ xs, third ≠ "supporting_artifact" → xs.count third ≤ xs.count action

section

variable {xs ys : List String} (h : xs.Perm ys)
include h

/-- The order of the votes does not bear on how many the winner has. -/
theorem count_selectAction :
    xs.count (selectAction (counter xs)) = ys.count (selectAction (counter ys)) := by
  have hcount : ∀ action, xs.count action = ys.count action := fun action => h.count_eq action
  have hmem : ∀ action, action ∈ xs ↔ action ∈ ys := fun action => h.mem_iff
  obtain ⟨hin, heq⟩ | ⟨hnot, hin, hne, hlargest⟩ | ⟨hall, heq⟩ := selectAction_spec xs <;>
    obtain ⟨hin', heq'⟩ | ⟨hnot', hin', hne', hlargest'⟩ | ⟨hall', heq'⟩ := selectAction_spec ys
  · rw [heq, heq', hcount]
  · exact absurd ((hmem _).mp hin) hnot'
  · exact absurd (hall' _ ((hmem _).mp hin)) (by decide)
  · exact absurd ((hmem _).mpr hin') hnot
  · apply Nat.le_antisymm
    · rw [hcount]
      exact hlargest' _ ((hmem _).mp hin) hne
    · rw [← hcount]
      exact hlargest _ ((hmem _).mpr hin') hne'
  · exact absurd (hall' _ ((hmem _).mp hin)) hne
  · exact absurd (hall _ ((hmem _).mpr hin')) (by decide)
  · exact absurd (hall _ ((hmem _).mpr hin')) hne'
  · rw [heq, heq', hcount]

/-- Nor, without a tie, on who wins. -/
theorem selectAction_congr (hfree : ¬ Tied xs) :
    selectAction (counter xs) = selectAction (counter ys) := by
  have hcount : ∀ action, xs.count action = ys.count action := fun action => h.count_eq action
  have hmem : ∀ action, action ∈ xs ↔ action ∈ ys := fun action => h.mem_iff
  have hsame := count_selectAction h
  obtain ⟨hin, heq⟩ | ⟨hnot, hin, hne, hlargest⟩ | ⟨hall, heq⟩ := selectAction_spec xs <;>
    obtain ⟨hin', heq'⟩ | ⟨hnot', hin', hne', hlargest'⟩ | ⟨hall', heq'⟩ := selectAction_spec ys
  · rw [heq, heq']
  · exact absurd ((hmem _).mp hin) hnot'
  · exact absurd (hall' _ ((hmem _).mp hin)) (by decide)
  · exact absurd ((hmem _).mpr hin') hnot
  · by_contra hdiffer
    apply hfree
    refine ⟨hnot, _, hin, _, (hmem _).mpr hin', hdiffer, hne, hne', ?_, hlargest⟩
    rw [hsame, hcount]
  · exact absurd (hall' _ ((hmem _).mp hin)) hne
  · exact absurd (hall _ ((hmem _).mpr hin')) (by decide)
  · exact absurd (hall _ ((hmem _).mpr hin')) hne'
  · rw [heq, heq']

end

section

variable {attempts attempts' : List AgentAttempt} (h : attempts.Perm attempts')
include h

theorem recommended_perm : (recommended attempts).Perm (recommended attempts') :=
  (h.filter _).map _

theorem votes_perm : (votes attempts).Perm (votes attempts') := (recommended_perm h).map _

theorem materialFlags_length : (materialFlags attempts).length = (materialFlags attempts').length :=
  ((h.flatMap_right _).filter _).length_eq

theorem agreedConfidence_winner :
    agreedConfidence attempts (winner attempts) =
      agreedConfidence attempts' (winner attempts') := by
  have hwinner : (votes attempts).count (winner attempts) =
      (votes attempts').count (winner attempts') := count_selectAction (votes_perm h)
  have hsupport := (votes_perm h).count_eq "supporting_artifact"
  have hlength := (votes_perm h).length_eq
  unfold agreedConfidence agreementScore riskPenalty
  rw [hwinner, hsupport, hlength, materialFlags_length h]

theorem disagrees_congr : disagrees attempts = disagrees attempts' := by
  unfold disagrees
  rw [(((votes_perm h).filter _).dedup).length_eq]

end

theorem disagrees_of_mem {attempts : List AgentAttempt} {other : String}
    (haction : action ∈ votes attempts) (hother : other ∈ votes attempts)
    (hmaterial : action ≠ "supporting_artifact") (hmaterial' : other ≠ "supporting_artifact")
    (hne : action ≠ other) : disagrees attempts = true := by
  have hin : action ∈ ((votes attempts).filter fun each => each != "supporting_artifact").dedup :=
    List.mem_dedup.mpr (List.mem_filter.mpr ⟨haction, by simpa using hmaterial⟩)
  have hin' : other ∈ ((votes attempts).filter fun each => each != "supporting_artifact").dedup :=
    List.mem_dedup.mpr (List.mem_filter.mpr ⟨hother, by simpa using hmaterial'⟩)
  unfold disagrees
  generalize ((votes attempts).filter fun each => each != "supporting_artifact").dedup = material
    at hin hin'
  cases material with
  | nil => cases hin
  | cons first rest =>
    cases rest with
    | nil =>
      rw [List.mem_singleton] at hin hin'
      exact absurd (hin.trans hin'.symm) hne
    | cons second rest => simp

/-- A tie that is not left to a person. -/
def TiedChoice : Prop :=
  Tied (votes attempts) ∧ (agreedConfidence attempts (winner attempts)).lt 0.67 = false

/-- Without a tie, and where a person reviews a disagreement, the choice does not depend on
the order. -/
theorem selectedAction_congr {attempts attempts' : List AgentAttempt}
    (h : attempts.Perm attempts') (hfree : ¬ TiedChoice attempts) :
    selectedAction attempts = selectedAction attempts' := by
  unfold selectedAction
  rw [← agreedConfidence_winner h, ← disagrees_congr h]
  by_cases htied : Tied (votes attempts)
  · have hlow : (agreedConfidence attempts (winner attempts)).lt 0.67 = true := by
      by_contra hhigh
      exact hfree ⟨htied, Bool.eq_false_iff.mpr hhigh⟩
    obtain ⟨-, action, haction, other, hother, hne, hmaterial, hmaterial', -⟩ := htied
    rw [disagrees_of_mem haction hother hmaterial hmaterial' hne, hlow]
    rfl
  · have hwinner : winner attempts = winner attempts' :=
      selectAction_congr (votes_perm h) htied
    rw [hwinner]

def Material (action : String) : Prop :=
  action ∉ supportingActions ∧ action ≠ "supporting_artifact"

theorem count_votes {attempts : List AgentAttempt} (h : Material action) :
    (votes attempts).count action = (recommended attempts).count action := by
  rw [votes, List.count_eq_countP, List.countP_map, List.count_eq_countP]
  apply List.countP_congr
  intro each _
  simp only [Function.comp_apply, beq_iff_eq, normalizeAction_eq_iff h.2]
  constructor
  · exact And.left
  · rintro rfl
    exact ⟨rfl, h.1⟩

theorem material_of_mem_votes {attempts : List AgentAttempt} (h : action ∈ votes attempts)
    (hne : action ≠ "supporting_artifact") : action ∈ recommended attempts ∧ Material action := by
  obtain ⟨each, heach, heq⟩ := List.mem_map.mp h
  obtain ⟨rfl, hnot⟩ := (normalizeAction_eq_iff hne).mp heq
  exact ⟨heach, hnot, hne⟩

theorem selectedAction_spec {attempts : List AgentAttempt}
    (h : selectedAction attempts ≠ "human_review") :
    selectedAction attempts ∈ recommended attempts ∧
      (selectedAction attempts = "execute" ∨ ∀ action, Material action →
        (recommended attempts).count action ≤
          (recommended attempts).count (selectedAction attempts)) := by
  have hwinner : selectedAction attempts = winner attempts := by
    unfold selectedAction at h ⊢
    split at h
    · exact absurd rfl h
    · next hno => rw [if_neg hno]
  rw [hwinner] at h ⊢
  obtain ⟨hin, heq⟩ | ⟨-, hin, hne, hlargest⟩ | ⟨-, heq⟩ := selectAction_spec (votes attempts)
  · have heq' : winner attempts = "execute" := heq
    rw [heq']
    exact ⟨(material_of_mem_votes hin (by decide)).1, .inl rfl⟩
  · obtain ⟨hrecommended, hmaterial⟩ := material_of_mem_votes hin hne
    refine ⟨hrecommended, .inr ?_⟩
    intro action haction
    rw [← count_votes haction, winner, ← count_votes hmaterial]
    by_cases hmem : action ∈ votes attempts
    · exact hlargest action hmem haction.2
    · rw [List.count_eq_zero_of_not_mem hmem]
      exact Nat.zero_le _
  · exact absurd heq h

def materialAttempts : List AgentAttempt :=
  attempts.filter fun attempt =>
    normalizeAction attempt.recommendedAction != "supporting_artifact"

theorem winner_materialAttempts : winner (materialAttempts attempts) = winner attempts := by
  have hvotes : votes (materialAttempts attempts) =
      (votes attempts).filter fun action => action != "supporting_artifact" := by
    unfold votes recommended materialAttempts
    rw [List.map_map, List.map_map, List.filter_map, List.filter_filter, List.filter_filter]
    congr 1
    apply List.filter_congr
    intro attempt _
    exact Bool.and_comm _ _
  unfold winner selectAction
  rw [hvotes, counter_filter, List.filter_filter]
  simp only [Bool.and_self]

structure OrderFree (tasks tasks' : List AgentTask) : Prop where
  confidence : (reconcileAgentTasks tasks).confidence = (reconcileAgentTasks tasks').confidence
  choice : ¬ TiedChoice (allAttempts tasks) →
    (reconcileAgentTasks tasks).selectedAction = (reconcileAgentTasks tasks').selectedAction ∧
      ∀ id, id ∈ (reconcileAgentTasks tasks).losingAttemptIds ↔
        id ∈ (reconcileAgentTasks tasks').losingAttemptIds

/-- A selected action was recommended, and, unless it is to execute, none more often. -/
structure ByMajority : Prop where
  proposed : (reconcileAgentTasks tasks).selectedAction ≠ "human_review" →
    ∃ attempt ∈ allAttempts tasks, attempt.status = "completed" ∧
      attempt.recommendedAction = (reconcileAgentTasks tasks).selectedAction
  majority : (reconcileAgentTasks tasks).selectedAction ≠ "human_review" →
    (reconcileAgentTasks tasks).selectedAction ≠ "execute" → ∀ action, Material action →
      (recommended (allAttempts tasks)).count action ≤
        (recommended (allAttempts tasks)).count (reconcileAgentTasks tasks).selectedAction

/-- Supporting attempts do not bear on who wins; a disagreement is decided where the winner's
attempts and the supporting ones agree well enough. -/
structure SupportAgrees : Prop where
  winner : (reconcileAgentTasks tasks).selectedAction = "human_review" ∨
    (reconcileAgentTasks tasks).selectedAction = winner (materialAttempts (allAttempts tasks))
  decided : (reconcileAgentTasks tasks).disagreement = true →
    (reconcileAgentTasks tasks).selectedAction ≠ "human_review" →
    (agreedConfidence (allAttempts tasks) (reconcileAgentTasks tasks).selectedAction).lt 0.67 =
      false

theorem orderFree_of_rearranged {tasks tasks' : List AgentTask} (h : Rearranged tasks tasks') :
    OrderFree tasks tasks' := by
  refine ⟨?_, ?_⟩
  · exact congrArg (Binary64.roundTo 4) (agreedConfidence_winner h.allAttempts)
  · intro hfree
    have hsame := selectedAction_congr h.allAttempts hfree
    refine ⟨hsame, ?_⟩
    intro id
    simp only [reconcileAgentTasks, hsame]
    exact ((h.allAttempts.filter _).map _).mem_iff

theorem byMajority : ByMajority tasks := by
  refine ⟨?_, ?_⟩
  · intro hselected
    obtain ⟨attempt, hmem, heq⟩ := List.mem_map.mp (selectedAction_spec hselected).1
    obtain ⟨hin, hcompleted⟩ := List.mem_filter.mp hmem
    exact ⟨attempt, hin, by simpa using hcompleted, heq⟩
  · intro hselected hexecute action haction
    obtain hexecute' | hlargest := (selectedAction_spec hselected).2
    · exact absurd hexecute' hexecute
    · exact hlargest action haction

theorem supportAgrees : SupportAgrees tasks := by
  have hcases : selectedAction (allAttempts tasks) = "human_review" ∨
      selectedAction (allAttempts tasks) = winner (allAttempts tasks) ∧
        (disagrees (allAttempts tasks) &&
          (agreedConfidence (allAttempts tasks) (winner (allAttempts tasks))).lt 0.67) = false := by
    unfold selectedAction
    split
    · exact .inl rfl
    · next hno => exact .inr ⟨rfl, Bool.eq_false_iff.mpr hno⟩
  constructor
  · obtain hreview | ⟨hwinner, -⟩ := hcases
    · exact .inl hreview
    · rw [winner_materialAttempts]
      exact .inr hwinner
  · intro hdisagrees hselected
    obtain hreview | ⟨hwinner, hdecided⟩ := hcases
    · exact absurd hreview hselected
    · have hwon : (reconcileAgentTasks tasks).selectedAction = winner (allAttempts tasks) := hwinner
      have hsplit : disagrees (allAttempts tasks) = true := hdisagrees
      rw [hsplit, Bool.true_and] at hdecided
      rw [hwon]
      exact hdecided

/-- **What a reconciliation owes its voters**: the order matters to ties only, a majority stands
behind what is selected but to execute, and supporting attempts agree. -/
theorem reconciliation_law {tasks tasks' : List AgentTask} (h : Rearranged tasks tasks') :
    OrderFree tasks tasks' ∧ ByMajority tasks ∧ SupportAgrees tasks :=
  ⟨orderFree_of_rearranged h, byMajority tasks, supportAgrees tasks⟩

def taskOf (actions : List String) : AgentTask where
  attempts := actions.map fun action => ⟨action, "completed", action, []⟩

theorem reconciliation_law_swapped :
    OrderFree [taskOf ["scale", "review"], taskOf ["rollback", "scale"]]
        [taskOf ["scale", "rollback"], taskOf ["scale", "review"]] ∧
      (reconcileAgentTasks
        [taskOf ["scale", "review"], taskOf ["rollback", "scale"]]).selectedAction = "scale" := by
  have h : Rearranged [taskOf ["scale", "review"], taskOf ["rollback", "scale"]]
      [taskOf ["scale", "rollback"], taskOf ["scale", "review"]] := by
    refine ⟨[taskOf ["rollback", "scale"], taskOf ["scale", "review"]], .swap _ _ _, ?_⟩
    exact .cons (.swap _ _ _) (.cons (.refl _) .nil)
  exact ⟨(reconciliation_law h).1, by decide +kernel⟩

/-- Of two actions with a vote each the first wins; one vote to execute beats two to roll back. -/
theorem order_and_reviews_choose :
    (reconcileAgentTasks [taskOf ["scale", "rollback", "review", "review"]]).selectedAction =
        "scale" ∧
      (reconcileAgentTasks [taskOf ["rollback", "scale", "review", "review"]]).selectedAction =
        "rollback" ∧
      (reconcileAgentTasks [taskOf ["scale", "rollback"]]).selectedAction = "human_review" ∧
      (reconcileAgentTasks [taskOf ["execute", "rollback", "rollback", "review", "review",
        "review", "review"]]).selectedAction = "execute" := by
  refine ⟨?_, ?_, ?_, ?_⟩ <;> decide +kernel

end OrbitalMesh.Orchestrator
