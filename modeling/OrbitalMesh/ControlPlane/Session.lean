import OrbitalMesh.Base.Dictionaries
import OrbitalMesh.Runtime

/-!
# Run sessions and the merge of a saved snapshot

A run session is the stored summary of one run.  Several threads read it,
change their copy and save it back, so a save merges the copy with what is
stored: the event cursor and a final lifecycle never go back, and the keys of
`artifacts` accumulate.  `mergeSessionSnapshot_cursor`,
`mergeSessionSnapshot_final` and `mergeSessionSnapshot_artifacts` say so of
one merge; what the store makes of it is in `SessionFiles`.
-/

namespace OrbitalMesh

structure RunSession where
  runId : String
  createdAt : String
  updatedAt : String
  goalId : Option String
  scenarioKey : Option String
  stage : String
  status : String
  steeringMode : String
  autoMode : Bool
  pausePoints : List String
  pendingPauseStage : Option String
  evaluationMode : String
  orchestrationMode : String
  latestEventId : Option String
  latestEventSequence : Int
  latestMerkleRoot : Option String
  operatorNotes : List String
  artifacts : Dict
  error : Option String
deriving DecidableEq

def finalStages : List String :=
  ["completed", "failed", "cancelled", "no_trigger", "recovery_spawned"]

def vaultForceStages : List String :=
  ["completed", "failed", "cancelled", "no_trigger", "awaiting_operator", "recovery_spawned"]

def RunSession.isFinal (session : RunSession) : Bool :=
  finalStages.contains session.stage || finalStages.contains session.status

variable (candidate current : RunSession)

def preserveEventCursor : RunSession :=
  if current.latestEventSequence ≤ candidate.latestEventSequence then candidate
  else { candidate with
    latestEventId := current.latestEventId
    latestEventSequence := current.latestEventSequence
    latestMerkleRoot := current.latestMerkleRoot }

def preserveFinalLifecycle : RunSession :=
  if !current.isFinal || candidate.isFinal then candidate
  else { candidate with
    stage := current.stage
    status := current.status
    pendingPauseStage := current.pendingPauseStage
    error := current.error }

/-- `_merge_artifacts`: the candidate's values win, except that a pending
marker does not replace a list of agent tasks. -/
def mergeArtifacts (candidate current : Dict) : Dict :=
  let merged := current.update candidate
  match current.get? "agent_tasks", candidate.get? "agent_tasks" with
  | some (.arr tasks), some (.obj marker) =>
    if Json.pyEqOpt (Dict.get? marker "status") (some (.str "pending")) then
      merged.set "agent_tasks" (.arr tasks)
    else merged
  | _, _ => merged

def mergeSessionSnapshot : RunSession :=
  let merged := preserveFinalLifecycle (preserveEventCursor candidate current) current
  { merged with artifacts := mergeArtifacts merged.artifacts current.artifacts }

theorem preserveEventCursor_isFinal :
    (preserveEventCursor candidate current).isFinal = candidate.isFinal := by
  unfold preserveEventCursor
  split <;> rfl

@[simp] theorem preserveEventCursor_artifacts :
    (preserveEventCursor candidate current).artifacts = candidate.artifacts := by
  unfold preserveEventCursor
  split <;> rfl

@[simp] theorem preserveFinalLifecycle_artifacts :
    (preserveFinalLifecycle candidate current).artifacts = candidate.artifacts := by
  unfold preserveFinalLifecycle
  split <;> rfl

@[simp] theorem mergeSessionSnapshot_runId :
    (mergeSessionSnapshot candidate current).runId = candidate.runId := by
  unfold mergeSessionSnapshot preserveFinalLifecycle preserveEventCursor
  split <;> split <;> rfl

@[simp] theorem mergeSessionSnapshot_createdAt :
    (mergeSessionSnapshot candidate current).createdAt = candidate.createdAt := by
  unfold mergeSessionSnapshot preserveFinalLifecycle preserveEventCursor
  split <;> split <;> rfl

@[simp] theorem mergeSessionSnapshot_operatorNotes :
    (mergeSessionSnapshot candidate current).operatorNotes = candidate.operatorNotes := by
  unfold mergeSessionSnapshot preserveFinalLifecycle preserveEventCursor
  split <;> split <;> rfl

theorem mergeSessionSnapshot_cursor :
    (mergeSessionSnapshot candidate current).latestEventSequence =
      max candidate.latestEventSequence current.latestEventSequence := by
  have hfinal : ∀ a : RunSession,
      (preserveFinalLifecycle a current).latestEventSequence = a.latestEventSequence := by
    intro a
    unfold preserveFinalLifecycle
    split <;> rfl
  simp only [mergeSessionSnapshot, hfinal]
  unfold preserveEventCursor
  split <;> simp <;> omega

theorem mergeSessionSnapshot_root :
    (mergeSessionSnapshot candidate current).latestMerkleRoot =
      if current.latestEventSequence ≤ candidate.latestEventSequence then
        candidate.latestMerkleRoot
      else current.latestMerkleRoot := by
  have hfinal : ∀ a : RunSession,
      (preserveFinalLifecycle a current).latestMerkleRoot = a.latestMerkleRoot := by
    intro a
    unfold preserveFinalLifecycle
    split <;> rfl
  simp only [mergeSessionSnapshot, hfinal]
  unfold preserveEventCursor
  split <;> rfl

theorem mergeSessionSnapshot_final {candidate current : RunSession}
    (h : current.isFinal = true) : (mergeSessionSnapshot candidate current).isFinal = true := by
  have hlife : (preserveFinalLifecycle (preserveEventCursor candidate current) current).isFinal
      = true := by
    unfold preserveFinalLifecycle
    split
    · next hcases => simpa [h] using hcases
    · exact h
  exact hlife

theorem isSome_mergeArtifacts (candidate current : Dict) (key : String) :
    ((mergeArtifacts candidate current).get? key).isSome =
      ((current.get? key).isSome || (candidate.get? key).isSome) := by
  have hupdate := Dict.isSome_get?_update current candidate key
  unfold mergeArtifacts
  split
  · next tasks marker htasks hmarker =>
    split
    · rw [Dict.isSome_get?_set, hupdate]
      by_cases hkey : key = "agent_tasks"
      · simp [hkey, htasks]
      · simp [hkey]
    · exact hupdate
  · exact hupdate

variable {key : String}

theorem get?_mergeArtifacts {candidate : Dict} (h : candidate.Distinct) (current : Dict)
    (hkey : key ≠ "agent_tasks") :
    (mergeArtifacts candidate current).get? key =
      (candidate.get? key).or (current.get? key) := by
  have hupdate : (current.update candidate).get? key =
      (candidate.get? key).or (current.get? key) := by
    cases hcandidate : candidate.get? key with
    | none => exact Dict.get?_update_of_none _ _ _ hcandidate
    | some value => exact Dict.get?_update_of_some h _ hcandidate
  unfold mergeArtifacts
  split
  · split
    · rw [Dict.get?_set_of_ne _ _ hkey, hupdate]
    · exact hupdate
  · exact hupdate

theorem distinct_mergeArtifacts {current : Dict} (h : current.Distinct) (candidate : Dict) :
    (mergeArtifacts candidate current).Distinct := by
  unfold mergeArtifacts
  split
  · split
    · exact (h.update candidate).set _ _
    · exact h.update candidate
  · exact h.update candidate

theorem mergeSessionSnapshot_artifacts_eq :
    (mergeSessionSnapshot candidate current).artifacts =
      mergeArtifacts candidate.artifacts current.artifacts := by
  simp [mergeSessionSnapshot]

theorem mergeSessionSnapshot_artifacts {candidate current : RunSession}
    (h : (current.artifacts.get? key).isSome) :
    ((mergeSessionSnapshot candidate current).artifacts.get? key).isSome := by
  simp [mergeSessionSnapshot, isSome_mergeArtifacts, h]

end OrbitalMesh
