import OrbitalMesh.Base.Dictionaries
import OrbitalMesh.Bridge.Binding
import OrbitalMesh.ControlPlane.ExecutionGate

/-!
# Overrides

What the override commands of `steer_run` change of a decision.
-/

namespace OrbitalMesh

/-- What `_wait_if_needed` yields for an override: `{"type": command_type, **payload}`, of
the payload without `command` and `_operator`. -/
def yieldedOverride (commandType : String) (payload : Dict) : Dict :=
  Dict.update [("type", .str commandType)] ((payload.pop "command").pop "_operator")

/-- No member of the payload puts `override_decision` in the place of the command type. -/
def Untyped (payload : Dict) : Prop :=
  ∀ value, ("type", value) ∈ payload → Json.pyEq value (.str "override_decision") = false

/-- What an `override_decision` may change. -/
def decisionKeys : List String :=
  ["decision_type", "summary", "autonomy_tier", "confidence", "risk", "execution_plan"]

/-- Equal but for the type, the summary, the tier, the confidence, the risk and the plan. -/
def DecisionOnly (decision after : ContractDecision) : Prop :=
  after = { decision with
    decisionType := after.decisionType, summary := after.summary
    autonomyTier := after.autonomyTier, confidence := after.confidence, risk := after.risk
    executionPlan := after.executionPlan }

/-- Equal but for the parameters of the plan, which are extended, and its rollback plan. -/
structure ParametersOnly (given : Dict) (decision after : ContractDecision) : Prop where
  rest : after = { decision with executionPlan := after.executionPlan }
  plan : Dict.AgreeOff ["parameters", "rollback_plan"] decision.executionPlan after.executionPlan
  parameters : membersAt after.executionPlan "parameters" =
    Dict.update (membersAt decision.executionPlan "parameters") (membersAt given "parameters")

variable {decision after : ContractDecision} {given payload data : Dict}

theorem decisionOnly_of_agree
    (hagree : Dict.AgreeOff decisionKeys decision.asDict data)
    (h : ContractDecision.fromDict data = .ok after) : DecisionOnly decision after := by
  obtain ⟨-, -, h⟩ := bind_ok h
  cases h
  have hid := hagree "decision_id" (by decide)
  have htrigger := hagree "trigger_id" (by decide)
  have hreasoning := hagree "reasoning" (by decide)
  have houtcome := hagree "expected_outcome" (by decide)
  simp [DecisionOnly, textAt, membersAt, ← hid, ← htrigger, ← hreasoning, ← houtcome,
    ContractDecision.asDict, Dict.get?_cons]

theorem mem_of_get?_update {d other : Dict} {key : String} {value : Json}
    (h : (d.update other).get? key = some value) :
    (key, value) ∈ other ∨ d.get? key = some value := by
  induction other generalizing d with
  | nil => exact .inr h
  | cons member rest ih =>
    obtain ⟨k, v⟩ := member
    rcases ih h with h | h
    · exact .inl (List.mem_cons_of_mem _ h)
    · rw [Dict.get?_set] at h
      split at h
      · next hkey =>
        cases h
        exact .inl (hkey ▸ List.mem_cons_self)
      · exact .inr h

theorem not_decision_of_untyped {kind : Json} (hfree : Untyped payload)
    (h : (yieldedOverride "override_execution_parameters" payload).get? "type" = some kind) :
    Json.pyEq kind (.str "override_decision") = false := by
  rcases mem_of_get?_update h with h | h
  · exact hfree kind (List.mem_of_mem_filter (List.mem_of_mem_filter h))
  · cases h
    decide

theorem agreeOff_folded {all keys : List String} (hkeys : ∀ key ∈ keys, key ∈ all) {d : Dict}
    (h : Dict.AgreeOff all data d) :
    Dict.AgreeOff all data (keys.foldl (fun data key => match payload.get? key with
      | some value => data.set key value
      | none => data) d) := by
  induction keys generalizing d with
  | nil => exact h
  | cons key rest ih =>
    apply ih fun other hother => hkeys other (List.mem_cons_of_mem _ hother)
    dsimp only
    split
    · exact h.set_right (hkeys key List.mem_cons_self) _
    · exact h

/-- The plan has the parameters and perhaps the rollback plan of the override. -/
def Extends (given plan plan' : Dict) : Prop :=
  Dict.AgreeOff ["rollback_plan"] (plan.set "parameters"
    (.obj (Dict.update (membersAt plan "parameters") (membersAt given "parameters")))) plan'

theorem extends_rolled {plan parameters : Dict} (h : membersAt given "parameters" = parameters) :
    Extends given plan (match given.get? "rollback_plan" with
      | some value => (plan.set "parameters"
          (.obj (Dict.update (membersAt plan "parameters") parameters))).set "rollback_plan" value
      | none => plan.set "parameters"
          (.obj (Dict.update (membersAt plan "parameters") parameters))) := by
  subst h
  split
  · exact (Dict.AgreeOff.refl _ _).set_right (by decide) _
  · exact Dict.AgreeOff.refl _ _

theorem parametersOnly_of_extends {plan : Dict} (hplan : Extends given decision.executionPlan plan)
    (h : ContractDecision.fromDict (decision.asDict.set "execution_plan" (.obj plan)) = .ok after) :
    ParametersOnly given decision after := by
  obtain ⟨-, -, h⟩ := bind_ok h
  cases h
  refine ⟨?_, ?_, ?_⟩
  · simp [textAt, membersAt, valueAt, ContractDecision.asDict, Dict.get?_cons, Dict.get?_set]
  · intro key hkey
    simp only [List.mem_cons, List.not_mem_nil, or_false, not_or] at hkey
    have hsame := hplan key (by simpa using hkey.2)
    rw [Dict.get?_set_of_ne _ _ hkey.1] at hsame
    simpa [membersAt, Dict.get?_set_self] using hsame
  · have hsame := hplan "parameters" (by decide)
    rw [Dict.get?_set_self] at hsame
    simp [membersAt, Dict.get?_set_self, ← hsame]

/-- **Overrides keep their frame.**  No override changes more than `DecisionOnly`, and one of
the execution parameters no more than these, unless its payload brings another type. -/
theorem override_keeps_frame {commandType : String}
    (h : applyOverride decision (yieldedOverride commandType payload) = .ok after) :
    DecisionOnly decision after ∧
      (commandType = "override_execution_parameters" → Untyped payload →
        ParametersOnly (yieldedOverride commandType payload) decision after) := by
  unfold applyOverride at h
  obtain ⟨data, hdata, h⟩ := bind_ok h
  obtain ⟨-, -, hdata⟩ := bind_ok hdata
  cases hdata
  obtain ⟨kind, hkind, h⟩ := bind_ok h
  split at h
  · next hdecision =>
    have hfold := @agreeOff_folded (yieldedOverride commandType payload) decision.asDict
      decisionKeys ["decision_type", "summary", "autonomy_tier", "confidence"] (by decide) _
      (Dict.AgreeOff.refl _ _)
    refine ⟨decisionOnly_of_agree ?_ h, ?_⟩
    · repeat' split
      all_goals
        first
        | exact hfold
        | exact hfold.set_right (by decide) _
        | exact (hfold.set_right (by decide) _).set_right (by decide) _
    · rintro rfl hfree
      have hkind' := not_decision_of_untyped hfree (requireKey_eq_ok hkind)
      rw [hdecision] at hkind'
      cases hkind'
  · have hown : membersAt decision.asDict "execution_plan" = decision.executionPlan := by
      simp [membersAt, ContractDecision.asDict, Dict.get?_cons]
    obtain ⟨plan, hplan, h⟩ : ∃ plan, Extends (yieldedOverride commandType payload)
        decision.executionPlan plan ∧
          ContractDecision.fromDict (decision.asDict.set "execution_plan" (.obj plan)) =
            .ok after := by
      rw [hown] at h
      dsimp only at h
      split at h
      · next hnone => exact ⟨_, extends_rolled (by rw [membersAt, hnone]), h⟩
      · next hsome => exact ⟨_, extends_rolled (by rw [membersAt, hsome]), h⟩
      · cases h
    exact ⟨decisionOnly_of_agree ((Dict.AgreeOff.refl _ _).set_right (by decide) _) h,
      fun _ _ => parametersOnly_of_extends hplan h⟩

def scaling : Dict :=
  [("command", .str "override_execution_parameters"), ("parameters", .obj [("replicas", .int 3)])]

def scaledRestart : ContractDecision :=
  { restartDecision with
    executionPlan := restartDecision.executionPlan.set "parameters" (.obj [("replicas", .int 3)]) }

theorem override_keeps_frame_sample : ParametersOnly
    (yieldedOverride "override_execution_parameters" scaling) restartDecision scaledRestart := by
  refine (override_keeps_frame (by decide +kernel)).2 rfl fun value hvalue => ?_
  simp [scaling] at hvalue

/-- A command for the parameters brings a type of its own, and changes the summary. -/
theorem override_type_replaced :
    ¬ ∀ (payload : Dict) (decision after : ContractDecision),
      applyOverride decision (yieldedOverride "override_execution_parameters" payload) =
        .ok after →
      ParametersOnly (yieldedOverride "override_execution_parameters" payload) decision after := by
  intro hclaim
  have hrest := (hclaim [("type", .str "override_decision"), ("summary", .str "scale")]
    restartDecision { restartDecision with summary := "scale" } (by decide +kernel)).rest
  exact absurd (congrArg ContractDecision.summary hrest) (by decide)

end OrbitalMesh
