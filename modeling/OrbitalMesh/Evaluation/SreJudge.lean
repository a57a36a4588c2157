import OrbitalMesh.Evaluation.Service
import OrbitalMesh.Investigation.LlmPlanner

/-!
# The judge of an evaluation

`LlmSreJudge` reads a recommendation out of what a model answers, `MultiModelSreJudge` combines
two judges, and `EvaluationService` folds the judgment into its result.  What the chat client
returns and how `json.loads` reads a text is left open.
-/

namespace OrbitalMesh.SreJudging

open OrbitalMesh.Decision
open OrbitalMesh.Investigation (Raised memberOf loadedStr loadedFloat)
open OrbitalMesh.Evaluation hiding Raised

/-- `_RECOMMENDATION_RANK`. -/
def recommendationRanks : List (String × Nat) :=
  [("execute", 0), ("defer", 1), ("human_review", 2), ("reject", 3)]

/-- `_RECOMMENDATION_RANK.get(recommendation, 2)`. -/
def recommendationRank (recommendation : String) : Nat :=
  (recommendationRanks.lookup recommendation).getD 2

def Ranked (recommendation : String) : Prop :=
  recommendation ∈ recommendationRanks.map Prod.fst

instance : DecidablePred Ranked := fun _ => inferInstanceAs (Decidable (_ ∈ _))

structure SreCheck where
  name : String
  verdict : String
  reason : String

/-- `SreJudgment`, without the judgments that it was made from. -/
structure SreJudgment where
  recommendation : String
  confidence : Binary64
  riskAssessment : String
  missingEvidence : List String := []
  sreRationale : String
  requiredFollowups : List String := []
  checks : List SreCheck := []
  model : String
  agreement : Option Bool := none
  error : Option String := none

def reviewJudgment (rationale model error : String) : SreJudgment where
  recommendation := "human_review"
  confidence := .finite 0
  riskAssessment := "high"
  sreRationale := rationale
  model := model
  error := some error

/-- `for item in value`. -/
def itemsOf : Loaded → Except Raised (List Loaded)
  | .arr items => .ok items
  | .str text => .ok (text.toList.map fun c => .str (String.singleton c))
  | .obj members => .ok (members.map fun member => .str member.1)
  | value => .error ⟨"TypeError", "'" ++ value.typeName ++ "' object is not iterable"⟩

variable (payload : Loaded)

/-- `[str(item) for item in payload.get(key, []) if item]`. -/
def givenTexts (key : String) : Except Raised (List String) := do
  let items ← itemsOf (← memberOf payload key (.arr []))
  return (items.filter Loaded.truthy).map loadedStr

def checkOf : Loaded → Option SreCheck
  | .obj item =>
    let text (key default : String) := loadedStr ((item.lookup key).getD (.str default))
    some ⟨text "name" "unknown", text "verdict" "unknown", text "reason" ""⟩
  | _ => none

/-- `float(value)`, or nothing where a `TypeError` or a `ValueError` is raised. -/
def confidenceIn (reading : TextReading) (value : Loaded) : Except Raised Binary64 :=
  match loadedFloat reading value with
  | .ok x => .ok x
  | .error e =>
    if ["TypeError", "ValueError"].contains e.typeName then .ok (.finite 0) else .error e

def judgmentFromPayload (reading : TextReading) (model : String) (payload : Loaded) :
    Except Raised SreJudgment := do
  let stated := pyStrip
    (loadedStr (← memberOf payload "recommendation" (.str "human_review")))
  let confidence ← confidenceIn reading (← memberOf payload "confidence" (.float (.finite 0)))
  let checks ← itemsOf (← memberOf payload "checks" (.arr []))
  let risk ← memberOf payload "risk_assessment" (.str "medium")
  let missing ← givenTexts payload "missing_evidence"
  let rationale ← memberOf payload "sre_rationale" (.str "")
  let followups ← givenTexts payload "required_followups"
  return {
    recommendation := if Ranked stated then stated else "human_review"
    confidence
    riskAssessment := loadedStr risk
    missingEvidence := missing
    sreRationale := loadedStr rationale
    requiredFollowups := followups
    checks := checks.filterMap checkOf
    model }

def clientError {α : Type} (text : String) : Except Raised α :=
  .error ⟨"ObserverClientError", text⟩

def extractMessageContent : Except Raised String := do
  match ← memberOf payload "choices" .null with
  | .arr (choice :: _) =>
    match ← memberOf choice "message" .null with
    | .obj message =>
      match ← memberOf (.obj message) "content" .null with
      | .str content => .ok content
      | _ => clientError "observer message has no string content"
    | _ => clientError "observer choice has no message"
  | _ => clientError "observer response has no choices"

/-- A judge; `configured` says that it is enabled and knows its model and where to find it. -/
structure LlmSreJudge where
  configured : Bool
  model : String
  reading : TextReading
  loads : String → Except Raised Loaded

namespace LlmSreJudge

/-- The exceptions that `evaluate` handles: an `ObserverClientError`, a `ValueError` with its
subclasses, and a `TypeError`. -/
def handled (e : Raised) : Bool :=
  ["ObserverClientError", "ValueError", "JSONDecodeError", "UnicodeDecodeError",
    "UnicodeEncodeError", "TypeError"].contains e.typeName

def payloadOf (judge : LlmSreJudge) (answer : Except Raised Loaded) : Except Raised Loaded := do
  let response ← answer
  let content ← extractMessageContent response
  judge.loads content

/-- `evaluate`, for what `chat_completion` returns or raises. -/
def evaluate (judge : LlmSreJudge) (answer : Except Raised Loaded) :
    Except Raised SreJudgment :=
  if !judge.configured then
    .ok (reviewJudgment "LLM SRE judge is not configured."
      (if judge.model = "" then "llm_unconfigured" else judge.model) "sre_judge_unconfigured")
  else
    match judge.payloadOf answer with
    | .ok payload => judgmentFromPayload judge.reading judge.model payload
    | .error e =>
      if handled e then
        .ok (reviewJudgment "SRE judge failed; route to human review." judge.model e.text)
      else .error e

end LlmSreJudge

/-- `_most_conservative` of two judgments; `max` keeps the first of equals. -/
def mostConservative (primary secondary : SreJudgment) : SreJudgment :=
  if recommendationRank primary.recommendation < recommendationRank secondary.recommendation then
    secondary
  else primary

/-- What `MultiModelSreJudge` makes of two judgments. -/
def combineJudgments (primary secondary : SreJudgment) : SreJudgment :=
  let agreement := primary.recommendation == secondary.recommendation
  let model := primary.model ++ "+" ++ secondary.model
  let chosen := mostConservative primary secondary
  let chosen : SreJudgment :=
    if !agreement && chosen.recommendation == "execute" then
      { recommendation := "human_review"
        confidence := if primary.confidence.lt secondary.confidence then secondary.confidence
          else primary.confidence
        riskAssessment := "medium"
        sreRationale := "SRE judges disagreed; route to human review."
        model }
    else chosen
  { chosen with
    agreement := some agreement
    model }

/-- `MultiModelSreJudge.evaluate`. -/
def evaluateBoth (primary : Except Raised SreJudgment)
    (secondary : Option (Except Raised SreJudgment)) : Except Raised SreJudgment := do
  let first ← primary
  match secondary with
  | none => return first
  | some other => return combineJudgments first (← other)

def iterable : Loaded → Bool
  | .arr _ | .str _ | .obj _ => true
  | _ => false

/-- A payload that is judged: an object whose lists can be gone through and whose confidence is
no integer beyond the doubles. -/
def Judgeable : Prop :=
  ∃ members, payload = .obj members ∧
    (∀ n neg, members.lookup "confidence" = some (.int n) →
      Binary64.nearest n ≠ .infinite neg) ∧
    ∀ key ∈ ["checks", "missing_evidence", "required_followups"], ∀ value,
      members.lookup key = some value → iterable value = true

variable (judge : LlmSreJudge) (answer : Except Raised Loaded)

/-- Nothing is recommended: the judge is not configured, what it is sent cannot be read, or what
is stated is not one of the four. -/
def LlmSreJudge.Unstated : Prop :=
  judge.configured = false ∨ (∃ e, judge.payloadOf answer = .error e) ∨
    ∃ members, judge.payloadOf answer = .ok (.obj members) ∧
      ¬ Ranked (pyStrip (loadedStr ((members.lookup "recommendation").getD (.str "human_review"))))

/-- Where a judge answers: it is not configured, what is raised is handled, or the payload is
judged. -/
def LlmSreJudge.Answers : Prop :=
  judge.configured = true →
    match judge.payloadOf answer with
    | .ok payload => Judgeable payload
    | .error e => LlmSreJudge.handled e = true

theorem ranked_human_review : Ranked "human_review" := by decide

section

variable {reading : TextReading} {model : String} {payload : Loaded}

theorem itemsOf_ok_iff {found : Option Loaded} :
    (∃ items, itemsOf (found.getD (.arr [])) = .ok items) ↔
      ∀ value, found = some value → iterable value = true := by
  cases found with
  | none => simp [itemsOf]
  | some value => cases value <;> simp [itemsOf, iterable]

theorem confidenceIn_ok_iff {found : Option Loaded} :
    (∃ x, confidenceIn reading (found.getD (.float (.finite 0))) = .ok x) ↔
      ∀ n neg, found = some (.int n) → Binary64.nearest n ≠ .infinite neg := by
  unfold confidenceIn
  cases found with
  | none => simp [loadedFloat]
  | some value =>
    cases value with
    | int n =>
      cases hn : Binary64.nearest n with
      | infinite neg =>
        simp only [Option.getD_some, loadedFloat, hn]
        exact ⟨fun h => by simp at h, fun h => absurd hn (h n neg rfl)⟩
      | _ =>
        simp only [Option.getD_some, loadedFloat, hn]
        refine ⟨fun _ m neg heq => ?_, fun _ => ⟨_, rfl⟩⟩
        cases heq
        simp [hn]
    | str text => cases htext : reading.float text <;> simp [loadedFloat, htext]
    | _ => simp [loadedFloat]

/-- A payload gives a judgment exactly where it is judgeable. -/
theorem judgmentFromPayload_ok_iff :
    (∃ judgment, judgmentFromPayload reading model payload = .ok judgment) ↔
      Judgeable payload := by
  cases payload with
  | obj members =>
    simp only [Judgeable, Loaded.obj.injEq, exists_eq_left', List.forall_mem_cons,
      ← itemsOf_ok_iff, ← @confidenceIn_ok_iff reading]
    simp only [judgmentFromPayload, givenTexts, memberOf, ok_bind, Except.bind_ok_iff]
    constructor
    · rintro ⟨-, x, hx, checks, hchecks, -, ⟨missing, hmissing, -⟩, -,
        ⟨followups, hfollowups, -⟩, -⟩
      exact ⟨⟨x, hx⟩, ⟨checks, hchecks⟩, ⟨missing, hmissing⟩, ⟨followups, hfollowups⟩, by simp⟩
    · rintro ⟨⟨x, hx⟩, ⟨checks, hchecks⟩, ⟨missing, hmissing⟩, ⟨followups, hfollowups⟩, -⟩
      exact ⟨_, x, hx, checks, hchecks, _, ⟨missing, hmissing, rfl⟩, _,
        ⟨followups, hfollowups, rfl⟩, rfl⟩
  | _ => simp [judgmentFromPayload, memberOf, Judgeable]

theorem recommendation_of_judgmentFromPayload {judgment : SreJudgment}
    (h : judgmentFromPayload reading model payload = .ok judgment) :
    ∃ members, payload = .obj members ∧
      let stated := pyStrip
        (loadedStr ((members.lookup "recommendation").getD (.str "human_review")))
      judgment.recommendation = if Ranked stated then stated else "human_review" := by
  obtain ⟨members, rfl, -⟩ := judgmentFromPayload_ok_iff.mp ⟨judgment, h⟩
  obtain ⟨stated, hstated, h⟩ := Except.bind_ok_iff.mp h
  iterate 8 obtain ⟨_, -, h⟩ := Except.bind_ok_iff.mp h
  obtain rfl := Except.ok.inj h
  obtain rfl := Except.ok.inj hstated
  exact ⟨members, rfl, rfl⟩

/-- A judge that answers recommends one of the four, and `human_review` without a payload. -/
theorem evaluate_spec {judge : LlmSreJudge} {answer : Except Raised Loaded} :
    ((∃ judgment, judge.evaluate answer = .ok judgment) ↔ judge.Answers answer) ∧
      ∀ judgment, judge.evaluate answer = .ok judgment → Ranked judgment.recommendation ∧
        (judge.Unstated answer → judgment.recommendation = "human_review") := by
  unfold LlmSreJudge.evaluate LlmSreJudge.Answers LlmSreJudge.Unstated
  cases hconfigured : judge.configured with
  | false =>
    refine ⟨by simp, ?_⟩
    rintro _ ⟨⟩
    exact ⟨ranked_human_review, fun _ => rfl⟩
  | true =>
    cases hpayload : judge.payloadOf answer with
    | ok payload =>
      refine ⟨by simpa using judgmentFromPayload_ok_iff, fun judgment h => ?_⟩
      obtain ⟨members, rfl, hrecommendation⟩ := recommendation_of_judgmentFromPayload h
      rw [hrecommendation]
      constructor
      · split
        · assumption
        · exact ranked_human_review
      · simp only [Bool.true_eq_false, reduceCtorEq, exists_false, false_or]
        rintro ⟨_, ⟨⟩, hunranked⟩
        rw [if_neg hunranked]
    | error e =>
      cases hhandled : LlmSreJudge.handled e with
      | false => simp [hhandled]
      | true =>
        refine ⟨by simp [hhandled], ?_⟩
        simp only [hhandled]
        rintro _ ⟨⟩
        exact ⟨ranked_human_review, fun _ => rfl⟩

/-- A combined judgment is ranked and no less conservative than either of the two. -/
theorem combineJudgments_spec {primary secondary : SreJudgment}
    (hprimary : Ranked primary.recommendation) (hsecondary : Ranked secondary.recommendation) :
    Ranked (combineJudgments primary secondary).recommendation ∧
      recommendationRank primary.recommendation ≤
        recommendationRank (combineJudgments primary secondary).recommendation ∧
      recommendationRank secondary.recommendation ≤
        recommendationRank (combineJudgments primary secondary).recommendation := by
  have hchosen : Ranked (mostConservative primary secondary).recommendation ∧
      recommendationRank primary.recommendation ≤
        recommendationRank (mostConservative primary secondary).recommendation ∧
      recommendationRank secondary.recommendation ≤
        recommendationRank (mostConservative primary secondary).recommendation := by
    unfold mostConservative
    split
    · next hlt => exact ⟨hsecondary, hlt.le, le_rfl⟩
    · next hle => exact ⟨hprimary, le_rfl, not_lt.mp hle⟩
  unfold combineJudgments
  generalize mostConservative primary secondary = chosen at hchosen
  simp only
  split
  · next hexecute =>
    obtain ⟨-, heq⟩ := Bool.and_eq_true_iff.mp hexecute
    have hzero : recommendationRank chosen.recommendation = 0 := by
      rw [eq_of_beq heq]
      rfl
    exact ⟨ranked_human_review, by omega, by omega⟩
  · exact hchosen

end

variable {svc : EvaluationService} {call : EvaluationCall}
  (sreJudge : EvaluationCall → StageResults → List String → String)

/-- Whether its gates reject a decision or leave blockers, an enforcing judge does not make the
recommendation less conservative. -/
theorem rank_conclude_le {rejected : Bool} {stages : StageResults} {blockers : List String} :
    recommendationRank ({ svc with sreJudgeEnforces := false }.conclude call rejected stages
        blockers).finalRecommendation ≤
      recommendationRank ({ svc with sreJudge, sreJudgeEnforces := true }.conclude call rejected
        stages blockers).finalRecommendation := by
  simp only [EvaluationService.conclude, Bool.false_and, Bool.or_false, Bool.true_and]
  generalize sreJudge call stages blockers = advice
  cases rejected with
  | true => simp
  | false =>
    cases blockers with
    | nil => exact (Nat.zero_le _ : recommendationRank "execute" ≤ _)
    | cons blocker rest =>
      by_cases hreject : advice = "reject"
      · simp only [hreject, List.cons_append, List.isEmpty_cons]
        exact (by decide : recommendationRank "human_review" ≤ recommendationRank "reject")
      · by_cases hdefer : advice = "defer" <;> simp [hreject, hdefer]

/-- The gates are the same with and without a judge. -/
theorem rank_evaluate_le {registrations r r' : Registrations} {e e' : Evaluation.EvaluationResult}
    (h : { svc with sreJudgeEnforces := false }.evaluate call registrations = (.ok e, r))
    (h' : { svc with sreJudge, sreJudgeEnforces := true }.evaluate call registrations =
      (.ok e', r')) :
    recommendationRank e.finalRecommendation ≤ recommendationRank e'.finalRecommendation := by
  obtain ⟨plan, suppressed, stages, blockers, hplan, hsuppressed, hstages, rfl⟩ := evaluate_ok h
  obtain ⟨plan', suppressed', stages', blockers', hplan', hsuppressed', hstages', rfl⟩ :=
    evaluate_ok h'
  obtain rfl := Except.ok.inj (hplan.symm.trans hplan')
  obtain rfl : suppressed = suppressed' := Bool.eq_iff_iff.mpr (hsuppressed.trans hsuppressed'.symm)
  obtain ⟨rfl, rfl⟩ := Prod.mk.inj (Except.ok.inj (hstages.symm.trans hstages'))
  exact rank_conclude_le sreJudge

/-- Where a judge answers, how its answers are ranked, where two judges answer alike, and that
enforcing a judge only tightens an evaluation. -/
theorem judge_answers_iff :
    ((∃ judgment, judge.evaluate answer = .ok judgment) ↔ judge.Answers answer) ∧
    (∀ judgment, judge.evaluate answer = .ok judgment → Ranked judgment.recommendation ∧
      (judge.Unstated answer → judgment.recommendation = "human_review")) ∧
    (∀ (other : LlmSreJudge) (answer' : Except Raised Loaded),
      ((∃ judgment, evaluateBoth (judge.evaluate answer) (some (other.evaluate answer')) =
          .ok judgment) ↔ judge.Answers answer ∧ other.Answers answer') ∧
      ∀ judgment, evaluateBoth (judge.evaluate answer) (some (other.evaluate answer')) =
          .ok judgment → ∃ primary secondary, judge.evaluate answer = .ok primary ∧
        other.evaluate answer' = .ok secondary ∧ Ranked judgment.recommendation ∧
        recommendationRank primary.recommendation ≤ recommendationRank judgment.recommendation ∧
        recommendationRank secondary.recommendation ≤
          recommendationRank judgment.recommendation) ∧
    (∀ (svc : EvaluationService) (call : EvaluationCall) (registrations r r' : Registrations)
      (e e' : Evaluation.EvaluationResult)
      (sreJudge : EvaluationCall → StageResults → List String → String),
      { svc with sreJudgeEnforces := false }.evaluate call registrations = (.ok e, r) →
      { svc with sreJudge, sreJudgeEnforces := true }.evaluate call registrations =
        (.ok e', r') →
      recommendationRank e.finalRecommendation ≤ recommendationRank e'.finalRecommendation) := by
  obtain ⟨hanswers, hranked⟩ := @evaluate_spec judge answer
  refine ⟨hanswers, hranked, fun other answer' => ?_,
    fun _ _ _ _ _ _ _ sreJudge h h' => rank_evaluate_le sreJudge h h'⟩
  obtain ⟨hanswers', hranked'⟩ := @evaluate_spec other answer'
  rw [← hanswers, ← hanswers']
  constructor
  · simp only [evaluateBoth, Except.bind_ok_iff]
    constructor
    · rintro ⟨-, first, hfirst, second, hsecond, -⟩
      exact ⟨⟨first, hfirst⟩, second, hsecond⟩
    · rintro ⟨⟨first, hfirst⟩, second, hsecond⟩
      exact ⟨_, first, hfirst, second, hsecond, rfl⟩
  · intro judgment h
    obtain ⟨first, hfirst, h⟩ := Except.bind_ok_iff.mp h
    obtain ⟨second, hsecond, h⟩ := Except.bind_ok_iff.mp h
    obtain rfl := Except.ok.inj h
    exact ⟨first, second, hfirst, hsecond,
      combineJudgments_spec (hranked first hfirst).1 (hranked' second hsecond).1⟩

/-- A model that answers with a list: the `AttributeError` is not handled. -/
theorem list_answer_escapes :
    ¬ ∀ (judge : LlmSreJudge) (answer : Except Raised Loaded), (∃ response, answer = .ok response) →
      ∃ judgment, judge.evaluate answer = .ok judgment ∧ Ranked judgment.recommendation := by
  intro hclaim
  obtain ⟨judgment, hjudgment, -⟩ := hclaim
    ⟨true, "judge", ⟨fun _ => none, fun _ => none⟩, fun _ => .ok (.arr [])⟩
    (.ok (.obj [("choices", .arr [.obj [("message", .obj [("content", .str "[]")])]])])) ⟨_, rfl⟩
  exact absurd hjudgment (by
    rw [show LlmSreJudge.evaluate _ _ = .error ⟨"AttributeError", _⟩ from rfl]
    simp)

end OrbitalMesh.SreJudging
