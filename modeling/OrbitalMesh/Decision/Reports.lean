import OrbitalMesh.Decision.Hypotheses

/-!
# What an investigation report can do

A report is written by a model.  It must not move the posteriors of the templates,
and it does not.  It does write itself into their evidence, and the gate in front of
an upgrade asks for evidence without asking where it comes from.
-/

namespace OrbitalMesh.Decision

def Hypothesis.fromReport (hypothesis : Hypothesis) : Bool :=
  decide ("h_rca_".toList <+: hypothesis.hypothesisId.toList)

theorem rcaHypothesis_fromReport (table : AlnumTable) (candidate : RootCauseCandidate) :
    (rcaHypothesis table candidate).fromReport = true := by
  rw [Hypothesis.fromReport, decide_eq_true_eq, rcaHypothesis, String.toList_append]
  exact List.prefix_append _ _

theorem addNew_eq_append (found new : List Hypothesis) :
    ∃ extra, addNew found new = found ++ extra ∧ ∀ hypothesis ∈ extra, hypothesis ∈ new := by
  unfold addNew
  induction new generalizing found with
  | nil => exact ⟨[], by simp, by simp⟩
  | cons hypothesis rest ih =>
    rw [List.foldl_cons]
    split
    · obtain ⟨extra, heq, hmem⟩ := ih found
      exact ⟨extra, heq, fun h hin => List.mem_cons_of_mem _ (hmem h hin)⟩
    · obtain ⟨extra, heq, hmem⟩ := ih (found ++ [hypothesis])
      refine ⟨hypothesis :: extra, by rw [heq, List.append_assoc, List.singleton_append], ?_⟩
      intro h hin
      rcases List.mem_cons.mp hin with rfl | hin
      · exact List.mem_cons_self
      · exact List.mem_cons_of_mem _ (hmem h hin)

variable (candidates : List RootCauseCandidate)

theorem markedBy_keeps (hypothesis : Hypothesis) :
    (markedBy candidates hypothesis).hypothesisId = hypothesis.hypothesisId ∧
      posterior (markedBy candidates hypothesis) = posterior hypothesis ∧
      (markedBy candidates hypothesis).recommendedAction = hypothesis.recommendedAction := by
  have hsame (predicate : FalsificationPredicate) (supporting disconfirming : List String)
      (hkind : predicate.kind = .rootCauseCandidate) :
      posterior { hypothesis with
        predicates := hypothesis.predicates ++ [predicate]
        supportingEvidence := supporting
        disconfirmingEvidence := disconfirming } = posterior hypothesis := by
    simp [posterior, weightOf, List.filter_append, hkind]
  unfold markedBy
  split
  · exact ⟨rfl, hsame _ _ _ rfl, rfl⟩
  · split
    · exact ⟨rfl, hsame _ _ _ rfl, rfl⟩
    · exact ⟨rfl, rfl, rfl⟩
  · exact ⟨rfl, rfl, rfl⟩

variable {templates : List Hypothesis} {trigger : Trigger} {engine : Engine} {report : Json}
  {analysis : Option ScenarioAnalysis} {decision : RemediationDecision}

theorem generate_spec {hypotheses : List Hypothesis}
    (h : engine.generate trigger report = .ok hypotheses) :
    ∃ templates candidates extra, engine.templates trigger = .ok templates ∧
      rootCauseCandidates engine.reading report = .ok candidates ∧
      (∀ hypothesis ∈ extra, hypothesis.fromReport = true) ∧
      hypotheses = ((templates ++ extra).map (markedBy candidates)).insertionSort surer := by
  obtain ⟨templates, htemplates, h⟩ := bind_ok h
  obtain ⟨candidates, hcandidates, h⟩ := bind_ok h
  cases h
  obtain ⟨extra, heq, hextra⟩ :=
    addNew_eq_append templates ((candidates.take 3).map (rcaHypothesis engine.table))
  refine ⟨templates, candidates, extra, htemplates, hcandidates, ?_, ?_⟩
  · intro hypothesis hmem
    obtain ⟨candidate, -, rfl⟩ := List.mem_map.mp (hextra _ hmem)
    exact rcaHypothesis_fromReport _ _
  · rw [applyInvestigationReport, heq]

def ownPosteriors (hypotheses : List Hypothesis) : List (String × Binary64) :=
  (hypotheses.filter fun hypothesis => !hypothesis.fromReport).map fun hypothesis =>
    (hypothesis.hypothesisId, posterior hypothesis)

theorem ownPosteriors_marked (hypotheses : List Hypothesis) :
    ownPosteriors (hypotheses.map (markedBy candidates)) = ownPosteriors hypotheses := by
  have hown : (fun hypothesis : Hypothesis => !hypothesis.fromReport) ∘ markedBy candidates =
      fun hypothesis => !hypothesis.fromReport := by
    funext hypothesis
    simp [Hypothesis.fromReport, (markedBy_keeps candidates hypothesis).1]
  have hkey : (fun hypothesis => (hypothesis.hypothesisId, posterior hypothesis)) ∘
      markedBy candidates = fun hypothesis => (hypothesis.hypothesisId, posterior hypothesis) := by
    funext hypothesis
    obtain ⟨hid, hposterior, -⟩ := markedBy_keeps candidates hypothesis
    rw [Function.comp_apply, hid, hposterior]
  rw [ownPosteriors, List.filter_map, List.map_map, hown, hkey, ownPosteriors]

theorem ownPosteriors_generate {hypotheses : List Hypothesis}
    (h : engine.generate trigger report = .ok hypotheses)
    (htemplates : engine.templates trigger = .ok templates) :
    (ownPosteriors hypotheses).Perm (ownPosteriors templates) := by
  obtain ⟨found, candidates, extra, hfound, -, hextra, rfl⟩ := generate_spec h
  obtain rfl : found = templates := by
    rw [htemplates] at hfound
    exact (Except.ok.inj hfound).symm
  have hsorted := List.perm_insertionSort surer ((found ++ extra).map (markedBy candidates))
  have hnone : extra.filter (fun hypothesis => !hypothesis.fromReport) = [] := by
    rw [List.filter_eq_nil_iff]
    exact fun hypothesis hmem => by simp [hextra _ hmem]
  calc (ownPosteriors (((found ++ extra).map (markedBy candidates)).insertionSort surer)).Perm
        (ownPosteriors ((found ++ extra).map (markedBy candidates))) :=
          (hsorted.filter _).map _
    _ = ownPosteriors (found ++ extra) := ownPosteriors_marked candidates _
    _ = ownPosteriors found := by
          rw [ownPosteriors, List.filter_append, hnone, List.append_nil, ownPosteriors]

def leading : List Hypothesis → Option Hypothesis
  | [] => none
  | hypothesis :: rest =>
    match leading rest with
    | none => some hypothesis
    | some other => if surer hypothesis other then some hypothesis else some other

theorem head?_insertionSort (hypotheses : List Hypothesis) :
    (hypotheses.insertionSort surer).head? = leading hypotheses := by
  induction hypotheses with
  | nil => rfl
  | cons hypothesis rest ih =>
    rw [List.insertionSort_cons, leading, ← ih]
    cases rest.insertionSort surer with
    | nil => rfl
    | cons other others =>
      rw [List.orderedInsert_cons, List.head?_cons]
      simp only
      split <;> rfl

theorem leading_map_marked (hypotheses : List Hypothesis) :
    leading (hypotheses.map (markedBy candidates)) =
      (leading hypotheses).map (markedBy candidates) := by
  induction hypotheses with
  | nil => rfl
  | cons hypothesis rest ih =>
    rw [List.map_cons, leading, leading, ih]
    cases leading rest with
    | none => rfl
    | some other =>
      have hsurer : surer (markedBy candidates hypothesis) (markedBy candidates other) ↔
          surer hypothesis other := by
        rw [surer, surer, (markedBy_keeps candidates hypothesis).2.1,
          (markedBy_keeps candidates other).2.1]
      simp only [Option.map_some]
      by_cases h : surer hypothesis other
      · rw [if_pos (hsurer.mpr h), if_pos h, Option.map_some]
      · rw [if_neg (fun hm => h (hsurer.mp hm)), if_neg h, Option.map_some]

/-- One of the first three candidates of the report supports a hypothesis with this cause, or the
first speaks against it. -/
def concerns (cause : String) : Bool :=
  (candidates.take 3).any (·.supports cause) ||
    (candidates.head?.any (fun top => Binary64.le 0.7 top.confidence) &&
      !(["unknown", "transient"].contains cause))

def Hypothesis.hasOwnEvidence (hypothesis : Hypothesis) : Bool :=
  !hypothesis.supportingEvidence.isEmpty || !hypothesis.disconfirmingEvidence.isEmpty

theorem isEmpty_noted (lines : List String) (line : String) :
    (noted lines line).isEmpty = false := by
  unfold noted
  split
  · next h =>
    cases lines with
    | nil => cases h
    | cons first rest => rfl
  · simp

theorem hasOwnEvidence_marked (hypothesis : Hypothesis) :
    (markedBy candidates hypothesis).hasOwnEvidence =
      (hypothesis.hasOwnEvidence || concerns candidates hypothesis.candidateCause) := by
  unfold markedBy concerns
  cases hbest : (candidates.take 3).find? (·.supports hypothesis.candidateCause) with
  | some best =>
    have hany : (candidates.take 3).any (·.supports hypothesis.candidateCause) = true :=
      List.any_eq_true.mpr ⟨best, List.mem_of_find?_eq_some hbest,
        (List.find?_eq_some_iff_append.mp hbest).1⟩
    simp [Hypothesis.hasOwnEvidence, isEmpty_noted, hany]
  | none =>
    have hany : (candidates.take 3).any (·.supports hypothesis.candidateCause) = false := by
      rw [List.any_eq_false]
      exact fun candidate hmem => List.find?_eq_none.mp hbest candidate hmem
    rw [hany, Bool.false_or]
    cases candidates.head? with
    | none => simp
    | some top =>
      simp only [Option.any_some]
      split
      · next h =>
        rw [h, Bool.or_true, Hypothesis.hasOwnEvidence, isEmpty_noted]
        exact Bool.or_true _
      · next h => rw [Bool.eq_false_of_not_eq_true h, Bool.or_false]

/-- The hypotheses that `decide` sees: none where the engine fails. -/
def Engine.hypotheses (engine : Engine) (trigger : Trigger) (report : Json) :
    List RankedHypothesis :=
  match engine.generate trigger report with
  | .ok hypotheses => hypotheses.map ranked
  | .error _ => []

/-- The gate, as it stands: evidence of its own or the report's word, enough
confidence, and an action that is allowed. -/
def passesGate (hypothesis : Hypothesis) : Bool :=
  (hypothesis.hasOwnEvidence || concerns candidates hypothesis.candidateCause) &&
    Binary64.le 0.55 ((posterior hypothesis).roundTo 3) &&
    allowedUpgrades.contains hypothesis.recommendedAction

/-- The hypothesis that takes the place of an escalation with a report, where it passes the gate. -/
def reportUpgrade (engine : Engine) (trigger : Trigger) (report : Json) :
    Option RankedHypothesis :=
  match engine.templates trigger, rootCauseCandidates engine.reading report with
  | .ok templates, .ok candidates =>
    ((leading (addNew templates ((candidates.take 3).map (rcaHypothesis engine.table)))).filter
      (passesGate candidates)).map fun hypothesis => ranked (markedBy candidates hypothesis)
  | _, _ => none

theorem upgrades_ranked (hypothesis : Hypothesis) :
    (ranked (markedBy candidates hypothesis)).upgrades = passesGate candidates hypothesis := by
  obtain ⟨-, hposterior, haction⟩ := markedBy_keeps candidates hypothesis
  rw [RankedHypothesis.upgrades, passesGate, ← hasOwnEvidence_marked]
  simp only [ranked, hposterior, haction]
  rfl

theorem upgrade?_hypotheses (engine : Engine) (trigger : Trigger) (report : Json) :
    upgrade? "escalate" (engine.hypotheses trigger report) =
      reportUpgrade engine trigger report := by
  have hescalate : ("escalate" == "escalate") = true := by decide
  unfold upgrade? Engine.hypotheses reportUpgrade Engine.generate
  rw [if_pos hescalate]
  cases engine.templates trigger with
  | error e => rfl
  | ok templates =>
    cases rootCauseCandidates engine.reading report with
    | error e => rfl
    | ok candidates =>
      simp only [ok_bind]
      rw [show (pure ((applyInvestigationReport engine.table candidates
          templates).insertionSort surer) : Except PyError (List Hypothesis)) =
        .ok ((applyInvestigationReport engine.table candidates
          templates).insertionSort surer) from rfl]
      simp only [List.head?_map, head?_insertionSort, applyInvestigationReport,
        leading_map_marked]
      cases leading (addNew templates ((candidates.take 3).map
        (rcaHypothesis engine.table))) with
      | none => rfl
      | some top =>
        simp only [Option.map_some, Option.filter_some, upgrades_ranked]
        split <;> rfl

def servicesFor (engine : Engine) (window : Int) (reasoner : Reasoner) (trigger : Trigger)
    (report : Json) : KubernetesServices where
  reading := engine.reading
  window := window
  hypotheses := engine.hypotheses trigger report
  reasoner := reasoner

/-- What `_attach_investigation_report` asks of a report; what it writes is for
readers. -/
def attachInvestigationReport (report : Json) : Except PyError Unit :=
  match report with
  | .obj members => do
    let listed (key : String) := pyOr (getOr members key .null) (.arr [])
    match listed "findings" with
    | .arr _ | .obj _ | .str _ => pure ()
    | value => typeError ("object of type '" ++ typeName value ++ "' has no len()")
    let _ ← pyList (listed "citations")
    let _ ← pyList (listed "root_cause_candidates")
    return ()
  | _ => .ok ()

/-- `decide` for a deployment, with a report. -/
def decideWithReport (engine : Engine) (window : Int) (reasoner : Reasoner) (trigger : Trigger)
    (analysis : Option ScenarioAnalysis) (report : Json) :
    Except PyError RemediationDecision := do
  let decision ← decideKubernetes (servicesFor engine window reasoner trigger report) trigger
    analysis
  attachInvestigationReport report
  return decision

theorem decideWithReport_ok {window : Int} {reasoner : Reasoner}
    (h : decideWithReport engine window reasoner trigger analysis report = .ok decision) :
    decideKubernetes (servicesFor engine window reasoner trigger report) trigger analysis =
      .ok decision := by
  obtain ⟨decided, hdecided, h⟩ := bind_ok h
  obtain ⟨_, -, h⟩ := bind_ok h
  cases h
  exact hdecided

/-- With this hypothesis in the place of an escalation, advice changes the system
alone. -/
def goesAhead (facts : KubernetesFacts) (reasoner : Reasoner) (top : Option RankedHypothesis) :
    Bool :=
  let upgraded := upgradedBy facts.repeatedRollback top
    ((kubernetesRung facts).choice facts.repeatedRollback)
  (actsAlone facts.repeatedRollback
    (overruling reasoner upgraded.decisionType upgraded.confidence) top).any (· != "no_action")

theorem escalated_of_escalates {rung : KubernetesRung} {again : Bool}
    (h : (rung.choice again).decisionType = "escalate") :
    (rung.choice again).autonomyTier = "escalated" := by
  cases rung <;> first | rfl | (revert h; cases again <;> decide)

variable {facts : KubernetesFacts} {second : Json}

theorem decideWithReport_floor {window : Int} {reasoner : Reasoner}
    (hfacts : kubernetesFacts engine.reading window trigger = .ok facts)
    (hladder : ((kubernetesRung facts).choice facts.repeatedRollback).decisionType = "escalate")
    (h : decideWithReport engine window reasoner trigger analysis report = .ok decision) :
    decision.autonomousMutation = false ↔
      (asksForReview analysis || widespread facts) = true ∨
        goesAhead facts reasoner (reportUpgrade engine trigger report) = false := by
  have hheld := decideKubernetes_heldBy hfacts (escalated_of_escalates hladder)
    (decideWithReport_ok h)
  have halone : kubernetesActsAlone (servicesFor engine window reasoner trigger report) facts =
      actsAlone facts.repeatedRollback (overruling reasoner
        (upgradedBy facts.repeatedRollback (reportUpgrade engine trigger report)
          ((kubernetesRung facts).choice facts.repeatedRollback)).decisionType
        (upgradedBy facts.repeatedRollback (reportUpgrade engine trigger report)
          ((kubernetesRung facts).choice facts.repeatedRollback)).confidence)
        (reportUpgrade engine trigger report) := by
    simp only [kubernetesActsAlone, afterHypotheses, servicesFor, hladder, upgrade?_hypotheses]
  rw [hheld.floor, halone, goesAhead]
  cases actsAlone _ _ _ with
  | none | some action => simp

theorem decideWithReport_elsewhere {window : Int} {reasoner : Reasoner} {first : Json}
    {other : RemediationDecision}
    (hfacts : kubernetesFacts engine.reading window trigger = .ok facts)
    (hladder : ((kubernetesRung facts).choice facts.repeatedRollback).decisionType ≠ "escalate")
    (hfirst : decideWithReport engine window reasoner trigger analysis first = .ok decision)
    (hsecond : decideWithReport engine window reasoner trigger analysis second = .ok other) :
    other.autonomousMutation = decision.autonomousMutation := by
  have hnone (hypotheses : List RankedHypothesis) : upgrade?
      ((kubernetesRung facts).choice facts.repeatedRollback).decisionType hypotheses = none := by
    rw [upgrade?, if_neg (by simpa using hladder)]
  obtain ⟨found, hfound, hdecision⟩ := decideKubernetes_spec (decideWithReport_ok hfirst)
  obtain ⟨found', hfound', hother⟩ := decideKubernetes_spec (decideWithReport_ok hsecond)
  obtain rfl : found = facts := Except.ok.inj (hfound.symm.trans hfacts)
  obtain rfl : found' = found := Except.ok.inj (hfound'.symm.trans hfacts)
  simp only [afterHypotheses, hnone, servicesFor] at hdecision hother
  split at hdecision
  · next hreview =>
    rw [if_pos hreview] at hother
    rw [RemediationDecision.autonomousMutation, RemediationDecision.autonomousMutation,
      beq_false_of_ne hdecision, beq_false_of_ne hother, Bool.false_and, Bool.false_and]
  · next hreview =>
    rw [if_neg hreview] at hother
    simp only [RemediationDecision.autonomousMutation, RemediationDecision.mutating,
      hdecision, hother]

/-- **A report on its own word**: when a decision that asks nobody stays so under another report. -/
theorem reports_agree_iff {engine : Engine} {window : Int} {reasoner : Reasoner}
    {trigger : Trigger} {analysis : Option ScenarioAnalysis} {facts : KubernetesFacts}
    {first second : Json} {decision other : RemediationDecision}
    (hfacts : kubernetesFacts engine.reading window trigger = .ok facts)
    (hfirst : decideWithReport engine window reasoner trigger analysis first = .ok decision)
    (hsecond : decideWithReport engine window reasoner trigger analysis second = .ok other) :
    (∀ hypotheses others, engine.generate trigger first = .ok hypotheses →
      engine.generate trigger second = .ok others →
      (ownPosteriors hypotheses).Perm (ownPosteriors others)) ∧
    ((decision.autonomousMutation = false → other.autonomousMutation = false) ↔
      (asksForReview analysis || widespread facts) = true ∨
        ((kubernetesRung facts).choice facts.repeatedRollback).decisionType ≠ "escalate" ∨
        goesAhead facts reasoner (reportUpgrade engine trigger first) = true ∨
        goesAhead facts reasoner (reportUpgrade engine trigger second) = false) := by
  constructor
  · intro hypotheses others hgenerate hgenerate'
    obtain ⟨templates, -, -, htemplates, -⟩ := generate_spec hgenerate
    exact (ownPosteriors_generate hgenerate htemplates).trans
      (ownPosteriors_generate hgenerate' htemplates).symm
  · by_cases hladder :
        ((kubernetesRung facts).choice facts.repeatedRollback).decisionType = "escalate"
    · rw [decideWithReport_floor hfacts hladder hfirst,
        decideWithReport_floor hfacts hladder hsecond]
      cases asksForReview analysis || widespread facts with
      | true => simp
      | false =>
        simp only [hladder, Bool.false_eq_true, false_or, ne_eq, not_true_eq_false]
        cases goesAhead facts reasoner (reportUpgrade engine trigger first) <;>
          cases goesAhead facts reasoner (reportUpgrade engine trigger second) <;> simp
    · rw [decideWithReport_elsewhere hfacts hladder hfirst hsecond]
      simp [hladder]

def sampleEngine : Engine where
  reading := noReading
  table := fun c => if c.isAlphanum then some [c.toLower] else none
  stores := { alertEvents := none, serviceContext := none, upstreamDependencies := none }

def bareCrashLoop : Trigger :=
  { sampleCrashLoop with
    relatedContext := sampleCrashLoop.relatedContext.pop "recent_deploy_within_window" }

def sampleReport (confidence : Json) : Json :=
  .obj [("root_cause_candidates", .arr
    [.obj [("root_cause", .str "crash_loop_backoff"), ("confidence", confidence)]])]

def outcomes (second : Json) : Option (Bool × Bool × Bool) :=
  match kubernetesFacts noReading 1800 bareCrashLoop,
      decideWithReport sampleEngine 1800 none bareCrashLoop none .null,
      decideWithReport sampleEngine 1800 none bareCrashLoop none second with
  | .ok facts, .ok decision, .ok other =>
    some (decision.autonomousMutation, other.autonomousMutation,
      goesAhead facts none (reportUpgrade sampleEngine bareCrashLoop second))
  | _, _, _ => none

theorem outcomes_spec {unasked unasked' ahead : Bool}
    (h : outcomes second = some (unasked, unasked', ahead)) :
    ∃ facts decision other, kubernetesFacts noReading 1800 bareCrashLoop = .ok facts ∧
      decideWithReport sampleEngine 1800 none bareCrashLoop none .null = .ok decision ∧
      decideWithReport sampleEngine 1800 none bareCrashLoop none second = .ok other ∧
      decision.autonomousMutation = unasked ∧ other.autonomousMutation = unasked' ∧
      goesAhead facts none (reportUpgrade sampleEngine bareCrashLoop second) = ahead := by
  unfold outcomes at h
  split at h
  · next facts decision other hfacts hfirst hsecond =>
    simp only [Option.some.injEq, Prod.mk.injEq] at h
    exact ⟨facts, decision, other, hfacts, hfirst, hsecond, h.1, h.2.1, h.2.2⟩
  · cases h

/-- A report that is sure of itself is on top, and its hypothesis goes ahead with
nothing. -/
theorem reports_agree_sure :
    ∃ decision other,
      decideWithReport sampleEngine 1800 none bareCrashLoop none .null = .ok decision ∧
      decideWithReport sampleEngine 1800 none bareCrashLoop none
        (sampleReport (.float false 9 (-1))) = .ok other ∧
      (decision.autonomousMutation = false → other.autonomousMutation = false) := by
  obtain ⟨facts, decision, other, hfacts, hfirst, hsecond, -, -, hahead⟩ :=
    outcomes_spec (show outcomes (sampleReport (.float false 9 (-1))) =
      some (false, false, false) by decide +kernel)
  exact ⟨decision, other, hfirst, hsecond,
    (reports_agree_iff hfacts hfirst hsecond).2.mpr (.inr (.inr (.inr hahead)))⟩

/-- A report that is half sure is the only evidence for a rollback, which goes ahead unasked. -/
theorem report_unlocks_rollback :
    ∃ decision other,
      decideWithReport sampleEngine 1800 none bareCrashLoop none .null = .ok decision ∧
      decideWithReport sampleEngine 1800 none bareCrashLoop none
        (sampleReport (.float false 5 (-1))) = .ok other ∧
      decision.autonomousMutation = false ∧ other.autonomousMutation = true := by
  obtain ⟨facts, decision, other, -, hfirst, hsecond, hfalse, htrue, -⟩ :=
    outcomes_spec (show outcomes (sampleReport (.float false 5 (-1))) =
      some (false, true, true) by decide +kernel)
  exact ⟨decision, other, hfirst, hsecond, hfalse, htrue⟩

end OrbitalMesh.Decision
