import OrbitalMesh.Learning.RuleSuggestions

/-!
# What a learned rule matches

A suggestion rests on a group of overrides with one fingerprint, but its rule is made of
three things only: the name of the metric in the first override, the direction at the end
of the fingerprint, and a change of twenty per cent.  The service and the namespace, which
are half of the fingerprint, are not in the rule, and the other names of the metric, which
the fingerprint does not tell apart, are not in it either.
-/

namespace OrbitalMesh.RuleSuggestions

open OrbitalMesh.Decision OrbitalMesh.Decision.MetricRules Counting

variable (signal : MetricSignal)

def RecordedFor (record : OverrideRecord) : Prop :=
  ∃ override now outcome written, Override.signal override = signal ∧
    override.record now = .ok written ∧ record = { written with outcome := outcome }

variable {log records : List OverrideRecord} {sample : OverrideRecord} {parse : ParseTime}

theorem keepRecent_sublist {cutoff : Instant}
    (h : keepRecent parse cutoff log = .ok records) : records.Sublist log := by
  induction log generalizing records with
  | nil =>
    cases h
    exact List.Sublist.refl _
  | cons record rest ih =>
    obtain ⟨recent, -, h⟩ := bind_ok h
    obtain ⟨kept, hkept, h⟩ := bind_ok h
    cases h
    cases recent with
    | true => exact (ih hkept).cons_cons record
    | false => exact (ih hkept).cons record

variable {now : Instant} {maxAgeDays : Option Int} {agreementThreshold : Binary64}
  {rule : MetricActionRule} {parameters : Dict} {successRate : Option Binary64} {size : Nat}

theorem listOverrides_sublist (h : listOverrides parse now log maxAgeDays = .ok records) :
    records.Sublist log := by
  cases maxAgeDays with
  | none =>
    cases h
    exact List.Sublist.refl _
  | some days =>
    obtain ⟨cutoff, -, h⟩ := bind_ok h
    exact keepRecent_sublist h

theorem vote_eq_some_iff {record : OverrideRecord} {action : String} :
    record.vote = some action ↔ record.overrideDecisionType = some action ∧ action ≠ "" := by
  unfold OverrideRecord.vote
  rw [Option.filter_eq_some_iff, bne_iff_ne]

theorem count_votes {action : String} (h : action ≠ "") (records : List OverrideRecord) :
    (records.filterMap OverrideRecord.vote).count action = (choosing action records).length := by
  induction records with
  | nil => rfl
  | cons record rest ih =>
    by_cases hchose : record.overrideDecisionType = some action
    · have hvote := vote_eq_some_iff.mpr ⟨hchose, h⟩
      rw [List.filterMap_cons_some hvote, List.count_cons_self, ih, choosing, choosing,
        List.filter_cons_of_pos (by simpa using hchose), List.length_cons]
    · have hother : (choosing action (record :: rest)).length =
          (choosing action rest).length := by
        rw [choosing, choosing, List.filter_cons_of_neg (by simpa using hchose)]
      rw [hother, ← ih]
      cases hvote : record.vote with
      | none => rw [List.filterMap_cons_none hvote]
      | some other =>
        have hne : other ≠ action := by
          rintro rfl
          exact hchose (vote_eq_some_iff.mp hvote).1
        rw [List.filterMap_cons_some hvote, List.count_cons_of_ne hne]

/-- The winner of a vote: an action that was voted for, and none was voted for more often. -/
theorem winner_spec {xs : List String} {action : String} {count : Nat}
    (h : mostCommon (counter xs) = some (action, count)) :
    action ∈ xs ∧ xs.count action = count ∧ ∀ other, xs.count other ≤ count := by
  obtain ⟨hmem, hmost⟩ := mostCommon_spec h
  obtain ⟨haction, hcount⟩ := mem_counter.mp hmem
  refine ⟨haction, hcount, ?_⟩
  intro other
  by_cases hother : other ∈ xs
  · exact hmost (other, xs.count other) (mem_counter.mpr ⟨hother, rfl⟩)
  · rw [List.count_eq_zero_of_not_mem hother]
    exact Nat.zero_le _

def RuleSuggestion.action (suggestion : RuleSuggestion) : String :=
  suggestion.rule.propose.decisionType

/-- What a suggestion says of the group it is made of. -/
structure Synthesized (fingerprint : String) (records : List OverrideRecord)
    (agreementThreshold : Binary64) (suggestion : RuleSuggestion) : Prop where
  named : suggestion.fingerprint = fingerprint
  learned : ∃ sample parameters successRate size, records.head? = some sample ∧
    suggestion.rule = learnedRule fingerprint suggestion.action sample parameters successRate size
  counted : suggestion.observationCount = records.length
  agreed : (ratio (choosing suggestion.action records).length records.length).lt
    agreementThreshold = false
  most : ∀ action, action ≠ "" →
    (choosing action records).length ≤ (choosing suggestion.action records).length

/-- **What `_synthesize_group` answers.** -/
theorem synthesizeGroup_spec {fingerprint : String} {suggestion : RuleSuggestion}
    (h : synthesizeGroup fingerprint records agreementThreshold = .ok (some suggestion)) :
    Synthesized fingerprint records agreementThreshold suggestion := by
  unfold synthesizeGroup at h
  cases records with
  | nil => cases h
  | cons sample rest =>
    cases hwinner : mostCommon (counter ((sample :: rest).filterMap OverrideRecord.vote)) with
    | none => simp [hwinner] at h
    | some entry =>
      obtain ⟨action, count⟩ := entry
      simp only [hwinner] at h
      obtain ⟨hmem, hcount, hmost⟩ := winner_spec hwinner
      obtain ⟨record, -, hvote⟩ := List.mem_filterMap.mp hmem
      have hnonempty := (vote_eq_some_iff.mp hvote).2
      rw [count_votes hnonempty] at hcount
      by_cases hlow : (ratio count (sample :: rest).length).lt agreementThreshold = true
      · rw [if_pos hlow] at h
        cases h
      · rw [if_neg hlow] at h
        obtain ⟨parameters, -, h⟩ := bind_ok h
        cases h
        exact
          { named := rfl
            learned := ⟨sample, parameters, _, _, rfl, rfl⟩
            counted := rfl
            agreed := by
              show (ratio (choosing action (sample :: rest)).length _).lt _ = false
              rw [hcount]
              exact Bool.eq_false_iff.mpr hlow
            most := by
              intro other hother
              show _ ≤ (choosing action (sample :: rest)).length
              rw [hcount, ← count_votes hother]
              exact hmost other }

/-- **What `synthesize_suggestions` answers**: of each large enough group a suggestion. -/
theorem synthesizeSuggestions_spec {minObservations : Int} {suggestions : List RuleSuggestion}
    (h : synthesizeSuggestions parse now log minObservations agreementThreshold maxAgeDays =
      .ok suggestions) :
    ∃ records, listOverrides parse now log maxAgeDays = .ok records ∧
      ∀ suggestion ∈ suggestions,
        minObservations ≤ (ofFingerprint suggestion.fingerprint records).length ∧
        Synthesized suggestion.fingerprint (ofFingerprint suggestion.fingerprint records)
          agreementThreshold suggestion := by
  obtain ⟨records, hrecords, h⟩ := bind_ok h
  obtain ⟨answers, hanswers, h⟩ := bind_ok h
  cases h
  refine ⟨records, hrecords, ?_⟩
  intro suggestion hsuggestion
  have hanswer : some suggestion ∈ answers := by
    simpa [List.mem_insertionSort] using hsuggestion
  obtain ⟨fingerprint, -, hsuggest⟩ := exists_of_mem_mapM hanswers hanswer
  unfold suggestFor at hsuggest
  by_cases hfew : ((ofFingerprint fingerprint records).length : Int) < minObservations
  · simp [hfew] at hsuggest
  · simp only [hfew, if_false] at hsuggest
    have hgroup := synthesizeGroup_spec hsuggest
    obtain rfl := hgroup.named
    exact ⟨Int.not_lt.mp hfew, hgroup⟩

theorem endsUp_append_up (text : String) : endsUp (text ++ ":up") = true := by
  unfold endsUp
  rw [decide_eq_true_eq, String.toList_append]
  exact List.suffix_append _ _

theorem endsUp_append_down (text : String) : endsUp (text ++ ":down") = false := by
  unfold endsUp
  rw [decide_eq_false_iff_not, String.toList_append]
  rintro ⟨before, hbefore⟩
  have hlast := congrArg List.getLast? hbefore
  simp at hlast

theorem endsUp_fingerprintSignal {signal : MetricSignal} {fingerprint : String}
    (h : fingerprintSignal signal = .ok fingerprint) : endsUp fingerprint = goesUp signal := by
  obtain ⟨space, -, h⟩ := bind_ok h
  obtain rfl := (Except.ok.inj h).symm
  cases goesUp signal with
  | true => exact endsUp_append_up _
  | false => exact endsUp_append_down _

theorem exists_init_of_fault_none {regex : Regex}
    (h : regex.fault rule.matchSpec.metricNamePattern = none) :
    ∃ matcher, Matcher.init regex [rule] = .ok matcher := by
  obtain ⟨table, htable⟩ : ∃ table, compileRule regex ∅ rule = .ok table := by
    unfold compileRule
    by_cases hempty : rule.matchSpec.metricNamePattern = ""
    · exact ⟨_, if_pos hempty⟩
    · rw [if_neg hempty, h]
      exact ⟨_, rfl⟩
  refine ⟨{ regex := regex, rules := [rule], compiledPatterns := table }, ?_⟩
  simp [Matcher.init, htable, pure, Except.pure]

theorem match_isSome_of_single {matcher : Matcher} (h : matcher.rules = [rule])
    {signal : MetricSignal} :
    (matcher.match signal).isSome = true ↔ (matcher.tryMatch rule signal).isSome = true := by
  unfold Matcher.match Matcher.matchAt
  rw [h, Matcher.search]
  cases matcher.tryMatch rule signal <;> simp [Matcher.search]

variable (regex : Regex) (fold : Char → Char)

/-- What is documented of `re.escape`: where case is ignored, the escaped text is found in the
texts that contain it. -/
structure ReadsLiterals : Prop where
  compiles : ∀ text, regex.fault ("(" ++ reEscape text ++ ")") = none
  finds : ∀ text name, regex.search ("(" ++ reEscape text ++ ")") name = true ↔
    text.toList.map fold <:+: name.toList.map fold

/-- The size of the change is at least twenty per cent. -/
def Changed : Prop :=
  ∃ delta, signal.deltaPct = some delta ∧ (Binary64.finite 20).le (absolute delta) = true

/-- What a learned rule asks of a signal.  It asks nothing of the service or the
namespace. -/
structure FitsLearned (sample : OverrideRecord) (fingerprint : String)
    (signal : MetricSignal) : Prop where
  name : sample.metricName.toList.map fold <:+: signal.metricName.toList.map fold
  direction : ∀ observed baseline, signal.observed = some observed →
    signal.baseline = some baseline →
      if endsUp fingerprint then baseline.lt observed = true else observed.lt baseline = true
  change : Changed signal

theorem patternName_eq (sample : OverrideRecord) : patternName sample = sample.metricName := by
  unfold patternName
  by_cases h : sample.metricName = "unknown"
  · rw [h]
    decide
  · simp [h]

theorem learned_directionFits_iff {fingerprint action : String} {signal : MetricSignal} :
    DirectionFits (learnedRule fingerprint action sample parameters successRate size).matchSpec
        signal ↔
      ∀ observed baseline, signal.observed = some observed → signal.baseline = some baseline →
        if endsUp fingerprint then baseline.lt observed = true
        else observed.lt baseline = true := by
  unfold DirectionFits learnedRule
  by_cases hup : endsUp fingerprint = true <;> simp [hup]

theorem learned_deltaFits_iff {fingerprint action : String} {signal : MetricSignal} :
    DeltaFits (learnedRule fingerprint action sample parameters successRate size).matchSpec
        signal ↔ Changed signal := by
  simp [DeltaFits, learnedRule, Changed]

section

variable {regex : Regex} {fold : Char → Char} {fingerprint action : String}
  {sample : OverrideRecord} {parameters : Dict} {successRate : Option Binary64} {size : Nat}

theorem exists_matcher (hregex : ReadsLiterals regex fold) (fingerprint action : String)
    (sample : OverrideRecord) (parameters : Dict) (successRate : Option Binary64) (size : Nat) :
    ∃ matcher, Matcher.init regex
      [learnedRule fingerprint action sample parameters successRate size] = .ok matcher := by
  apply exists_init_of_fault_none
  exact hregex.compiles _

/-- **What a learned rule matches.** -/
theorem learned_match_iff (hregex : ReadsLiterals regex fold) {matcher : Matcher}
    (hinit : Matcher.init regex
      [learnedRule fingerprint action sample parameters successRate size] = .ok matcher)
    (signal : MetricSignal) :
    (matcher.match signal).isSome = true ↔ FitsLearned fold sample fingerprint signal := by
  obtain ⟨hown, hrules, htable⟩ := compiledPatterns_eq hinit
  have hname : NameFits matcher.regex matcher.compiledPatterns[(learnedRule fingerprint action
      sample parameters successRate size).name]? signal ↔
      sample.metricName.toList.map fold <:+: signal.metricName.toList.map fold := by
    rw [htable, hown, ← hregex.finds sample.metricName signal.metricName]
    simp [lastPattern, MatchSpec.ownPattern, NameFits, learnedRule, patternName_eq]
  rw [match_isSome_of_single hrules, tryMatch_isSome_iff, hname, learned_directionFits_iff,
    learned_deltaFits_iff]
  constructor
  · rintro ⟨hname, hdirection, hdelta, -⟩
    exact ⟨hname, hdirection, hdelta⟩
  · intro h
    refine ⟨h.name, h.direction, h.change, ?_, ?_⟩ <;> simp [PairsMatch, learnedRule]

end

def labelled (records : List OverrideRecord) : List OverrideRecord :=
  records.filter fun record => record.outcome.any fun outcome => outcome != "escalated"

/-- A suggestion stays inside its evidence: only overrides with a telling outcome count,
and the rule matches the signals of the fingerprint and no others. -/
structure InsideEvidence (log records : List OverrideRecord)
    (minObservations : Int) (agreementThreshold : Binary64) (suggestion : RuleSuggestion) :
    Prop where
  enough : minObservations ≤ (labelled (ofFingerprint suggestion.fingerprint records)).length
  agreed : (ratio
      (choosing suggestion.action (labelled (ofFingerprint suggestion.fingerprint records))).length
      (labelled (ofFingerprint suggestion.fingerprint records)).length).lt
    agreementThreshold = false
  only : ∀ matcher, Matcher.init regex [suggestion.rule] = .ok matcher → ∀ signal,
    (matcher.match signal).isSome = true → fingerprintSignal signal = .ok suggestion.fingerprint
  all : ∀ matcher, Matcher.init regex [suggestion.rule] = .ok matcher → ∀ signal,
    (∃ record ∈ log, RecordedFor signal record) →
      fingerprintSignal signal = .ok suggestion.fingerprint → Changed signal →
        (matcher.match signal).isSome = true

def LearnsInsideEvidence (parse : ParseTime) (now : Instant)
    (log : List OverrideRecord) (minObservations : Int) (agreementThreshold : Binary64)
    (maxAgeDays : Option Int) : Prop :=
  ∀ records suggestions, listOverrides parse now log maxAgeDays = .ok records →
    synthesizeSuggestions parse now log minObservations agreementThreshold maxAgeDays =
      .ok suggestions →
    ∀ suggestion ∈ suggestions,
      InsideEvidence regex log records minObservations agreementThreshold suggestion

/-- What the code makes of a group: its size and its vote decide, and the rule follows the first
override. -/
structure FollowsFirstOverride
    (records : List OverrideRecord) (minObservations : Int) (agreementThreshold : Binary64)
    (suggestion : RuleSuggestion) (sample : OverrideRecord) (matcher : Matcher) : Prop where
  enough : minObservations ≤ (ofFingerprint suggestion.fingerprint records).length
  agreed : (ratio
      (choosing suggestion.action (ofFingerprint suggestion.fingerprint records)).length
      (ofFingerprint suggestion.fingerprint records).length).lt agreementThreshold = false
  most : ∀ action, action ≠ "" →
    (choosing action (ofFingerprint suggestion.fingerprint records)).length ≤
      (choosing suggestion.action (ofFingerprint suggestion.fingerprint records)).length
  first : (ofFingerprint suggestion.fingerprint records).head? = some sample
  built : Matcher.init regex [suggestion.rule] = .ok matcher
  matched : ∀ signal, (matcher.match signal).isSome = true ↔
    FitsLearned fold sample suggestion.fingerprint signal
  direction : ∀ signal fingerprint, (matcher.match signal).isSome = true →
    signal.observed.isSome = true → signal.baseline.isSome = true →
      fingerprintSignal signal = .ok fingerprint →
        endsUp fingerprint = endsUp suggestion.fingerprint
  covers : ∀ signal, fingerprintSignal signal = .ok suggestion.fingerprint → Changed signal →
    sample.metricName.toList.map fold <:+: signal.metricName.toList.map fold →
    (signal.observed = signal.baseline → signal.observed = none) →
      (matcher.match signal).isSome = true

theorem FitsLearned.goesUp_eq {fold : Char → Char} {fingerprint : String} {signal : MetricSignal}
    (h : FitsLearned fold sample fingerprint signal) (hobserved : signal.observed.isSome = true)
    (hbaseline : signal.baseline.isSome = true) : goesUp signal = endsUp fingerprint := by
  obtain ⟨observed, hobserved⟩ := Option.isSome_iff_exists.mp hobserved
  obtain ⟨baseline, hbaseline⟩ := Option.isSome_iff_exists.mp hbaseline
  have hdirection := h.direction observed baseline hobserved hbaseline
  have hgoes : goesUp signal = baseline.lt observed := by
    unfold goesUp
    rw [hobserved, hbaseline]
  rw [hgoes]
  cases hup : endsUp fingerprint with
  | true => simpa [hup] using hdirection
  | false =>
    apply Binary64.not_lt_of_lt
    simpa [hup] using hdirection

theorem fitsLearned_of_fingerprint {fold : Char → Char} {fingerprint : String}
    {signal : MetricSignal} (hfingerprint : fingerprintSignal signal = .ok fingerprint)
    (hchanged : Changed signal)
    (hname : sample.metricName.toList.map fold <:+: signal.metricName.toList.map fold)
    (hdiffer : signal.observed = signal.baseline → signal.observed = none) :
    FitsLearned fold sample fingerprint signal := by
  refine ⟨hname, ?_, hchanged⟩
  intro observed baseline hobserved hbaseline
  have hgoes : endsUp fingerprint = baseline.lt observed := by
    rw [endsUp_fingerprintSignal hfingerprint, goesUp, hobserved, hbaseline]
  rw [hgoes]
  by_cases hup : baseline.lt observed = true
  · rw [if_pos hup]
    exact hup
  · rw [if_neg hup]
    apply Binary64.lt_of_le_of_ne
    · rw [Binary64.le_eq_not_lt (numberAt_ne_nan hobserved) (numberAt_ne_nan hbaseline)]
      simpa using hup
    · rintro rfl
      have hnone := hdiffer (hobserved.trans hbaseline.symm)
      rw [hobserved] at hnone
      cases hnone

def unescape : List Char → List Char
  | '\\' :: c :: rest => c :: unescape rest
  | c :: rest => c :: unescape rest
  | [] => []

theorem unescape_flatMap_escape (text : List Char) :
    unescape (text.flatMap fun c => if isSpecial c then ['\\', c] else [c]) = text := by
  induction text with
  | nil => rfl
  | cons c rest ih =>
    rw [List.flatMap_cons]
    by_cases hspecial : isSpecial c = true
    · rw [if_pos hspecial]
      simp only [List.cons_append, List.nil_append, unescape, ih]
    · rw [if_neg hspecial]
      have hplain : c ≠ '\\' := by
        rintro rfl
        exact hspecial (by decide)
      simp only [List.cons_append, List.nil_append]
      rw [unescape, ih]
      intro d tail hc
      exact absurd hc hplain

def literalText : Regex where
  fault _ := none
  search pattern name :=
    decide ((unescape pattern.toList.tail.dropLast).map Char.toLower <:+:
      name.toList.map Char.toLower)

theorem literalText_readsLiterals : ReadsLiterals literalText Char.toLower where
  compiles _ := rfl
  finds text name := by
    have hgroup : ("(" ++ reEscape text ++ ")").toList.tail.dropLast =
        text.toList.flatMap fun c => if isSpecial c then ['\\', c] else [c] := by
      simp [reEscape]
    unfold literalText
    rw [decide_eq_true_eq, hgroup, unescape_flatMap_escape]

def camelLag : MetricSignal where
  members := [("service", .str "payments"), ("metric_regression", .obj
    [("metric_name", .str "ConsumerLag"), ("observed_value", .int 200),
     ("baseline_value", .int 100), ("delta_pct", .int 100)])]
  typed := by decide +kernel

def notificationsLag : MetricSignal where
  members := [("service", .str "notifications"), ("metric_regression", .obj
    [("metric_name", .str "kafka.consumer.lag"), ("observed_value", .int 200),
     ("baseline_value", .int 100), ("delta_pct", .int 100)])]
  typed := by decide +kernel

def scaledInstead : Override where
  signal := signal
  runId := "run_1"
  originalDecisionType := "escalate"
  overrideDecisionType := some "scale_deployment"
  overrideParameters := [("deployment_name", .str "payments"), ("replicas_delta", .int 2)]
  originalParameters := []

def lagRecord (metricName : String) (outcome : Option String) : OverrideRecord where
  fingerprint := "lag:payments:default:up"
  recordedAt := "2026-01-05T09:00:00+00:00"
  runId := "run_1"
  originalDecisionType := "escalate"
  overrideDecisionType := some "scale_deployment"
  overrideParameters := [("deployment_name", .str "payments"), ("replicas_delta", .int 2)]
  originalParameters := []
  service := "payments"
  metricName := metricName
  outcome := outcome

def inFlightLog : List OverrideRecord := List.replicate 5 (lagRecord "kafka.consumer.lag" none)

def finishedLog : List OverrideRecord :=
  List.replicate 4 (lagRecord "kafka.consumer.lag" (some "successful")) ++
    [lagRecord "ConsumerLag" (some "successful")]

def noTimes : ParseTime := fun _ => none

def suggestedFingerprints (log : List OverrideRecord) : Option (List String) :=
  (synthesizeSuggestions noTimes 0 log 5 0.6 none).toOption.map fun suggestions =>
    suggestions.map RuleSuggestion.fingerprint

theorem exists_suggestion (log : List OverrideRecord) (fingerprint : String)
    (h : suggestedFingerprints log = some [fingerprint]) :
    ∃ suggestions, synthesizeSuggestions noTimes 0 log 5 0.6 none = .ok suggestions ∧
      ∃ suggestion ∈ suggestions, suggestion.fingerprint = fingerprint := by
  unfold suggestedFingerprints at h
  cases hsuggestions : synthesizeSuggestions noTimes 0 log 5 0.6 none with
  | error e =>
    rw [hsuggestions] at h
    cases h
  | ok suggestions =>
    rw [hsuggestions] at h
    have hmap : suggestions.map RuleSuggestion.fingerprint = [fingerprint] := Option.some.inj h
    have hmem : fingerprint ∈ suggestions.map RuleSuggestion.fingerprint := by
      rw [hmap]
      exact List.mem_singleton_self fingerprint
    exact ⟨suggestions, rfl, List.mem_map.mp hmem⟩

/-- The signal under the other name is in the log. -/
theorem recorded_camelLag : ∃ record ∈ finishedLog, RecordedFor camelLag record :=
  ⟨lagRecord "ConsumerLag" (some "successful"), by simp [finishedLog], scaledInstead camelLag,
    "2026-01-05T09:00:00+00:00", some "successful", lagRecord "ConsumerLag" none, rfl,
    by decide +kernel, rfl⟩

theorem fits_notificationsLag :
    FitsLearned Char.toLower (lagRecord "kafka.consumer.lag" (some "successful"))
      "lag:payments:default:up" notificationsLag := by
  refine ⟨by decide +kernel, ?_, ⟨.finite 100, by decide +kernel, by decide +kernel⟩⟩
  intro observed baseline hobserved hbaseline
  obtain rfl : Binary64.finite 200 = observed :=
    Option.some.inj ((by decide +kernel : some (Binary64.finite 200) =
      notificationsLag.observed).trans hobserved)
  obtain rfl : Binary64.finite 100 = baseline :=
    Option.some.inj ((by decide +kernel : some (Binary64.finite 100) =
      notificationsLag.baseline).trans hbaseline)
  decide +kernel

end OrbitalMesh.RuleSuggestions
