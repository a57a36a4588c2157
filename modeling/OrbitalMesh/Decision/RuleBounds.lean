import OrbitalMesh.Decision.MetricRules

/-!
# The bound of a rule

A rule may bound the change of replicas that it proposes.  `_render_parameters` fills in
the placeholders first and clamps afterwards, and it clamps numbers only; what a
placeholder has been filled in with is always a text.
-/

namespace OrbitalMesh.Decision.MetricRules

def amount (value : Json) : Option Binary64 := (asNumber? value).map Number.exact

/-- The value is a number between `-bound` and `bound`. -/
def WithinBound (bound : Binary64) (value : Json) : Prop :=
  ∃ x, amount value = some x ∧ bound.neg.le x = true ∧ x.le bound = true

def BoundHolds (bound : Binary64) (parameters : Dict) : Prop :=
  ∀ delta, parameters.get? "replicas_delta" = some delta → WithinBound bound delta

variable (signal : Dict) (neg : Bool) (mant : Nat) (exp : Int)

theorem doubleOf_ne_nan : doubleOf neg mant exp ≠ .nan :=
  Binary64.nearest_ne_nan _

theorem doubleOf_not : doubleOf (!neg) mant exp = (doubleOf neg mant exp).neg := by
  unfold doubleOf
  rw [← Binary64.nearest_neg]
  cases neg <;> simp

variable {value bound : Json} {x b : Binary64}

theorem amount_ne_nan (h : amount value = some x) : x ≠ .nan := by
  obtain ⟨number, hnumber, rfl⟩ := Option.map_eq_some_iff.mp h
  cases value with
  | bool b | int n =>
    obtain rfl := Option.some.inj hnumber
    simp [Number.exact]
  | float neg mant exp =>
    obtain rfl := Option.some.inj hnumber
    exact doubleOf_ne_nan neg mant exp
  | null | str | arr | obj => cases hnumber

theorem amount_negated (value : Json) : amount (negated value) = (amount value).map .neg := by
  unfold amount
  cases value with
  | bool b => cases b <;> simp [negated, asNumber?, Number.exact, Binary64.neg]
  | int n => simp [negated, asNumber?, Number.exact, Binary64.neg]
  | float neg mant exp => simp [negated, asNumber?, Number.exact, doubleOf_not]
  | null | str | arr | obj => rfl

theorem above_eq {a b : Json} {y : Binary64} (ha : amount a = some x) (hb : amount b = some y) :
    above a b = y.lt x := by
  obtain ⟨m, hm, rfl⟩ := Option.map_eq_some_iff.mp ha
  obtain ⟨n, hn, rfl⟩ := Option.map_eq_some_iff.mp hb
  simp [above, hm, hn]

/-- **A clamped number is within a bound that is not negative.** -/
theorem withinBound_clampSigned (hvalue : amount value = some x) (hbound : amount bound = some b)
    (hpos : (Binary64.finite 0).le b = true) : WithinBound b (clampSigned value bound) := by
  have hb : b ≠ .nan := amount_ne_nan hbound
  have hx : x ≠ .nan := amount_ne_nan hvalue
  have hnegated : amount (negated bound) = some b.neg := by rw [amount_negated, hbound]; rfl
  unfold clampSigned
  rw [above_eq hvalue hbound, above_eq hnegated hvalue]
  by_cases hhigh : b.lt x = true
  · rw [if_pos hhigh]
    exact ⟨b, hbound, Binary64.neg_le_self hpos, Binary64.le_self hb⟩
  · rw [if_neg hhigh]
    by_cases hlow : x.lt b.neg = true
    · rw [if_pos hlow]
      exact ⟨b.neg, hnegated, Binary64.le_self (Binary64.neg_ne_nan hb),
        Binary64.neg_le_self hpos⟩
    · rw [if_neg hlow]
      refine ⟨x, hvalue, ?_, ?_⟩
      · rw [Binary64.le_eq_not_lt (Binary64.neg_ne_nan hb) hx]
        simpa using hlow
      · rw [Binary64.le_eq_not_lt hx hb]
        simpa using hhigh

theorem nonneg_of_withinBound (h : WithinBound b value) : (Binary64.finite 0).le b = true := by
  obtain ⟨x, -, hlow, hhigh⟩ := h
  exact Binary64.nonneg_of_between hlow hhigh

theorem get?_map (d : Dict) (f : Json → Json) (key : String) :
    Dict.get? (d.map fun entry => (entry.1, f entry.2)) key = (d.get? key).map f := by
  induction d with
  | nil => rfl
  | cons entry rest ih =>
    rw [List.map_cons, Dict.get?_cons, Dict.get?_cons, ih]
    split <;> rfl

/-- Rendering leaves numbers alone, and makes none. -/
theorem amount_renderValue (value : Json) : amount (renderValue signal value) = amount value := by
  cases value with
  | str text =>
    unfold renderValue
    simp only
    split <;> rfl
  | null | bool | int | float | arr | obj => rfl

theorem get?_renderParameters {rule : MetricActionRule}
    (hbound : rule.bounds.get? "replicas_delta_max" = some bound) (hb : amount bound = some b) :
    (renderParameters rule signal).get? "replicas_delta" =
      (rule.propose.parameters.get? "replicas_delta").map fun delta =>
        if (amount delta).isSome then clampSigned (renderValue signal delta) bound
        else renderValue signal delta := by
  have hmap := get?_map rule.propose.parameters (renderValue signal) "replicas_delta"
  have hnumber (delta : Json) :
      (asNumber? (renderValue signal delta)).isSome = (amount delta).isSome := by
    rw [← amount_renderValue signal delta, amount, Option.isSome_map]
  unfold renderParameters
  simp only [hbound, hmap]
  cases hdelta : rule.propose.parameters.get? "replicas_delta" with
  | none =>
    rw [hdelta] at hmap
    cases bound <;> exact hmap
  | some delta =>
    rw [hdelta] at hmap
    have hnull : bound ≠ .null := by
      rintro rfl
      cases hb
    have hclamped := Dict.get?_set_self
      (rule.propose.parameters.map fun entry => (entry.1, renderValue signal entry.2))
      "replicas_delta" (clampSigned (renderValue signal delta) bound)
    cases bound with
    | null => exact absurd rfl hnull
    | bool | int | float | str | arr | obj =>
      simp only [Option.map_some, hnumber]
      split
      · exact hclamped
      · exact hmap

/-- **When the bound of a rule holds**: where no replicas are proposed, or a number and the bound
is not negative. -/
theorem rule_bound_holds_iff {regex : Regex} {rules : List MetricActionRule} {matcher : Matcher}
    (h : Matcher.init regex rules = .ok matcher) {signal : MetricSignal} {place : Nat}
    {ruleMatch : RuleMatch} (hmatch : matcher.matchAt signal = some (place, ruleMatch))
    {rule : MetricActionRule} (hrule : rules[place]? = some rule) {bound : Json} {b : Binary64}
    (hbound : rule.bounds.get? "replicas_delta_max" = some bound) (hb : amount bound = some b) :
    BoundHolds b ruleMatch.parameters ↔
      ∀ delta, rule.propose.parameters.get? "replicas_delta" = some delta →
        (amount delta).isSome = true ∧ (Binary64.finite 0).le b = true := by
  obtain ⟨-, hrules, -⟩ := compiledPatterns_eq h
  have hsearch := search_spec matcher signal 0 matcher.rules
  rw [show matcher.search signal 0 matcher.rules = some (place, ruleMatch) from hmatch] at hsearch
  obtain ⟨offset, found, evidence, hplace, hfound, -, hparameters, -⟩ := hsearch
  obtain rfl : found = rule := by
    rw [Nat.zero_add] at hplace
    rw [hrules, ← hplace, hrule] at hfound
    exact (Option.some.inj hfound).symm
  have hget := get?_renderParameters signal.members hbound hb
  unfold BoundHolds
  rw [hparameters]
  simp only [MetricActionRule.matched, hget]
  cases hdelta : found.propose.parameters.get? "replicas_delta" with
  | none => simp
  | some delta =>
    simp only [Option.map_some, Option.some.injEq, forall_eq']
    constructor
    · intro hwithin
      refine ⟨?_, nonneg_of_withinBound hwithin⟩
      by_contra hnone
      obtain ⟨x, hx, -⟩ := hwithin
      rw [if_neg hnone, amount_renderValue] at hx
      simp [hx] at hnone
    · rintro ⟨hsome, hpos⟩
      obtain ⟨x, hx⟩ := Option.isSome_iff_exists.mp hsome
      rw [if_pos hsome]
      exact withinBound_clampSigned (by rw [amount_renderValue, hx]) hb hpos

theorem scale_named : "scale" ≠ "" := by decide

def scalingRule (delta : Json) : MetricActionRule where
  name := "scale"
  matchSpec := { metricNamePattern := "queue_depth" }
  propose := { decisionType := "scale_deployment", system := "kubernetes_service",
               action := "scale_deployment", parameters := [("replicas_delta", delta)] }
  bounds := [("replicas_delta_max", .int 2)]
  named := scale_named
  confident := confident_default
  levelled := levelled_medium
  clamped := by decide

def greedySignal : MetricSignal where
  members := [("metric_regression", .obj [("metric_name", .str "worker.queue_depth")]),
    ("resource_attributes", .obj [("replicas", .str "50")])]
  typed := by decide +kernel

def placeholder : Json := .str "\x7bresource_attributes.replicas\x7d"

theorem rule_bound_holds_sample :
    ∃ matcher ruleMatch, Matcher.init plainText [scalingRule (.int 10)] = .ok matcher ∧
      matcher.matchAt greedySignal = some (0, ruleMatch) ∧
      ruleMatch.parameters = [("replicas_delta", .int 2)] ∧
      BoundHolds (.finite 2) ruleMatch.parameters := by
  obtain ⟨matcher, hinit, hfound⟩ : ∃ matcher,
      Matcher.init plainText [scalingRule (.int 10)] = .ok matcher ∧
        (matcher.matchAt greedySignal).map (fun found => (found.1, found.2.parameters)) =
          some (0, [("replicas_delta", .int 2)]) :=
    ⟨_, rfl, by decide +kernel⟩
  obtain ⟨⟨place, ruleMatch⟩, hmatch, hpair⟩ := Option.map_eq_some_iff.mp hfound
  obtain ⟨rfl, hparameters⟩ := Prod.mk.inj hpair
  have hbound : (scalingRule (.int 10)).bounds.get? "replicas_delta_max" = some (.int 2) := rfl
  have hamount : amount (.int 2) = some (.finite 2) := by decide +kernel
  refine ⟨matcher, ruleMatch, hinit, hmatch, hparameters, ?_⟩
  apply (rule_bound_holds_iff hinit hmatch rfl hbound hamount).mpr
  intro delta hdelta
  obtain rfl := Option.some.inj hdelta
  exact ⟨rfl, by decide +kernel⟩

/-- **A placeholder is not clamped.**  The text that has been filled in is proposed as it
stands in the signal. -/
theorem placeholder_is_not_clamped :
    ∃ matcher ruleMatch,
      Matcher.init plainText [scalingRule placeholder] = .ok matcher ∧
      matcher.matchAt greedySignal = some (0, ruleMatch) ∧
      ruleMatch.parameters = [("replicas_delta", .str "50")] ∧
      ¬ BoundHolds (.finite 2) ruleMatch.parameters := by
  obtain ⟨matcher, hinit, hfound⟩ : ∃ matcher,
      Matcher.init plainText [scalingRule placeholder] = .ok matcher ∧
        (matcher.matchAt greedySignal).map (fun found => (found.1, found.2.parameters)) =
          some (0, [("replicas_delta", .str "50")]) :=
    ⟨_, rfl, by decide +kernel⟩
  obtain ⟨⟨place, ruleMatch⟩, hmatch, hpair⟩ := Option.map_eq_some_iff.mp hfound
  obtain ⟨rfl, hparameters⟩ := Prod.mk.inj hpair
  refine ⟨matcher, ruleMatch, hinit, hmatch, hparameters, ?_⟩
  intro hholds
  obtain ⟨x, hx, -⟩ := hholds (.str "50") (by rw [hparameters]; rfl)
  cases hx

end OrbitalMesh.Decision.MetricRules
