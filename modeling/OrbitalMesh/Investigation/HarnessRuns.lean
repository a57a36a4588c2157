import OrbitalMesh.Investigation.Harness

/-!
# What the investigation loop keeps

A run invokes what is registered, allowed and well formed, in at most as many rounds as
it is given, and ends with a reason.  Whether it invokes a call twice, refuses a new one
as a repeat, or overspends depends on two things that the code takes for granted: that
flattened arguments are equal exactly where the arguments are, and that a double
difference is not above the true one.
-/

namespace OrbitalMesh.Investigation

/-- The arguments are what the schema of the tool declares. -/
structure SatisfiesSchema (args schema : Dict) : Prop where
  required : ∀ name fieldSchema, (name, Json.obj fieldSchema) ∈ schema →
    truthyAt fieldSchema "required" = true → (args.get? name).isSome = true
  typed : ∀ name fieldSchema value, (name, Json.obj fieldSchema) ∈ schema →
    args.get? name = some value →
      (value = .null ∧ truthyAt fieldSchema "nullable" = true) ∨
      (value ≠ .null ∧ checkType (expectedType fieldSchema) value = true)
  known : schema ≠ [] → ∀ entry ∈ args, (schema.get? entry.1).isSome = true

def Offered (critic : LoopCritic) (call : ToolCall) : Prop :=
  ∃ definition fn, critic.registry.get call.domain call.toolName = some (definition, fn) ∧
    definition.mutationClass ∈ critic.allowed

def Permitted (critic : LoopCritic) (call : ToolCall) : Prop :=
  ∃ definition fn, critic.registry.get call.domain call.toolName = some (definition, fn) ∧
    definition.mutationClass ∈ critic.allowed ∧ SatisfiesSchema call.args definition.argsSchema

variable {critic : LoopCritic} {call : ToolCall} {seen : List Signature} {planner : LoopPlanner}

theorem Permitted.offered (h : Permitted critic call) : Offered critic call := by
  obtain ⟨definition, fn, hget, hallowed, -⟩ := h
  exact ⟨definition, fn, hget, hallowed⟩

def SameCall (a b : ToolCall) : Prop :=
  a.domain = b.domain ∧ a.toolName = b.toolName ∧ Json.pyEq (.obj a.args) (.obj b.args) = true

variable {args : Dict} {x budget : ℚ} {rejections : List LoopRejection} {rounds : Nat}

theorem fieldViolations_eq_nil_iff {fieldSchema : Dict} {name : String} :
    fieldViolations args (name, .obj fieldSchema) = [] ↔
      (truthyAt fieldSchema "required" = true → (args.get? name).isSome = true) ∧
      ∀ value, args.get? name = some value →
        (value = .null ∧ truthyAt fieldSchema "nullable" = true) ∨
        (value ≠ .null ∧ checkType (expectedType fieldSchema) value = true) := by
  unfold fieldViolations
  cases hvalue : args.get? name with
  | none => simp [hvalue]
  | some value =>
    cases value with
    | null | bool | int | float | str | arr | obj => simp [hvalue]

/-- **No violation means that the arguments are as declared.** -/
theorem validateArgs_eq_nil_iff {schema : Dict} :
    validateArgs args schema = [] ↔ SatisfiesSchema args schema := by
  have hextra : (((args.map (·.1)).filter fun key => (schema.get? key).isNone) = [] ∨
      schema = []) ↔ (schema ≠ [] → ∀ entry ∈ args, (schema.get? entry.1).isSome = true) := by
    by_cases hempty : schema = []
    · simp [hempty]
    · simp [hempty, List.filter_eq_nil_iff, Option.isSome_iff_ne_none]
  unfold validateArgs
  simp only [List.append_eq_nil_iff, List.flatMap_eq_nil_iff, ite_eq_left_iff,
    List.cons_ne_nil, imp_false, not_not]
  rw [hextra]
  constructor
  · rintro ⟨hfields, hknown⟩
    exact { required := fun name fieldSchema hmem =>
              (fieldViolations_eq_nil_iff.mp (hfields _ hmem)).1
            typed := fun name fieldSchema value hmem =>
              (fieldViolations_eq_nil_iff.mp (hfields _ hmem)).2 value
            known := hknown }
  · intro hsatisfies
    refine ⟨?_, hsatisfies.known⟩
    rintro ⟨name, fieldSchema⟩ hmem
    cases fieldSchema with
    | obj members =>
      exact fieldViolations_eq_nil_iff.mpr ⟨hsatisfies.required name members hmem,
        fun value => hsatisfies.typed name members value hmem⟩
    | null | bool | int | float | str | arr => rfl

theorem checkCall_eq_none_iff :
    critic.checkCall call seen = none ↔ Permitted critic call ∧ signatureOf call ∉ seen := by
  unfold LoopCritic.checkCall Permitted
  cases hget : critic.registry.get call.domain call.toolName with
  | none => simp
  | some entry =>
    obtain ⟨definition, fn⟩ := entry
    by_cases hallowed : definition.mutationClass ∈ critic.allowed
    · by_cases hseen : signatureOf call ∈ seen
      · simp [hallowed, hseen]
      · simp [hallowed, hseen, validateArgs_eq_nil_iff]
    · simp [hallowed]

theorem checkCall_duplicate {refusal : LoopRejection}
    (h : critic.checkCall call seen = some refusal) (hreason : refusal.reason = "duplicate_call") :
    Offered critic call ∧ signatureOf call ∈ seen := by
  unfold LoopCritic.checkCall at h
  cases hget : critic.registry.get call.domain call.toolName with
  | none =>
    simp only [hget, Option.some.injEq] at h
    simp [← h, rejection] at hreason
  | some entry =>
    obtain ⟨definition, fn⟩ := entry
    simp only [hget] at h
    split at h
    · cases h
      simp [rejection] at hreason
    · next hallowed =>
      split at h
      · next hseen => exact ⟨⟨definition, fn, hget, not_not.mp hallowed⟩, hseen⟩
      · split at h
        · cases h
        · cases h
          simp [rejection] at hreason

@[simp] theorem approvedOf_nil : approvedOf [] = [] := rfl

@[simp] theorem approvedOf_append (before after : List Verdict) :
    approvedOf (before ++ after) = approvedOf before ++ approvedOf after := by
  simp [approvedOf]

@[simp] theorem approvedOf_cons_none (call : ToolCall) (rest : List Verdict) :
    approvedOf ((call, none) :: rest) = call :: approvedOf rest := rfl

@[simp] theorem approvedOf_cons_some (call : ToolCall) (refusal : LoopRejection)
    (rest : List Verdict) : approvedOf ((call, some refusal) :: rest) = approvedOf rest := rfl

theorem mem_approvedOf {verdicts : List Verdict} :
    call ∈ approvedOf verdicts ↔ (call, none) ∈ verdicts := by
  induction verdicts with
  | nil => simp
  | cons verdict rest ih =>
    obtain ⟨other, outcome⟩ := verdict
    cases outcome <;> simp [ih]

/-- **The verdict on a call**, which is compared with what was seen before the review and
with what the review has approved so far. -/
theorem judge_at {calls : List ToolCall} {before after : List Verdict}
    {outcome : Option LoopRejection}
    (h : critic.judge seen calls = before ++ (call, outcome) :: after) :
    call ∈ calls ∧
      critic.checkCall call ((approvedOf before).reverse.map signatureOf ++ seen) = outcome := by
  induction before generalizing seen calls with
  | nil =>
    cases calls with
    | nil => simp [LoopCritic.judge] at h
    | cons first rest =>
      unfold LoopCritic.judge at h
      cases hcheck : critic.checkCall first seen <;> simp only [hcheck] at h <;>
        injection h with hhead htail <;> cases hhead <;>
        exact ⟨List.mem_cons_self, by simpa using hcheck⟩
  | cons verdict before ih =>
    cases calls with
    | nil => simp [LoopCritic.judge] at h
    | cons first rest =>
      unfold LoopCritic.judge at h
      cases hcheck : critic.checkCall first seen with
      | none | some refusal =>
        simp only [hcheck, List.cons_append] at h
        injection h with hhead htail
        obtain ⟨hmem, hcall⟩ := ih htail
        refine ⟨List.mem_cons_of_mem _ hmem, ?_⟩
        simpa [← hhead] using hcall

/-- The double that is left after a payment is not above the true difference, unless
nothing is left. -/
def RoundsDown (budget : Binary64) (cost : ℚ) : Prop :=
  ∀ x, budget = .finite x → (budget.sub (.finite cost)).le (.finite (max 0 (x - cost))) = true

def PaidInFull (registry : ToolRegistry) : Binary64 → List ToolCall → Prop
  | _, [] => True
  | budget, call :: rest =>
    RoundsDown budget (registry.costOf call) ∧
      (spent (pay budget (registry.costOf call)) = false →
        PaidInFull registry (pay budget (registry.costOf call)) rest)

/-- Of two calls of one tool the flattened arguments are equal exactly where the
arguments are. -/
def ToldApart (a b : ToolCall) : Prop :=
  a.domain = b.domain → a.toolName = b.toolName →
    (stableArgsSignature a.args = stableArgsSignature b.args ↔
      Json.pyEq (.obj a.args) (.obj b.args) = true)

/-- The planner asks for nothing that the code mistakes, and no payment is rounded up. -/
structure Meets (planner : LoopPlanner) (critic : LoopCritic) (state : LoopState) : Prop where
  apart : ∀ call ∈ (planner state).nextCalls, Offered critic call →
    ∀ earlier ∈ state.toolCalls ++ (planner state).nextCalls, Permitted critic earlier →
      ToldApart earlier call
  exact : PaidInFull critic.registry state.budgetRemaining
    (approvedOf (critic.judge state.callSignatures (planner state).nextCalls))

/-- The state after so many whole rounds. -/
inductive Reached (planner : LoopPlanner) (critic : LoopCritic) (start : LoopState) :
    Nat → LoopState → Prop
  | start : Reached planner critic start 0 start
  | next {rounds : Nat} {state next : LoopState} (h : Reached planner critic start rounds state)
      (hround : round planner critic state = (true, next)) :
      Reached planner critic start (rounds + 1) next

def LoopState.log (state : LoopState) : List Verdict :=
  state.plannerDecisions.flatMap (·.verdicts)

variable (registry : ToolRegistry) (calls : List ToolCall)

def totalCost : ℚ :=
  (calls.map registry.costOf).sum

def RepeatsOnly (log : List Verdict) : Prop :=
  ∀ before call refusal after, log = before ++ (call, some refusal) :: after →
    refusal.reason = "duplicate_call" → ∃ earlier, (earlier, none) ∈ before ∧ SameCall earlier call

/-- What holds of every state of a run, whatever the planner asks for. -/
structure Guarded (critic : LoopCritic) (state : LoopState) : Prop where
  permitted : ∀ call ∈ state.toolCalls, Permitted critic call
  approved : ∀ call ∈ state.toolCalls, (call, none) ∈ state.log
  aligned : state.toolResults = state.toolCalls.map critic.registry.invoke

/-- The budget that is left and what was spent of it. -/
structure Affordable (budget : ℚ) (state : LoopState) : Prop where
  left : ∃ x, state.budgetRemaining = .finite x ∧
    (0 < x → totalCost registry state.toolCalls + x ≤ budget)
  last : state.toolCalls = [] ∨ ∃ call ∈ state.toolCalls,
    totalCost registry state.toolCalls < budget + registry.costOf call

theorem pay_finite {cost : ℚ} (hdown : RoundsDown (.finite x) cost) :
    ∃ y, pay (.finite x) cost = .finite y ∧ (0 < y → y ≤ x - cost) := by
  have hle := hdown x rfl
  unfold pay Binary64.greatest
  cases hsub : Binary64.sub (.finite x) (.finite cost) with
  | finite y =>
    rw [hsub] at hle
    have hy : y ≤ max 0 (x - cost) := by simpa [Binary64.le] using hle
    by_cases hpositive : 0 < y
    · refine ⟨y, by simp [Binary64.lt, hpositive], fun _ => ?_⟩
      rcases le_max_iff.mp hy with h | h
      · exact absurd hpositive (not_lt.mpr h)
      · exact h
    · exact ⟨0, by simp [Binary64.lt, hpositive], fun h => absurd h (lt_irrefl _)⟩
  | infinite negative =>
    rw [hsub] at hle
    have hnegative : negative = true := by simpa [Binary64.le] using hle
    exact ⟨0, by simp [Binary64.lt, hnegative], fun h => absurd h (lt_irrefl _)⟩
  | nan =>
    rw [hsub] at hle
    simp [Binary64.le] at hle

theorem not_spent_finite : spent (.finite x) = false ↔ 0 < x := by
  simp [spent, Binary64.le]

variable {state : LoopState}

/-- **One payment.**  While something is left, what was spent before is below the
budget. -/
theorem Affordable.invokeCall {registry : ToolRegistry} (h : Affordable registry budget state)
    (hleft : spent state.budgetRemaining = false)
    (hdown : RoundsDown state.budgetRemaining (registry.costOf call)) :
    Affordable registry budget (invokeCall registry state call) := by
  obtain ⟨x, hx, hbudget⟩ := h.left
  rw [hx] at hleft hdown
  have hpositive := not_spent_finite.mp hleft
  obtain ⟨y, hy, hle⟩ := pay_finite hdown
  have htotal : totalCost registry (state.toolCalls ++ [call]) =
      totalCost registry state.toolCalls + registry.costOf call := by
    simp [totalCost]
  have hbefore := hbudget hpositive
  refine { left := ⟨y, ?_, ?_⟩, last := .inr ⟨call, ?_, ?_⟩ }
  · simpa [Investigation.invokeCall, hx] using hy
  · intro hy
    have hrest := hle hy
    simp only [Investigation.invokeCall, LoopState.record, htotal]
    linarith
  · simp [Investigation.invokeCall, LoopState.record]
  · simp only [Investigation.invokeCall, LoopState.record, htotal]
    linarith

theorem Affordable.invokeCalls {registry : ToolRegistry} {calls : List ToolCall}
    (h : Affordable registry budget state) (hleft : spent state.budgetRemaining = false)
    (hpaid : PaidInFull registry state.budgetRemaining calls) :
    Affordable registry budget (invokeCalls registry state calls) := by
  induction calls generalizing state with
  | nil => exact h
  | cons call rest ih =>
    obtain ⟨hdown, hrest⟩ := hpaid
    have hnext := h.invokeCall hleft hdown
    unfold Investigation.invokeCalls
    dsimp only
    split
    · exact hnext
    · next hspent =>
      have hleft : spent (pay state.budgetRemaining (registry.costOf call)) = false :=
        Bool.eq_false_iff.mpr hspent
      exact ih hnext hleft (hrest hleft)

theorem invokeCalls_eq (state : LoopState) (calls : List ToolCall) :
    ∃ invoked, invoked <+: calls ∧
      (invokeCalls registry state calls).toolCalls = state.toolCalls ++ invoked ∧
      (invokeCalls registry state calls).toolResults =
        state.toolResults ++ invoked.map registry.invoke ∧
      (invokeCalls registry state calls).plannerDecisions = state.plannerDecisions ∧
      (invokeCalls registry state calls).iteration = state.iteration ∧
      (invokeCalls registry state calls).stopReason = state.stopReason := by
  induction calls generalizing state with
  | nil => exact ⟨[], by simp [invokeCalls]⟩
  | cons call rest ih =>
    unfold invokeCalls
    dsimp only
    split
    · exact ⟨[call], by simp, rfl, rfl, rfl, rfl, rfl⟩
    · obtain ⟨invoked, hfront, hcalls, hresults, hdecisions, hiteration, hreason⟩ :=
        ih (invokeCall registry state call)
      refine ⟨call :: invoked, by simpa using hfront, ?_, ?_, hdecisions, hiteration, hreason⟩
      · rw [hcalls]
        simp [invokeCall, LoopState.record]
      · rw [hresults]
        simp [invokeCall, LoopState.record]

theorem judge_approves (critic : LoopCritic) (seen : List Signature) (calls : List ToolCall) :
    (∀ call ∈ approvedOf (critic.judge seen calls),
      call ∈ calls ∧ Permitted critic call ∧ signatureOf call ∉ seen) ∧
    ((approvedOf (critic.judge seen calls)).map signatureOf).Nodup := by
  induction calls generalizing seen with
  | nil => simp [LoopCritic.judge]
  | cons call rest ih =>
    unfold LoopCritic.judge
    cases hcheck : critic.checkCall call seen with
    | some refusal =>
      obtain ⟨heach, hnodup⟩ := ih seen
      refine ⟨fun other hother => ?_, by simpa using hnodup⟩
      obtain ⟨hmem, hpermitted, hnew⟩ := heach other (by simpa using hother)
      exact ⟨List.mem_cons_of_mem _ hmem, hpermitted, hnew⟩
    | none =>
      obtain ⟨heach, hnodup⟩ := ih (signatureOf call :: seen)
      obtain ⟨hpermitted, hnew⟩ := checkCall_eq_none_iff.mp hcheck
      rw [approvedOf_cons_none]
      constructor
      · intro other hother
        rcases List.mem_cons.mp hother with rfl | hother
        · exact ⟨List.mem_cons_self, hpermitted, hnew⟩
        · obtain ⟨hmem, hpermitted, hnew⟩ := heach other hother
          exact ⟨List.mem_cons_of_mem _ hmem, hpermitted,
            fun h => hnew (List.mem_cons_of_mem _ h)⟩
      · rw [List.map_cons, List.nodup_cons]
        refine ⟨fun hmem => ?_, hnodup⟩
        obtain ⟨other, hother, hsame⟩ := List.mem_map.mp hmem
        exact (heach other hother).2.2 (hsame ▸ List.mem_cons_self)

/-- **What a round does.**  It ends the run, with no call invoked, or it invokes the first
of the calls that it approves. -/
theorem round_cases (planner : LoopPlanner) (critic : LoopCritic) (state : LoopState) :
    (∃ traces rejections reason, traces.length ≤ 1 ∧
      (traces.flatMap (·.verdicts) = [] ∨ traces.flatMap (·.verdicts) =
        critic.judge state.callSignatures (planner state).nextCalls) ∧
      round planner critic state =
        (false, { state with
          plannerDecisions := state.plannerDecisions ++ traces
          rejections := rejections
          stopReason := some reason })) ∨
    (spent state.budgetRemaining = false ∧
      ∃ trace rejections,
        trace.verdicts = critic.judge state.callSignatures (planner state).nextCalls ∧
        round planner critic state =
          (true,
            let invoked := invokeCalls critic.registry
              { state with
                plannerDecisions := state.plannerDecisions ++ [trace]
                rejections := rejections }
              (approvedOf trace.verdicts)
            { invoked with iteration := invoked.iteration + 1 })) := by
  unfold round
  by_cases hspent : spent state.budgetRemaining = true
  · exact .inl ⟨[], state.rejections, "budget_exhausted", by simp, .inl rfl, by simp [hspent]⟩
  rw [if_neg hspent]
  dsimp only
  split
  · exact .inl ⟨[_], state.rejections, _, le_rfl, .inl rfl, rfl⟩
  · next hproceed =>
    have hverdicts (verdicts : List Verdict) :
        [decisionTrace state.iteration (planner state) verdicts].flatMap (·.verdicts) =
          verdicts := by
      simp [decisionTrace]
    split
    · exact .inl ⟨[_], _, _, le_rfl, .inr (hverdicts _), rfl⟩
    · next hgoes =>
      split
      · exact .inl ⟨[_], _, _, le_rfl, .inr (hverdicts _), rfl⟩
      · refine .inr ⟨Bool.eq_false_iff.mpr hspent,
          decisionTrace state.iteration (planner state) (critic.review state (planner state)).2,
          state.rejections ++ (critic.review state (planner state)).2.filterMap (·.2), rfl, ?_⟩
        have hcalls : (critic.review state (planner state)).1.nextCalls =
            approvedOf (critic.judge state.callSignatures (planner state).nextCalls) := by
          unfold LoopCritic.review LoopCritic.narrowed at hgoes ⊢
          dsimp only at hgoes ⊢
          split
          · next hstop => simp [hstop] at hgoes
          · rfl
        rw [hcalls]
        rfl

/-- An entry of two logs put together stands in the second one or in the first. -/
theorem split_append {α : Type} {first second before after : List α} {x : α}
    (h : first ++ second = before ++ x :: after) :
    (∃ middle, before = first ++ middle ∧ second = middle ++ x :: after) ∨
      ∃ rest, first = before ++ x :: rest := by
  rcases List.append_eq_append_iff.mp h with ⟨middle, hbefore, hsecond⟩ | ⟨rest, hfirst, hafter⟩
  · exact .inl ⟨middle, hbefore, hsecond⟩
  · cases rest with
    | nil => exact .inl ⟨[], by simpa using hfirst.symm, by simpa using hafter.symm⟩
    | cons y rest =>
      obtain ⟨rfl, -⟩ := List.cons.inj hafter
      exact .inr ⟨rest, hfirst⟩

theorem RepeatsOnly.review (h : RepeatsOnly state.log) (hguarded : Guarded critic state)
    (hmeets : Meets planner critic state) :
    RepeatsOnly (state.log ++
      critic.judge state.callSignatures (planner state).nextCalls) := by
  intro before call refusal after hsplit hreason
  rcases split_append hsplit with ⟨judged, hbefore, hjudge⟩ | ⟨rest, hlog⟩
  · obtain ⟨hplanned, hcheck⟩ := judge_at hjudge
    obtain ⟨hoffered, hseen⟩ := checkCall_duplicate hcheck hreason
    have happroved (earlier : ToolCall) (hmem : earlier ∈ approvedOf judged) :
        earlier ∈ approvedOf (critic.judge state.callSignatures (planner state).nextCalls) := by
      rw [hjudge, approvedOf_append]
      exact List.mem_append_left _ hmem
    have hsame (earlier : ToolCall)
        (hmem : earlier ∈ state.toolCalls ++ (planner state).nextCalls)
        (hpermitted : Permitted critic earlier)
        (hsignature : signatureOf earlier = signatureOf call) : SameCall earlier call := by
      simp only [signatureOf, Prod.mk.injEq] at hsignature
      obtain ⟨hdomain, hname, hargs⟩ := hsignature
      exact ⟨hdomain, hname,
        (hmeets.apart call hplanned hoffered earlier hmem hpermitted hdomain hname).mp hargs⟩
    rcases List.mem_append.mp hseen with hhere | hbefore'
    · obtain ⟨earlier, hearlier, hsignature⟩ := List.mem_map.mp hhere
      have hmem := List.mem_reverse.mp hearlier
      obtain ⟨hcalls, hpermitted, -⟩ := (judge_approves ..).1 earlier (happroved earlier hmem)
      refine ⟨earlier, ?_, hsame earlier (List.mem_append_right _ hcalls) hpermitted hsignature⟩
      rw [hbefore]
      exact List.mem_append_right _ (mem_approvedOf.mp hmem)
    · obtain ⟨earlier, hearlier, hsignature⟩ := List.mem_map.mp hbefore'
      refine ⟨earlier, ?_, hsame earlier (List.mem_append_left _ hearlier)
        (hguarded.permitted earlier hearlier) hsignature⟩
      rw [hbefore]
      exact List.mem_append_left _ (hguarded.approved earlier hearlier)
  · exact h before call refusal rest hlog hreason

def NoRepeat : Prop := calls.Pairwise fun a b => ¬ SameCall a b

theorem NoRepeat.review {invoked : List ToolCall} (h : NoRepeat state.toolCalls)
    (hguarded : Guarded critic state) (hmeets : Meets planner critic state)
    (hinvoked : invoked <+: approvedOf
      (critic.judge state.callSignatures (planner state).nextCalls)) :
    NoRepeat (state.toolCalls ++ invoked) := by
  obtain ⟨heach, hnodup⟩ := judge_approves critic state.callSignatures
    (planner state).nextCalls
  have hnew (earlier call : ToolCall)
      (hmem : earlier ∈ state.toolCalls ++ (planner state).nextCalls)
      (hpermitted : Permitted critic earlier) (hcall : call ∈ invoked)
      (hdiffers : signatureOf earlier ≠ signatureOf call) : ¬ SameCall earlier call := by
    rintro ⟨hdomain, hname, hargs⟩
    obtain ⟨hplanned, hoffered, -⟩ := heach call (hinvoked.subset hcall)
    have hapart := hmeets.apart call hplanned hoffered.offered earlier hmem hpermitted hdomain hname
    exact hdiffers (by simp [signatureOf, hdomain, hname, hapart.mpr hargs])
  refine List.pairwise_append.mpr ⟨h, ?_, ?_⟩
  · have hdistinct : invoked.Pairwise fun a b => signatureOf a ≠ signatureOf b :=
      List.pairwise_map.mp ((hnodup.sublist (hinvoked.sublist.map signatureOf)))
    refine hdistinct.imp_of_mem fun {a b} ha hb hdiffers => ?_
    obtain ⟨hplanned, hpermitted, -⟩ := heach a (hinvoked.subset ha)
    exact hnew a b (List.mem_append_right _ hplanned) hpermitted hb hdiffers
  · intro earlier hearlier call hcall
    refine hnew earlier call (List.mem_append_left _ hearlier)
      (hguarded.permitted earlier hearlier) hcall fun hsame => ?_
    exact (heach call (hinvoked.subset hcall)).2.2
      (List.mem_map.mpr ⟨earlier, hearlier, hsame⟩)

/-- Everything that is kept from round to round where the planner meets the condition. -/
structure Kept (critic : LoopCritic) (budget : ℚ) (state : LoopState) : Prop where
  guarded : Guarded critic state
  once : NoRepeat state.toolCalls
  repeats : RepeatsOnly state.log
  affordable : Affordable critic.registry budget state

/-- **The round that ends a run** invokes nothing. -/
theorem Kept.ends (h : Kept critic budget state) (hmeets : Meets planner critic state)
    {traces : List DecisionTrace} {reason : String}
    (hverdicts : traces.flatMap (·.verdicts) = [] ∨ traces.flatMap (·.verdicts) =
      critic.judge state.callSignatures (planner state).nextCalls) :
    Kept critic budget { state with
      plannerDecisions := state.plannerDecisions ++ traces
      rejections := rejections
      stopReason := some reason } := by
  have hlog : (state.plannerDecisions ++ traces).flatMap (·.verdicts) =
      state.log ++ traces.flatMap (·.verdicts) := by
    simp [LoopState.log]
  refine { guarded := { h.guarded with approved := ?_ }, once := h.once, repeats := ?_,
           affordable := { left := h.affordable.left, last := h.affordable.last } }
  · intro call hcall
    unfold LoopState.log
    rw [hlog]
    exact List.mem_append_left _ (h.guarded.approved call hcall)
  · unfold LoopState.log
    rw [hlog]
    rcases hverdicts with hnone | hjudged
    · rw [hnone, List.append_nil]
      exact h.repeats
    · rw [hjudged]
      exact h.repeats.review h.guarded hmeets

/-- **A round that goes on.** -/
theorem Kept.goesOn (h : Kept critic budget state) (hmeets : Meets planner critic state)
    (hleft : spent state.budgetRemaining = false) {trace : DecisionTrace} {iteration : Int}
    (hverdicts : trace.verdicts = critic.judge state.callSignatures (planner state).nextCalls) :
    Kept critic budget { invokeCalls critic.registry
      { state with
        plannerDecisions := state.plannerDecisions ++ [trace]
        rejections := rejections }
      (approvedOf trace.verdicts) with iteration := iteration } := by
  obtain ⟨invoked, hfront, hcalls, hresults, hdecisions, -, -⟩ := invokeCalls_eq critic.registry
    { state with plannerDecisions := state.plannerDecisions ++ [trace], rejections := rejections }
    (approvedOf trace.verdicts)
  have hlog : (state.plannerDecisions ++ [trace]).flatMap (·.verdicts) =
      state.log ++ trace.verdicts := by
    simp [LoopState.log]
  refine { guarded := { permitted := ?_, approved := ?_, aligned := ?_ }, once := ?_,
           repeats := ?_, affordable := ?_ }
  · intro call hcall
    rw [hcalls] at hcall
    rcases List.mem_append.mp hcall with hbefore | hnow
    · exact h.guarded.permitted call hbefore
    · have hmem := hfront.subset hnow
      rw [hverdicts] at hmem
      exact ((judge_approves ..).1 call hmem).2.1
  · intro call hcall
    unfold LoopState.log
    rw [hdecisions, hlog]
    rw [hcalls] at hcall
    rcases List.mem_append.mp hcall with hbefore | hnow
    · exact List.mem_append_left _ (h.guarded.approved call hbefore)
    · exact List.mem_append_right _ (mem_approvedOf.mp (hfront.subset hnow))
  · rw [hcalls, hresults, List.map_append, h.guarded.aligned]
  · rw [hcalls]
    rw [hverdicts] at hfront
    exact h.once.review h.guarded hmeets hfront
  · unfold LoopState.log
    rw [hdecisions, hlog, hverdicts]
    exact h.repeats.review h.guarded hmeets
  · have hpaid := hmeets.exact
    rw [← hverdicts] at hpaid
    have hnoted : Affordable critic.registry budget
        { state with
          plannerDecisions := state.plannerDecisions ++ [trace]
          rejections := rejections } :=
      { left := h.affordable.left, last := h.affordable.last }
    have hround := hnoted.invokeCalls hleft hpaid
    exact { left := hround.left, last := hround.last }

def LoopState.fresh (triggerId : String) (budget : ℚ) : LoopState :=
  { triggerId := triggerId, budgetRemaining := .finite budget }

theorem Kept.fresh (critic : LoopCritic) (triggerId : String) (budget : ℚ) :
    Kept critic budget (.fresh triggerId budget) where
  guarded := { permitted := by simp [LoopState.fresh], approved := by simp [LoopState.fresh],
               aligned := rfl }
  once := .nil
  repeats := by
    intro before call refusal after hsplit
    simp [LoopState.fresh, LoopState.log] at hsplit
  affordable := { left := ⟨budget, rfl, by simp [LoopState.fresh, totalCost]⟩, last := .inl rfl }

/-- What the caller gets: the run is bounded, stops for a reason, invokes permitted calls only and
none twice, and refuses as a repeat nothing but repeats. -/
structure Investigated (critic : LoopCritic) (budget : ℚ) (maxIterations : Int)
    (final : LoopState) : Prop where
  bounded : final.plannerDecisions.length ≤ maxIterations.toNat
  stopped : final.stopReason.isSome = true
  permitted : ∀ call ∈ final.toolCalls, Permitted critic call
  once : NoRepeat final.toolCalls
  affordable : final.toolCalls = [] ∨ ∃ call ∈ final.toolCalls,
    totalCost critic.registry final.toolCalls < budget + critic.registry.costOf call
  aligned : final.toolResults = final.toolCalls.map critic.registry.invoke
  repeats : RepeatsOnly final.log

variable {start : LoopState}

/-- **The loop.**  From a state that a run has reached, with the condition met in every
state that it reaches within its bound. -/
theorem loop_kept {done : Nat}
    (hmeets : ∀ k state, k < done + rounds → Reached planner critic start k state →
      Meets planner critic state) (hreached : Reached planner critic start done state)
    (h : Kept critic budget state) (hdecisions : state.plannerDecisions.length = done)
    (hreason : state.stopReason = none) :
    Kept critic budget (loop planner critic rounds state) ∧
      (loop planner critic rounds state).plannerDecisions.length ≤ done + rounds := by
  induction rounds generalizing done state with
  | zero => exact ⟨h, by simp [loop, hdecisions]⟩
  | succ rounds ih =>
    have hhere := hmeets done state (by omega) hreached
    rcases round_cases planner critic state with
      ⟨traces, rejections, reason, hlength, hverdicts, hround⟩ |
      ⟨hleft, trace, rejections, hverdicts, hround⟩
    · simp only [loop, hround]
      refine ⟨h.ends hhere hverdicts, ?_⟩
      simp only [List.length_append, hdecisions]
      omega
    · have hnext := Reached.next hreached hround
      simp only [loop, hround]
      obtain ⟨-, -, -, -, hsame, -, hnone⟩ := invokeCalls_eq critic.registry
        { state with
          plannerDecisions := state.plannerDecisions ++ [trace], rejections := rejections }
        (approvedOf trace.verdicts)
      obtain ⟨hkept, hbound⟩ := @ih _ (done + 1)
        (fun k state hk => hmeets k state (by omega)) hnext (h.goesOn hhere hleft hverdicts)
        (by simp [hsame, hdecisions]) (hnone.trans hreason)
      exact ⟨hkept, hbound.trans (by omega)⟩

/-- **A run of the investigation loop** is what it is meant to be where no state that it reaches
makes the critic take two calls for one another. -/
theorem investigation_kept {planner : LoopPlanner} {critic : LoopCritic} {triggerId : String}
    {budget : ℚ} {maxIterations : Int}
    (hmeets : ∀ (k : Nat) state, k < maxIterations →
      Reached planner critic (.fresh triggerId budget) k state → Meets planner critic state) :
    Investigated critic budget maxIterations
      (runInvestigationLoop planner critic maxIterations (.fresh triggerId budget)) := by
  have hmeets' (k : Nat) (state : LoopState) (hk : k < 0 + maxIterations.toNat) :=
    hmeets k state (by omega)
  obtain ⟨hkept, hbound⟩ :=
    loop_kept hmeets' .start (Kept.fresh critic triggerId budget) rfl rfl
  have hrounds : (maxIterations - (LoopState.fresh triggerId budget).iteration).toNat =
      maxIterations.toNat := by
    simp [LoopState.fresh]
  unfold runInvestigationLoop
  rw [hrounds]
  dsimp only
  split
  · exact { bounded := by simpa using hbound, stopped := rfl,
            permitted := hkept.guarded.permitted, once := hkept.once,
            affordable := hkept.affordable.last, aligned := hkept.guarded.aligned,
            repeats := hkept.repeats }
  · next hsome =>
    exact { bounded := by simpa using hbound
            stopped := by simpa [Option.isSome_iff_ne_none] using hsome
            permitted := hkept.guarded.permitted, once := hkept.once
            affordable := hkept.affordable.last, aligned := hkept.guarded.aligned
            repeats := hkept.repeats }

def podTool : ToolDefinition where
  name := "get_pods"
  domain := "kubectl"
  argsSchema := [("namespace", .obj [("type", .str "str"), ("required", .bool true)]),
    ("pod", .obj [("type", .str "str")])]

def podRegistry : ToolRegistry where
  tools := [(podTool, fun _ => .ok { outputSummary := "1 pod" })]

def podCritic : LoopCritic where
  registry := podRegistry

def podCall (callId : String) (args : Dict) : ToolCall where
  callId := callId
  toolName := "get_pods"
  domain := "kubectl"
  args := args

def askOnce : LoopPlanner := fun state =>
  if state.iteration = 0 then { action := .proceed, nextCalls := calls } else { action := .stop }

def oddCall : ToolCall := podCall "call_1" [("namespace", .str "default,pod=web")]

def webCall : ToolCall := podCall "call_2" [("namespace", .str "default"), ("pod", .str "web")]

def stagingCall : ToolCall := podCall "call_3" [("namespace", .str "staging"), ("pod", .str "web")]

/-- **A new call refused.**  The two calls differ, but their arguments are the same once
they are flattened. -/
theorem new_call_refused :
    let final := runInvestigationLoop (askOnce [oddCall, webCall]) podCritic 8
      (.fresh "trigger" 6)
    final.log = [(oddCall, none), (webCall, some (rejection webCall "duplicate_call" []))] ∧
      ¬ SameCall oddCall webCall ∧ ¬ Investigated podCritic 6 8 final := by
  have hlog : (runInvestigationLoop (askOnce [oddCall, webCall]) podCritic 8
      (.fresh "trigger" 6)).log =
        [(oddCall, none), (webCall, some (rejection webCall "duplicate_call" []))] := by
    decide +kernel
  have hdiffer : ¬ SameCall oddCall webCall := by
    unfold SameCall
    decide +kernel
  refine ⟨hlog, hdiffer, fun hinvestigated => ?_⟩
  obtain ⟨earlier, hmem, hsame⟩ :=
    hinvestigated.repeats [(oddCall, none)] webCall _ [] hlog rfl
  obtain rfl : earlier = oddCall := by simpa using hmem
  exact hdiffer hsame

theorem Reached.iteration_eq (h : Reached planner critic start rounds state) :
    state.iteration = start.iteration + rounds := by
  induction h with
  | start => simp
  | @next rounds before after _ hround ih =>
    rcases round_cases planner critic before with
      ⟨_, _, _, -, -, hends⟩ | ⟨-, trace, rejections, -, hgoes⟩
    · simp [hends] at hround
    · obtain rfl := (Prod.mk.inj (hround.symm.trans hgoes)).2
      obtain ⟨_, -, -, -, -, hiteration, -⟩ := invokeCalls_eq critic.registry
        { before with
          plannerDecisions := before.plannerDecisions ++ [trace], rejections := rejections }
        (approvedOf trace.verdicts)
      dsimp only at hiteration ⊢
      rw [hiteration, ih]
      push_cast
      ring

theorem investigation_sample :
    Investigated podCritic 6 8 (runInvestigationLoop (askOnce [webCall, stagingCall]) podCritic 8
      (.fresh "trigger" 6)) ∧
    (runInvestigationLoop (askOnce [webCall, stagingCall]) podCritic 8
      (.fresh "trigger" 6)).toolCalls = [webCall, stagingCall] := by
  refine ⟨investigation_kept ?_, by decide +kernel⟩
  intro k state _ hreached
  cases hreached with
  | start =>
    have hcalls : (askOnce [webCall, stagingCall] (.fresh "trigger" 6)).nextCalls =
        [webCall, stagingCall] := rfl
    have happroved : approvedOf (podCritic.judge [] [webCall, stagingCall]) =
        [webCall, stagingCall] := by
      decide +kernel
    constructor
    · rw [hcalls]
      intro call hcall _ earlier hearlier _ _ _
      have htold : ∀ a ∈ [webCall, stagingCall], ∀ b ∈ [webCall, stagingCall],
          (stableArgsSignature a.args = stableArgsSignature b.args ↔
            Json.pyEq (.obj a.args) (.obj b.args) = true) := by
        decide +kernel
      exact htold earlier hearlier call hcall
    · rw [hcalls, show (LoopState.fresh "trigger" 6).callSignatures = [] from rfl, happroved]
      have hpaid : pay (.finite 6) (podRegistry.costOf webCall) = .finite 5 := by
        decide +kernel
      have hexact : RoundsDown (.finite 6) (podRegistry.costOf webCall) ∧
          RoundsDown (.finite 5) (podRegistry.costOf stagingCall) := by
        constructor <;> rintro x ⟨⟩ <;> decide +kernel
      exact ⟨hexact.1, fun _ => ⟨by rw [← hpaid] at hexact; exact hexact.2, fun _ => trivial⟩⟩
  | @next rounds before after hbefore hround =>
    have hiteration := (Reached.next hbefore hround).iteration_eq
    have hstopped : askOnce [webCall, stagingCall] state = { action := .stop } := by
      unfold askOnce
      rw [if_neg (by rw [hiteration]; simp [LoopState.fresh]; omega)]
    constructor
    · rw [hstopped]
      intro call hcall
      cases hcall
    · rw [hstopped]
      trivial

end OrbitalMesh.Investigation
