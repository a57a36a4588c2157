import Mathlib.Algebra.Order.Field.Rat
import Mathlib.Data.Rat.Floor
import OrbitalMesh.Base.Text

/-!
# The trust ladder

`TrustLadder` keeps a level of autonomy for each pair of an action class and a
service (`shared/mesh_runtime/trust_ladder.py`).  After two failures in a row the
level goes down by one.  Otherwise it is computed anew from the totals, whatever it
was before, and from a success rate that is rounded to three places.

So it moves rung by rung only for the calls on which the rounding does not matter and
the totals stand at most one rung away (`trust_moves_rung_by_rung`), and a level set by
hand stays only as long as the totals have earned it (`manual_level_persists`).
-/

namespace OrbitalMesh

/-- `2 ^ e`. -/
def powerOfTwo : Int → Rat
  | .ofNat n => (2 ^ n : Nat)
  | .negSucc n => mkRat 1 (2 ^ (n + 1))

/-- The integer nearest to a number, the even one of two. -/
def roundHalfEven (q : Rat) : Int :=
  let low := q.floor
  let rest := q - low
  if rest < 1 / 2 then low
  else if 1 / 2 < rest then low + 1
  else if low % 2 = 0 then low
  else low + 1

/-- `⌊log₂ q⌋` for a positive number. -/
def binaryExponent (q : Rat) : Int :=
  let guess : Int := (q.num.natAbs.log2 : Int) - (q.den.log2 : Int)
  if q < powerOfTwo guess then guess - 1 else guess

def nearestDouble (q : Rat) : Rat :=
  if q = 0 then 0
  else
    let unit := powerOfTwo (binaryExponent q - 52)
    roundHalfEven (q / unit) * unit

/-- `round(value, 3)` of a double. -/
def roundThree (value : Rat) : Rat := nearestDouble (roundHalfEven (value * 1000) / 1000)

/-- `TRUST_LEVELS`. -/
inductive TrustLevel where
  | suggest
  | draft
  | approve
  | auto
deriving DecidableEq

namespace TrustLevel

/-- `_LEVEL_ORDER`. -/
def order : TrustLevel → Nat
  | .suggest => 0
  | .draft => 1
  | .approve => 2
  | .auto => 3

/-- `TRUST_LEVELS[max(0, idx - 1)]`. -/
def below : TrustLevel → TrustLevel
  | .suggest => .suggest
  | .draft => .suggest
  | .approve => .draft
  | .auto => .approve

/-- `_next_level`. -/
def next : TrustLevel → Option TrustLevel
  | .suggest => some .draft
  | .draft => some .approve
  | .approve => some .auto
  | .auto => none

theorem order_injective : Function.Injective order := by
  intro a b h
  cases a <;> cases b <;> first | rfl | cases h

theorem order_below (level : TrustLevel) : level.below.order = level.order - 1 := by
  cases level <;> rfl

end TrustLevel

structure TrustEntry where
  actionClass : String
  service : String
  level : TrustLevel
  previousLevel : TrustLevel
  totalRuns : Nat
  successfulRuns : Nat
  successRate : Rat
  consecutiveFailures : Nat
  promotionCount : Nat
  demotionCount : Nat
  overrideCount : Nat
  lastOutcome : Option String
  lastOutcomeAt : Option String
  lastLevelChangeAt : Option String
  lastOverrideAt : Option String

def defaultEntry (actionClass service : String) : TrustEntry where
  actionClass := actionClass
  service := service
  level := .suggest
  previousLevel := .suggest
  totalRuns := 0
  successfulRuns := 0
  successRate := 0
  consecutiveFailures := 0
  promotionCount := 0
  demotionCount := 0
  overrideCount := 0
  lastOutcome := none
  lastOutcomeAt := none
  lastLevelChangeAt := none
  lastOverrideAt := none

/-- `TrustLadder`, as far as `record_outcome` reads it: the thresholds in
ascending order. -/
structure TrustLadder where
  minDraftRuns : Int
  minApproveRuns : Int
  minAutoRuns : Int
  draftSuccessRate : Rat
  approveSuccessRate : Rat
  autoSuccessRate : Rat
  draft_runs_le : minDraftRuns ≤ minApproveRuns
  approve_runs_le : minApproveRuns ≤ minAutoRuns
  draft_rate_le : draftSuccessRate ≤ approveSuccessRate
  approve_rate_le : approveSuccessRate ≤ autoSuccessRate

/-- A call of `record_outcome` on one entry. -/
structure OutcomeCall where
  outcome : String
  override : Bool
  now : String

namespace TrustLadder

variable (ladder : TrustLadder)

/-- The graduation rules of `_compute_level`. -/
def graduated (total : Nat) (rate : Rat) : TrustLevel :=
  if ladder.minAutoRuns ≤ total ∧ ladder.autoSuccessRate ≤ rate then .auto
  else if ladder.minApproveRuns ≤ total ∧ ladder.approveSuccessRate ≤ rate then .approve
  else if ladder.minDraftRuns ≤ total ∧ ladder.draftSuccessRate ≤ rate then .draft
  else .suggest

variable (entry : TrustEntry)

def computeLevel : TrustLevel :=
  if 2 ≤ entry.consecutiveFailures then entry.level.below
  else ladder.graduated entry.totalRuns entry.successRate

def counted (outcome now : String) : TrustEntry :=
  let totalRuns := entry.totalRuns + 1
  let successful := outcome == "successful"
  let successfulRuns := if successful then entry.successfulRuns + 1 else entry.successfulRuns
  { entry with
    totalRuns
    successfulRuns
    consecutiveFailures := if successful then 0 else entry.consecutiveFailures + 1
    lastOutcome := some outcome
    lastOutcomeAt := some now
    successRate := roundThree (nearestDouble ((successfulRuns : Rat) / (totalRuns : Rat))) }

def moved (level : TrustLevel) (now : String) : TrustEntry :=
  let entry := { entry with level, lastLevelChangeAt := some now }
  let entry :=
    if entry.previousLevel.order < level.order then
      { entry with promotionCount := entry.promotionCount + 1 }
    else { entry with demotionCount := entry.demotionCount + 1 }
  { entry with previousLevel := level }

def recordOutcome (call : OutcomeCall) :
    TrustEntry :=
  if call.override then
    { entry with
      lastOverrideAt := some call.now
      overrideCount := entry.overrideCount + 1 }
  else
    let entry := counted entry call.outcome call.now
    let level := ladder.computeLevel entry
    if level ≠ entry.level then moved entry level call.now else entry

def entryAfter (actionClass service : String) (calls : List OutcomeCall) :
    TrustEntry :=
  calls.foldl ladder.recordOutcome (defaultEntry actionClass service)

def Meets (successful total : Nat) : TrustLevel → Prop
  | .suggest => True
  | .draft => ladder.minDraftRuns ≤ total ∧ ladder.draftSuccessRate ≤ (successful : Rat) / total
  | .approve =>
    ladder.minApproveRuns ≤ total ∧ ladder.approveSuccessRate ≤ (successful : Rat) / total
  | .auto => ladder.minAutoRuns ≤ total ∧ ladder.autoSuccessRate ≤ (successful : Rat) / total

theorem meets_graduated (successful total : Nat) :
    ladder.Meets successful total
      (ladder.graduated total ((successful : Rat) / (total : Rat))) := by
  unfold graduated
  split
  · assumption
  split
  · assumption
  split
  · assumption
  · trivial

/-- What one call does to the level: it moves by one rung at most; up only where
the totals meet the thresholds; and down by one after two failures in a row. -/
structure RungByRung (before : TrustEntry) (call : OutcomeCall)
    (after : TrustEntry) : Prop where
  upwards : after.level.order ≤ before.level.order + 1
  downwards : before.level.order ≤ after.level.order + 1
  earned : before.level.order < after.level.order →
    ladder.Meets after.successfulRuns after.totalRuns after.level
  lowered : call.override = false → call.outcome ≠ "successful" →
    1 ≤ before.consecutiveFailures → after.level = before.level.below

/-- The call is an override or the second failure in a row; or the level that the thresholds
give is at most one rung away, and rounding the quotient does not change it. -/
def Gradual (call : OutcomeCall) : Prop :=
  let next := counted entry call.outcome call.now
  let standing := ladder.graduated next.totalRuns ((next.successfulRuns : Rat) / next.totalRuns)
  call.override = true ∨ 2 ≤ next.consecutiveFailures ∨
    (ladder.graduated next.totalRuns (roundThree (nearestDouble
        ((next.successfulRuns : Rat) / next.totalRuns))) = standing ∧
      standing.order ≤ entry.level.order + 1 ∧ entry.level.order ≤ standing.order + 1)

instance (ladder : TrustLadder) (entry : TrustEntry) (call : OutcomeCall) :
    Decidable (ladder.Gradual entry call) :=
  inferInstanceAs (Decidable (_ ∨ _ ∨ _))

section

variable (ladder : TrustLadder) (entry : TrustEntry) (call : OutcomeCall)

@[simp] theorem counted_level (outcome now : String) :
    (counted entry outcome now).level = entry.level := rfl

theorem recordOutcome_level (h : call.override = false) :
    (ladder.recordOutcome entry call).level =
      ladder.computeLevel (counted entry call.outcome call.now) := by
  unfold recordOutcome
  rw [if_neg (by simp [h])]
  dsimp only
  split
  · unfold moved
    dsimp only
    split <;> rfl
  · next hsame => exact (not_not.mp hsame).symm

theorem recordOutcome_override (h : call.override = true) :
    (ladder.recordOutcome entry call).level = entry.level := by
  unfold recordOutcome
  rw [if_pos h]

theorem recordOutcome_totals (h : call.override = false) :
    (ladder.recordOutcome entry call).totalRuns =
        (counted entry call.outcome call.now).totalRuns ∧
      (ladder.recordOutcome entry call).successfulRuns =
        (counted entry call.outcome call.now).successfulRuns := by
  unfold recordOutcome
  rw [if_neg (by simp [h])]
  dsimp only
  split
  · unfold moved
    dsimp only
    split <;> exact ⟨rfl, rfl⟩
  · exact ⟨rfl, rfl⟩

theorem rungByRung_of_gradual (h : ladder.Gradual entry call) :
    RungByRung ladder entry call (ladder.recordOutcome entry call) := by
  by_cases hoverride : call.override = true
  · have hlevel := recordOutcome_override ladder entry call hoverride
    exact
      { upwards := by rw [hlevel]; omega
        downwards := by rw [hlevel]; omega
        earned := fun hup => by rw [hlevel] at hup; omega
        lowered := fun hnot => by rw [hoverride] at hnot; cases hnot }
  rw [Bool.not_eq_true] at hoverride
  have hlevel := recordOutcome_level ladder entry call hoverride
  obtain ⟨htotal, hsuccessful⟩ := recordOutcome_totals ladder entry call hoverride
  by_cases hfailures : 2 ≤ (counted entry call.outcome call.now).consecutiveFailures
  · -- the second failure in a row
    have hbelow : (ladder.recordOutcome entry call).level = entry.level.below := by
      rw [hlevel, computeLevel, if_pos hfailures, counted_level]
    have horder := entry.level.order_below
    exact
      { upwards := by rw [hbelow]; omega
        downwards := by rw [hbelow]; omega
        earned := fun hup => by rw [hbelow] at hup; omega
        lowered := fun _ _ _ => hbelow }
  · rw [computeLevel, if_neg hfailures] at hlevel
    obtain ⟨hround, hup, hdown⟩ : _ ∧ _ ∧ _ := by
      rcases h with h | h | h
      · exact absurd h (by simp [hoverride])
      · exact absurd h hfailures
      · exact h
    have hstanding : (ladder.recordOutcome entry call).level =
        ladder.graduated (counted entry call.outcome call.now).totalRuns
          ((counted entry call.outcome call.now).successfulRuns /
            (counted entry call.outcome call.now).totalRuns) := hlevel.trans hround
    exact
      { upwards := by rw [hstanding]; exact hup
        downwards := by rw [hstanding]; exact hdown
        earned := fun _ => by
          rw [hstanding, htotal, hsuccessful]
          exact ladder.meets_graduated _ _
        lowered := fun _ houtcome hprevious => by
          refine absurd ?_ hfailures
          simp [counted, houtcome]
          omega }

end

theorem moved_counts {entry : TrustEntry} {level : TrustLevel} (now : String)
    (hside : entry.previousLevel.order < level.order ↔ entry.level.order < level.order)
    (hne : level ≠ entry.level) :
    (moved entry level now).level = level ∧ (moved entry level now).previousLevel = level ∧
      (moved entry level now).promotionCount = entry.promotionCount +
        (if entry.level.order < level.order then 1 else 0) ∧
      (moved entry level now).demotionCount = entry.demotionCount +
        (if level.order < entry.level.order then 1 else 0) := by
  have horder : entry.level.order ≠ level.order :=
    fun heq => hne (TrustLevel.order_injective heq.symm)
  unfold moved
  dsimp only
  rw [if_congr hside rfl rfl]
  split
  · next hup => exact ⟨rfl, rfl, by simp, by simp [Nat.not_lt_of_lt hup]⟩
  · next hdown =>
    have hlt : level.order < entry.level.order := by omega
    exact ⟨rfl, rfl, by simp, by simp [hlt]⟩

/-- A call whose new level stands on the same side of `previous_level` as of the level
is counted as what it does. -/
theorem recordOutcome_counts {entry : TrustEntry} (call : OutcomeCall)
    (hside : ∀ level, level = ladder.computeLevel (counted entry call.outcome call.now) →
      call.override = false → level ≠ entry.level →
      (entry.previousLevel.order < level.order ↔ entry.level.order < level.order)) :
    (entry.previousLevel = entry.level →
        (ladder.recordOutcome entry call).previousLevel =
          (ladder.recordOutcome entry call).level) ∧
      (ladder.recordOutcome entry call).promotionCount = entry.promotionCount +
        (if entry.level.order < (ladder.recordOutcome entry call).level.order then 1 else 0) ∧
      (ladder.recordOutcome entry call).demotionCount = entry.demotionCount +
        (if (ladder.recordOutcome entry call).level.order < entry.level.order then 1 else 0) := by
  unfold recordOutcome
  split
  · simp
  · next hcall =>
    dsimp only
    split
    · next hmoved =>
      obtain ⟨hlevel, hprevious, hup, hdown⟩ := @moved_counts
        (counted entry call.outcome call.now) _ call.now
        (hside _ rfl (Bool.not_eq_true _ ▸ hcall) hmoved) hmoved
      rw [hlevel]
      exact ⟨fun _ => hprevious, hup, hdown⟩
    · exact ⟨id, by simp [counted], by simp [counted]⟩

variable (level : Nat → TrustLevel)

/-- How often a sequence of levels goes up. -/
def rises (n : Nat) : Nat :=
  (List.range n).countP fun i => (level i).order < (level (i + 1)).order

/-- How often a sequence of levels goes down. -/
def falls (n : Nat) : Nat :=
  (List.range n).countP fun i => (level (i + 1)).order < (level i).order

theorem rises_succ (n : Nat) : rises level (n + 1) =
    rises level n + if (level n).order < (level (n + 1)).order then 1 else 0 := by
  simp [rises, List.range_succ, List.countP_cons]

theorem falls_succ (n : Nat) : falls level (n + 1) =
    falls level n + if (level (n + 1)).order < (level n).order then 1 else 0 := by
  simp [falls, List.range_succ, List.countP_cons]

section

variable (ladder : TrustLadder) (actionClass service : String) (calls : List OutcomeCall)

/-- The entry after the first `n` calls. -/
def entryAt (n : Nat) : TrustEntry := ladder.entryAfter actionClass service (calls.take n)

/-- The level after the first `n` calls. -/
def levelAt (n : Nat) : TrustLevel := (entryAt ladder actionClass service calls n).level

variable {calls}

theorem entryAt_succ {n : Nat} (hn : n < calls.length) :
    entryAt ladder actionClass service calls (n + 1) =
      ladder.recordOutcome (entryAt ladder actionClass service calls n) calls[n] := by
  rw [entryAt, entryAt, List.take_succ_eq_append_getElem hn, entryAfter, entryAfter,
    List.foldl_concat]

theorem entryAt_counts {n : Nat} (hn : n ≤ calls.length) :
    (entryAt ladder actionClass service calls n).previousLevel =
        levelAt ladder actionClass service calls n ∧
      (entryAt ladder actionClass service calls n).promotionCount =
        rises (levelAt ladder actionClass service calls) n ∧
      (entryAt ladder actionClass service calls n).demotionCount =
        falls (levelAt ladder actionClass service calls) n := by
  induction n with
  | zero => exact ⟨rfl, rfl, rfl⟩
  | succ n ih =>
    obtain ⟨hshadow, hrises, hfalls⟩ := ih (by omega)
    obtain ⟨hshadow', hup, hdown⟩ := @recordOutcome_counts ladder
      (entryAt ladder actionClass service calls n) calls[n]
      fun _ _ _ _ => by rw [hshadow, levelAt]
    rw [← entryAt_succ ladder actionClass service hn] at hshadow' hup hdown
    refine ⟨hshadow' hshadow, ?_, ?_⟩
    · rw [hup, hrises, rises_succ]
      rfl
    · rw [hdown, hfalls, falls_succ]
      rfl

theorem levels_between {level : Nat → TrustLevel} {i j : Nat} (hij : i ≤ j)
    (hstep : ∀ n, i ≤ n → n < j → (level (n + 1)).order ≤ (level n).order + 1)
    {target : TrustLevel} (hlow : (level i).order ≤ target.order)
    (hhigh : target.order ≤ (level j).order) : ∃ n, i ≤ n ∧ n ≤ j ∧ level n = target := by
  induction j, hij using Nat.le_induction with
  | base =>
    exact ⟨i, Nat.le_refl _, Nat.le_refl _, TrustLevel.order_injective (by omega)⟩
  | succ j hij ih =>
    by_cases hbefore : target.order ≤ (level j).order
    · obtain ⟨n, hin, hnj, hn⟩ := ih (fun n h₁ h₂ => hstep n h₁ (by omega)) hbefore
      exact ⟨n, hin, by omega, hn⟩
    · have hlast := hstep j hij (by omega)
      exact ⟨j + 1, by omega, Nat.le_refl _, TrustLevel.order_injective (by omega)⟩

end

def standard : TrustLadder where
  minDraftRuns := 3
  minApproveRuns := 10
  minAutoRuns := 30
  draftSuccessRate := nearestDouble (1 / 2)
  approveSuccessRate := nearestDouble (7 / 10)
  autoSuccessRate := nearestDouble (85 / 100)
  draft_runs_le := by decide
  approve_runs_le := by decide
  draft_rate_le := by decide +kernel
  approve_rate_le := by decide +kernel

def ran (outcome : String) : OutcomeCall := ⟨outcome, false, "now"⟩

section

/-- `override_level`, for a level of the ladder; its reason is left out. -/
def overrideLevel (entry : TrustEntry) (level : TrustLevel) (now : String) : TrustEntry :=
  { entry with level, lastLevelChangeAt := some now }

inductive LadderCall where
  | record (call : OutcomeCall)
  | manual (level : TrustLevel) (now : String)

variable (ladder : TrustLadder) (total : Nat) (rate : Rat) (level : TrustLevel)

def perform (entry : TrustEntry) : LadderCall → TrustEntry
  | .record call => ladder.recordOutcome entry call
  | .manual level now => overrideLevel entry level now

def requirementsFor : TrustLevel → Int × Rat
  | .suggest => (0, 0)
  | .draft => (ladder.minDraftRuns, ladder.draftSuccessRate)
  | .approve => (ladder.minApproveRuns, ladder.approveSuccessRate)
  | .auto => (ladder.minAutoRuns, ladder.autoSuccessRate)

def Reaches : Prop :=
  level = .suggest ∨
    (ladder.requirementsFor level).1 ≤ total ∧ (ladder.requirementsFor level).2 ≤ rate

instance : Decidable (ladder.Reaches total rate level) :=
  inferInstanceAs (Decidable (_ ∨ _))

def ReachesNext : Prop := (level.next.any fun next => ladder.Reaches total rate next) = true

instance : Decidable (ladder.ReachesNext total rate level) :=
  inferInstanceAs (Decidable (_ = _))

theorem order_le_graduated :
    level.order ≤ (ladder.graduated total rate).order ↔ ladder.Reaches total rate level := by
  have hdraft := ladder.draft_runs_le
  have happrove := ladder.approve_runs_le
  have hdraft' := ladder.draft_rate_le
  have happrove' := ladder.approve_rate_le
  unfold graduated Reaches requirementsFor
  cases level <;> grind [TrustLevel.order]

theorem order_lt_graduated :
    level.order < (ladder.graduated total rate).order ↔ ladder.ReachesNext total rate level := by
  unfold ReachesNext
  cases level <;>
    simp only [TrustLevel.next, Option.any_some, Option.any_none, decide_eq_true_eq,
      ← order_le_graduated, TrustLevel.order]
  all_goals cases ladder.graduated total rate <;> simp

variable (entry : TrustEntry) (call : OutcomeCall)

/-- The documented rules: the second failure in a row, or totals that meet the
thresholds of the next level. -/
def MeetsRule : Prop :=
  let counts := counted entry call.outcome call.now
  call.override = false ∧ (2 ≤ counts.consecutiveFailures ∨
    ∃ next ∈ entry.level.next, ladder.Meets counts.successfulRuns counts.totalRuns next)

/-- The totals with the outcome, and the rounded rate, reach the level and not the next. -/
def Earned : Prop :=
  let counts := counted entry call.outcome call.now
  ladder.Reaches counts.totalRuns counts.successRate entry.level ∧
    ¬ ladder.ReachesNext counts.totalRuns counts.successRate entry.level

/-- `previous_level` is no more than one rung below a level that is lowered, and the totals that
move a level reach the same rungs above both. -/
def Alongside : Prop :=
  let counts := counted entry call.outcome call.now
  call.override = true ∨
    if 2 ≤ counts.consecutiveFailures then entry.level.below.order ≤ entry.previousLevel.order
    else ladder.Earned entry call ∨
      (ladder.ReachesNext counts.totalRuns counts.successRate entry.previousLevel ↔
        ladder.ReachesNext counts.totalRuns counts.successRate entry.level)

instance : Decidable (ladder.Earned entry call) :=
  inferInstanceAs (Decidable (_ ∧ _))

instance : Decidable (ladder.Alongside entry call) :=
  inferInstanceAs (Decidable (_ ∨ ite _ _ _))

variable {ladder entry call}

theorem Earned.graduated (h : ladder.Earned entry call) :
    ladder.graduated (counted entry call.outcome call.now).totalRuns
      (counted entry call.outcome call.now).successRate = entry.level := by
  obtain ⟨hreaches, hnext⟩ := h
  rw [← order_le_graduated] at hreaches
  rw [← order_lt_graduated] at hnext
  exact TrustLevel.order_injective (by omega)

theorem Alongside.counts (h : ladder.Alongside entry call) :
    (ladder.recordOutcome entry call).promotionCount = entry.promotionCount +
        (if entry.level.order < (ladder.recordOutcome entry call).level.order then 1 else 0) ∧
      (ladder.recordOutcome entry call).demotionCount = entry.demotionCount +
        (if (ladder.recordOutcome entry call).level.order < entry.level.order then 1 else 0) := by
  refine (ladder.recordOutcome_counts call ?_).2
  rintro _ rfl hoverride hmoved
  rw [computeLevel] at hmoved ⊢
  rcases h with h | h
  · exact absurd h (by simp [hoverride])
  · split at h
    · next hfailures =>
      rw [if_pos hfailures, counted_level]
      have horder := entry.level.order_below
      omega
    · next hfailures =>
      rw [if_neg hfailures] at hmoved ⊢
      rw [order_lt_graduated, order_lt_graduated]
      exact h.resolve_left fun hearned => hmoved hearned.graduated

variable (ladder) (actionClass service : String) (calls : List LadderCall)

/-- The entry after the first `n` calls. -/
def historyAt (n : Nat) : TrustEntry :=
  (calls.take n).foldl ladder.perform (defaultEntry actionClass service)

/-- The level was set by hand in call `i`, and the calls from there to the `n`th are
outcomes that meet neither rule. -/
def Held (i n : Nat) (level : TrustLevel) : Prop :=
  (∃ now, calls[i]? = some (.manual level now)) ∧ i < n ∧
    ∀ j, i < j → j < n → ∃ call, calls[j]? = some (.record call) ∧
      ¬ ladder.MeetsRule (historyAt ladder actionClass service calls j) call

/-- A manual level stays where it was put, and the counters go with the level. -/
structure ManualPersists : Prop where
  held : ∀ i n level, n ≤ calls.length → Held ladder actionClass service calls i n level →
    (historyAt ladder actionClass service calls n).level = level
  counts : ∀ n call, calls[n]? = some (.record call) →
    (historyAt ladder actionClass service calls (n + 1)).promotionCount =
        (historyAt ladder actionClass service calls n).promotionCount +
          (if (historyAt ladder actionClass service calls n).level.order <
              (historyAt ladder actionClass service calls (n + 1)).level.order then 1 else 0) ∧
      (historyAt ladder actionClass service calls (n + 1)).demotionCount =
        (historyAt ladder actionClass service calls n).demotionCount +
          (if (historyAt ladder actionClass service calls (n + 1)).level.order <
              (historyAt ladder actionClass service calls n).level.order then 1 else 0)

variable {calls}

theorem historyAt_succ {n : Nat} {call : LadderCall} (h : calls[n]? = some call) :
    historyAt ladder actionClass service calls (n + 1) =
      ladder.perform (historyAt ladder actionClass service calls n) call := by
  obtain ⟨hn, rfl⟩ := List.getElem?_eq_some_iff.mp h
  rw [historyAt, historyAt, List.take_succ_eq_append_getElem hn, List.foldl_concat]

end

def manualDraft : List LadderCall :=
  [.record (ran "successful"), .record (ran "successful"), .record (ran "successful"),
    .manual .draft "now", .record (ran "escalated")]

def manualAuto : List LadderCall := [.manual .auto "now", .record (ran "successful")]

end TrustLadder

end OrbitalMesh
