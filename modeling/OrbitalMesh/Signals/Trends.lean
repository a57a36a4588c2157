import OrbitalMesh.Base.Rounding
import OrbitalMesh.Base.Spans
import OrbitalMesh.Decision.Trigger
import OrbitalMesh.Signals.SignalHistory

/-!
# Trends

`SignalHistoryStore.trend` takes the values at a path out of the records of a target within a
window, and a `Trend` says for how long a condition on them has held.  The window is cut by the
time of observation, but the samples stand in the order in which the records were added.
-/

namespace OrbitalMesh.SignalHistory

open Recency Spans
open OrbitalMesh.Decision (Number asNumber? getOr)

variable (digit : Char → Option Nat)

/-- `^([^\[]+)\[(\d+)\]$`, where `digit` knows the decimal digits. -/
def indexed? (segment : List Char) : Option (List Char × Nat) :=
  let key := segment.takeWhile (· ≠ '[')
  let rest := (segment.dropWhile (· ≠ '[')).tail
  let written := rest.takeWhile fun c => (digit c).isSome
  let close := rest.dropWhile fun c => (digit c).isSome
  if key ≠ [] ∧ written ≠ [] ∧ (close = [']'] ∨ close = [']', '\n']) then
    some (key, (written.filterMap digit).foldl (fun n d => 10 * n + d) 0)
  else none

/-- The walk of `_extract_path` from a node. -/
def extractFrom (digit : Char → Option Nat) (node : Json) : List (List Char) → Json
  | [] => node
  | segment :: rest =>
    match indexed? digit segment, node with
    | some (key, index), .obj members =>
      match getOr members (String.ofList key) .null with
      | .arr items => extractFrom digit (items[index]?.getD .null) rest
      | _ => .null
    | none, .obj members =>
      extractFrom digit (getOr members (String.ofList segment) .null) rest
    | _, _ => .null

def extractPath (payload : Dict) (dotted : String) : Json :=
  extractFrom digit (.obj payload) (dotted.toList.splitOn '.')

/-- `Trend`; the samples are instants with values. -/
structure Trend where
  targetId : String
  path : String
  windowStart : Instant
  windowEnd : Instant
  samples : List (Instant × Json)
deriving DecidableEq

/-- What `isinstance(value, (int, float))` leaves, without the booleans. -/
def numeric? : Json → Option Number
  | .bool _ => none
  | value => asNumber? value

def numericValues (samples : List (Instant × Json)) : Except PyError (List Binary64) :=
  (samples.filterMap fun sample => numeric? sample.2).mapM Number.toDouble

def stepwise (related : Binary64 → Binary64 → Bool) (values : List Binary64) : Bool :=
  2 ≤ values.length && (values.zip values.tail).all fun pair => related pair.1 pair.2

namespace Trend

def current (trend : Trend) : Json := (trend.samples.getLast?.map Prod.snd).getD .null

def isMonotonicDecreasing (trend : Trend) : Except PyError Bool :=
  (numericValues trend.samples).map (stepwise fun a b => b.le a)

def isMonotonicIncreasing (trend : Trend) : Except PyError Bool :=
  (numericValues trend.samples).map (stepwise fun a b => a.le b)

end Trend

/-- The conditions that durations are asked for. -/
inductive Condition where
  | atOrBelow (threshold : Binary64)
  | atOrAbove (threshold : Binary64)
  | equalTo (expected : Json)

def numberMeets (meets : Binary64 → Bool) (value : Json) : Except PyError Bool :=
  match numeric? value with
  | some number => do return meets (← number.toDouble)
  | none => .ok false

def Condition.holds : Condition → Json → Except PyError Bool
  | .atOrBelow threshold => numberMeets fun x => x.le threshold
  | .atOrAbove threshold => numberMeets fun x => threshold.le x
  | .equalTo expected => fun value => .ok (Json.pyEq value expected)

def walkBack (holds : Json → Except PyError Bool) (time : Instant) :
    List (Instant × Json) → Except PyError Instant
  | [] => .ok time
  | sample :: rest => do
    if ← holds sample.2 then walkBack holds sample.1 rest else return time

/-- `_tail_duration` and `_tail_duration_generic`. -/
def tailDuration (holds : Json → Except PyError Bool) (samples : List (Instant × Json)) :
    Except PyError Int :=
  match samples.reverse with
  | [] => .ok 0
  | latest :: rest => do
    if ← holds latest.2 then return latest.1 - (← walkBack holds latest.1 rest)
    else return 0

/-- `duration_at_or_below`, `duration_at_or_above` and `duration_equal_to`. -/
def Trend.duration (trend : Trend) (condition : Condition) : Except PyError Int :=
  tailDuration condition.holds trend.samples

/-- `datetime.min` in UTC. -/
def minInstant : Instant := -62135596800000000

/-- `instant - timedelta(seconds=seconds)`. -/
def secondsBefore (instant : Instant) (seconds : Nat) : Except PyError Instant :=
  if minInstant ≤ instant - seconds * 1000000 then .ok (instant - seconds * 1000000)
  else .error ⟨.overflowError, "date value out of range"⟩

def observedSince (cutoff : Instant) : List SignalRecord → Except PyError (List SignalRecord)
  | [] => .ok []
  | record :: rest =>
    match record.observedAt.instant with
    | none =>
      Decision.typeError "can't compare offset-naive and offset-aware datetimes"
    | some instant => do
      let kept ← observedSince cutoff rest
      return if cutoff ≤ instant then record :: kept else kept

/-- `records[-ticks:]`. -/
def lastTicks (ticks : Int) (records : List SignalRecord) : List SignalRecord :=
  if 0 < ticks then records.drop (records.length - ticks.toNat)
  else records.drop (-ticks).toNat

/-- `recent`, where the clock shows `now`. -/
def recent (s : Store) (targetId : String) (seconds : Option Nat) (ticks : Option Int)
    (now : Instant) : Except PyError (List SignalRecord) := do
  let tail := (get? s.tails targetId).getD []
  if tail.isEmpty then return []
  let kept ← match seconds with
    | some seconds => do observedSince (← secondsBefore now seconds) tail
    | none => .ok tail
  return match ticks with
    | some ticks => lastTicks ticks kept
    | none => kept

def sampleOf (path : String) (record : SignalRecord) :
    Option (Instant × Json) := do
  let instant ← record.observedAt.instant
  let value := extractPath digit record.payload path
  if value = .null then none else some (instant, value)

/-- A call of `trend`, with what the clock shows first in `recent` and then in `trend`. -/
structure TrendCall where
  path : String
  windowSeconds : Nat := 600
  recentNow : Instant
  now : Instant

def trend (s : Store) (targetId : String) (call : TrendCall) :
    Except PyError Trend := do
  let records ← recent s targetId (some call.windowSeconds) none call.recentNow
  let windowStart ← secondsBefore call.now call.windowSeconds
  return {
    targetId
    path := call.path
    windowStart
    windowEnd := call.now
    samples := records.filterMap (sampleOf digit call.path) }

def addAll (config : Config) (env : Env) (s : Store) (records : List SignalRecord) : Store :=
  records.foldl (fun s record => (add config env s record).1) s

section

variable {config : Config} {env : Env} {s : Store} {target : String} {records : List SignalRecord}
  {record : SignalRecord}

theorem add_tails {tails : List (String × List SignalRecord)}
    (h : remember config s.tails record = .ok tails) :
    (add config env s record).1.tails = tails := by
  simp only [add, h]
  split
  · split <;> rfl
  · rfl

theorem get?_add (hroom : 0 < config.maxTargets) (htarget : record.targetId = target) :
    get? (add config env s record).1.tails target =
      some (bounded config ((get? s.tails target).getD [] ++ [record])) := by
  subst htarget
  cases hget : get? s.tails record.targetId with
  | some tail =>
    have hremember : remember config s.tails record =
        .ok (toEnd s.tails record.targetId (bounded config (tail ++ [record]))) := by
      simp only [remember, hget]
    rw [add_tails hremember, get?_toEnd, if_pos rfl]
    rfl
  | none =>
    by_cases hfull : config.maxTargets ≤ s.tails.length
    · cases htails : s.tails with
      | nil =>
        rw [htails, List.length_nil] at hfull
        omega
      | cons oldest rest =>
        have hremember : remember config s.tails record =
            .ok (rest ++ [(record.targetId, bounded config [record])]) := by
          simp only [remember, hget, if_pos hfull]
          rw [htails]
        have hrest : get? rest record.targetId = none := by
          rw [htails, get?_cons] at hget
          split at hget
          · cases hget
          · exact hget
        rw [add_tails hremember, get?_append, hrest, get?_cons, if_pos rfl]
        rfl
    · have hremember : remember config s.tails record =
          .ok (s.tails ++ [(record.targetId, bounded config [record])]) := by
        simp only [remember, hget, if_neg hfull]
      rw [add_tails hremember, get?_append, hget, get?_cons, if_pos rfl]
      rfl

theorem get?_addAll (prev : List SignalRecord) (hroom : 0 < config.maxTargets)
    (htarget : ∀ record ∈ records, record.targetId = target)
    (hfit : (prev ++ records).length ≤ config.recordsPerTarget)
    (hprev : (get? s.tails target).getD [] = prev) :
    (get? (addAll config env s records).tails target).getD [] = prev ++ records := by
  induction records generalizing s prev with
  | nil => rw [List.append_nil]; exact hprev
  | cons record rest ih =>
    have hlength : (prev ++ [record]).length ≤ config.recordsPerTarget := by
      rw [List.length_append] at hfit ⊢
      rw [List.length_cons] at hfit
      rw [List.length_singleton]
      omega
    have hstep : (get? (add config env s record).1.tails target).getD [] = prev ++ [record] := by
      rw [get?_add hroom (htarget record List.mem_cons_self), hprev, bounded,
        SortedTail.lastOf_of_length_le hlength]
      rfl
    have hrest := ih (prev ++ [record])
      (fun other hother => htarget other (List.mem_cons_of_mem _ hother))
      (by rwa [List.append_assoc]) hstep
    rw [List.append_assoc] at hrest
    exact hrest

end

variable (call : TrendCall)

def TrendCall.window : Int := call.windowSeconds * 1000000

def samplesIn (records : List SignalRecord) :
    List (Instant × Json) :=
  (records.filterMap (sampleOf digit call.path)).filter fun sample =>
    decide (call.recentNow - call.window ≤ sample.1)

variable (records : List SignalRecord)

/-- No time is naive. -/
def Aware : Prop :=
  ∀ record ∈ records, ∃ instant, record.observedAt.instant = some instant

theorem observedSince_eq (cutoff : Instant) {records : List SignalRecord} (h : Aware records) :
    ∃ kept, observedSince cutoff records = .ok kept ∧
      ∀ {digit : Char → Option Nat} {path : String}, kept.filterMap (sampleOf digit path) =
        (records.filterMap (sampleOf digit path)).filter fun sample =>
          decide (cutoff ≤ sample.1) := by
  induction records with
  | nil => exact ⟨[], rfl, rfl⟩
  | cons record rest ih =>
    obtain ⟨kept, hkept, hsamples⟩ :=
      ih fun other hother => h other (List.mem_cons_of_mem _ hother)
    obtain ⟨instant, hinstant⟩ := h record List.mem_cons_self
    refine ⟨if cutoff ≤ instant then record :: kept else kept, ?_, ?_⟩
    · rw [observedSince, hinstant]
      simp only [hkept]
      rfl
    · intro digit path
      have htime : ∀ sample, sampleOf digit path record = some sample → sample.1 = instant := by
        intro sample hsample
        simp only [sampleOf, hinstant, Option.bind_eq_bind, Option.bind_some] at hsample
        split at hsample
        · cases hsample
        · cases hsample
          rfl
      rw [List.filterMap_cons]
      cases hsample : sampleOf digit path record with
      | none =>
        split
        · rw [List.filterMap_cons, hsample, hsamples]
        · exact hsamples
      | some sample =>
        by_cases hcut : cutoff ≤ instant
        · rw [if_pos hcut, List.filterMap_cons, hsample, List.filter_cons_of_pos
            (by rw [htime sample hsample]; simpa using hcut), hsamples]
        · rw [if_neg hcut, List.filter_cons_of_neg
            (by rw [htime sample hsample]; simpa using hcut), hsamples]

theorem aware_of_observedSince {cutoff : Instant} {records kept : List SignalRecord}
    (h : observedSince cutoff records = .ok kept) : Aware records := by
  induction records generalizing kept with
  | nil =>
    intro record hmem
    cases hmem
  | cons record rest ih =>
    rw [observedSince] at h
    split at h
    · cases h
    · next instant hinstant =>
      obtain ⟨kept', hkept', -⟩ := bind_ok h
      intro other hother
      obtain rfl | hrest := List.mem_cons.mp hother
      · exact ⟨instant, hinstant⟩
      · exact ih hkept' other hrest

structure InRange (records : List SignalRecord) : Prop where
  cutoff : records ≠ [] → minInstant ≤ call.recentNow - call.window
  start : minInstant ≤ call.now - call.window

def trendOf (target : String) (call : TrendCall)
    (records : List SignalRecord) : Trend where
  targetId := target
  path := call.path
  windowStart := call.now - call.window
  windowEnd := call.now
  samples := samplesIn digit call records

section

variable {digit : Char → Option Nat} {s : Store} {target : String} {call : TrendCall}
  {records : List SignalRecord}

theorem secondsBefore_eq_ok {instant before : Instant} {seconds : Nat}
    (h : secondsBefore instant seconds = .ok before) :
    minInstant ≤ instant - seconds * 1000000 ∧ before = instant - seconds * 1000000 := by
  unfold secondsBefore at h
  split at h
  · next hle =>
    cases h
    exact ⟨hle, rfl⟩
  · cases h

variable (digit) in
theorem trend_eq_ok_iff (htail : (get? s.tails target).getD [] = records) {given : Trend} :
    trend digit s target call = .ok given ↔
      Aware records ∧ InRange call records ∧ given = trendOf digit target call records := by
  unfold trend recent
  rw [htail]
  cases records with
  | nil =>
    simp only [List.isEmpty_nil, if_true, pure_bind, Except.bind_ok_iff]
    constructor
    · rintro ⟨start, hstart, hgiven⟩
      obtain ⟨hrange, rfl⟩ := secondsBefore_eq_ok hstart
      refine ⟨?_, ⟨fun hne => absurd rfl hne, hrange⟩, (Except.ok.inj hgiven).symm⟩
      intro record hmem
      cases hmem
    · rintro ⟨-, hrange, rfl⟩
      exact ⟨_, if_pos hrange.start, rfl⟩
  | cons record rest =>
    simp only [List.isEmpty_cons, Bool.false_eq_true, if_false, bind_assoc, pure_bind,
      Except.bind_ok_iff]
    constructor
    · rintro ⟨cutoff, hcutoff, kept, hkept, start, hstart, hgiven⟩
      obtain ⟨hrange, rfl⟩ := secondsBefore_eq_ok hcutoff
      obtain ⟨hrange', rfl⟩ := secondsBefore_eq_ok hstart
      have haware := aware_of_observedSince hkept
      obtain ⟨kept', hkept', hsamples⟩ := observedSince_eq
        (call.recentNow - call.windowSeconds * 1000000) haware
      rw [hkept] at hkept'
      obtain rfl := Except.ok.inj hkept'
      refine ⟨haware, ⟨fun _ => hrange, hrange'⟩, ?_⟩
      rw [← Except.ok.inj hgiven, hsamples]
      rfl
    · rintro ⟨haware, hrange, rfl⟩
      obtain ⟨kept, hkept, hsamples⟩ := observedSince_eq
        (call.recentNow - call.windowSeconds * 1000000) haware
      refine ⟨_, if_pos (hrange.cutoff (by simp)), kept, hkept, _, if_pos hrange.start, ?_⟩
      rw [hsamples]
      rfl

end

def Condition.met (condition : Condition) (value : Json) : Bool :=
  match condition.holds value with
  | .ok b => b
  | .error _ => false

def Floats (samples : List (Instant × Json)) : Prop :=
  ∀ sample ∈ samples, ∀ number, numeric? sample.2 = some number →
    ∃ x, number.toDouble = .ok x

section

variable {samples : List (Instant × Json)}

theorem numericValues_ok_iff : (∃ values, numericValues samples = .ok values) ↔ Floats samples := by
  rw [numericValues, exists_mapM_ok_iff]
  constructor
  · intro h sample hmem number hnumber
    exact h number (List.mem_filterMap.mpr ⟨sample, hmem, hnumber⟩)
  · intro h number hmem
    obtain ⟨sample, hsample, hnumber⟩ := List.mem_filterMap.mp hmem
    exact h sample hsample number hnumber

theorem Floats.holds_eq (h : Floats samples) (condition : Condition) {sample : Instant × Json}
    (hmem : sample ∈ samples) : condition.holds sample.2 = .ok (condition.met sample.2) := by
  have hnumber : ∀ meets : Binary64 → Bool, ∃ b, numberMeets meets sample.2 = .ok b := by
    intro meets
    unfold numberMeets
    split
    · next number hfound =>
      obtain ⟨x, hx⟩ := h sample hmem number hfound
      exact ⟨meets x, by rw [hx]; rfl⟩
    · exact ⟨false, rfl⟩
  have hall : ∃ b, condition.holds sample.2 = .ok b := by
    cases condition with
    | atOrBelow threshold | atOrAbove threshold => exact hnumber _
    | equalTo expected => exact ⟨_, rfl⟩
  obtain ⟨b, hb⟩ := hall
  rw [Condition.met, hb]

variable {holds : Json → Except PyError Bool} {p : Json → Bool}

theorem walkBack_eq (time : Instant) (h : ∀ sample ∈ samples, holds sample.2 = .ok (p sample.2)) :
    walkBack holds time samples = .ok (earliest p time samples) := by
  induction samples generalizing time with
  | nil => rfl
  | cons sample rest ih =>
    rw [walkBack, earliest, h sample List.mem_cons_self, ok_bind]
    by_cases hp : p sample.2 = true
    · rw [if_pos hp, if_pos hp]
      exact ih sample.1 fun other hother => h other (List.mem_cons_of_mem _ hother)
    · rw [if_neg hp, if_neg hp]
      rfl

theorem tailDuration_eq (h : ∀ sample ∈ samples, holds sample.2 = .ok (p sample.2)) :
    tailDuration holds samples = .ok (span p samples.reverse) := by
  have hreverse : ∀ sample ∈ samples.reverse, holds sample.2 = .ok (p sample.2) :=
    fun sample hmem => h sample (List.mem_reverse.mp hmem)
  unfold tailDuration
  cases hsamples : samples.reverse with
  | nil => rfl
  | cons latest rest =>
    rw [hsamples] at hreverse
    simp only [hreverse latest List.mem_cons_self, ok_bind]
    rw [span]
    split
    · rw [walkBack_eq latest.1 fun other hother =>
        hreverse other (List.mem_cons_of_mem _ hother)]
      rfl
    · rfl

theorem Floats.duration_eq {given : Trend} (h : Floats given.samples) (condition : Condition) :
    given.duration condition = .ok (span condition.met given.samples.reverse) :=
  tailDuration_eq fun _ hmem => h.holds_eq condition hmem

end

def InTimeOrder : Prop :=
  records.Pairwise fun a b => ∀ i j, a.observedAt.instant = some i →
    b.observedAt.instant = some j → i < j

def DistinctTimes : Prop :=
  records.Pairwise fun a b => ∀ i, a.observedAt.instant = some i →
    b.observedAt.instant ≠ some i

section

variable {digit : Char → Option Nat} {call : TrendCall} {records records' : List SignalRecord}

theorem sampleOf_fst {path : String} {record : SignalRecord} {sample : Instant × Json}
    (h : sampleOf digit path record = some sample) : record.observedAt.instant = some sample.1 := by
  obtain ⟨instant, hinstant, hvalue⟩ := Option.bind_eq_some_iff.mp h
  simp only [] at hvalue
  split at hvalue
  · cases hvalue
  · cases hvalue
    exact hinstant

theorem samplesIn_perm (h : records.Perm records') :
    (samplesIn digit call records).Perm (samplesIn digit call records') :=
  (h.filterMap _).filter _

theorem InTimeOrder.samplesIn (h : InTimeOrder records) :
    (samplesIn digit call records).Pairwise fun a b => a.1 < b.1 := by
  apply List.Pairwise.filter
  apply List.Pairwise.filterMap _ _ h
  intro a b hlt sample hsample sample' hsample'
  exact hlt _ _ (sampleOf_fst hsample) (sampleOf_fst hsample')

theorem exists_inTimeOrder (hdistinct : DistinctTimes records) :
    ∃ sorted, records.Perm sorted ∧ InTimeOrder sorted := by
  let before (a b : SignalRecord) : Prop :=
    (a.observedAt.instant.getD 0) ≤ b.observedAt.instant.getD 0
  have hperm : (records.insertionSort before).Perm records := List.perm_insertionSort before records
  refine ⟨records.insertionSort before, hperm.symm, ?_⟩
  have hdistinct' : DistinctTimes (records.insertionSort before) := by
    apply (hperm.pairwise_iff _).mpr hdistinct
    intro a b hab i hb ha
    exact hab i ha hb
  have hsorted := List.pairwise_insertionSort before records
  apply (hsorted.and hdistinct').imp
  intro a b ⟨hle, hne⟩ i j hi hj
  have hij : i ≤ j := by simpa [before, hi, hj] using hle
  refine lt_of_le_of_ne hij ?_
  intro heq
  rw [heq] at hi
  exact hne j hi hj

theorem Aware.perm (h : Aware records) (hperm : records.Perm records') : Aware records' :=
  fun record hmem => h record (hperm.mem_iff.mpr hmem)

theorem InRange.perm (h : InRange call records) (hperm : records.Perm records') :
    InRange call records' := by
  refine ⟨fun hne => h.cutoff ?_, h.start⟩
  intro hnil
  rw [hnil] at hperm
  exact hne hperm.nil_eq.symm

end

/-- What the flags and the durations of a trend promise, over a window. -/
structure Sound (window : Int) (given : Trend) : Prop where
  decreasing : ∃ b, given.isMonotonicDecreasing = .ok b
  increasing : ∃ b, given.isMonotonicIncreasing = .ok b
  durations : ∀ condition : Condition, ∃ d, given.duration condition = .ok d ∧ 0 ≤ d ∧
    d ≤ window ∧ LongestSpan condition.met given.samples d
  below : ∀ threshold threshold' : Binary64, threshold.le threshold' = true → ∀ d d',
    given.duration (.atOrBelow threshold) = .ok d →
    given.duration (.atOrBelow threshold') = .ok d' → d ≤ d'
  above : ∀ threshold threshold' : Binary64, threshold.le threshold' = true → ∀ d d',
    given.duration (.atOrAbove threshold) = .ok d →
    given.duration (.atOrAbove threshold') = .ok d' → d' ≤ d

/-- Over these arrivals a trend is given, and is the one of arrivals in the order of
observation; its durations are what they promise. -/
structure TimeOnly (config : Config) (env : Env) (s : Store)
    (target : String) (call : TrendCall) (records : List SignalRecord) : Prop where
  order : ∀ records', records.Perm records' → InTimeOrder records' →
    trend digit (addAll config env s records) target call =
      trend digit (addAll config env s records') target call
  sound : ∃ given, trend digit (addAll config env s records) target call = .ok given ∧
    Sound call.window given

/-- No time is naive, the samples within the window arrive in the order of observation, and
neither final run is longer than the window. -/
structure Grounded (records : List SignalRecord) :
    Prop where
  aware : Aware records
  inRange : InRange call records
  ordered : (samplesIn digit call records).Pairwise fun a b => a.1 < b.1
  floats : Floats (samplesIn digit call records)
  numbers : RunFits (fun value => (numeric? value).isSome) call.window
    (samplesIn digit call records).reverse
  equals : ∀ latest ∈ (samplesIn digit call records).getLast?,
    RunFits (fun value => Json.pyEq value latest.2) call.window
      (samplesIn digit call records).reverse

section

variable {samples : List (Instant × Json)} {window : Int}

theorem latestFirst_reverse (h : samples.Pairwise fun a b => a.1 < b.1) :
    LatestFirst samples.reverse := List.pairwise_reverse.mpr h

variable {value : Json} {number : Number} {x threshold : Binary64} {sample : Instant × Json}

theorem met_number (hnumber : numeric? value = some number) (hx : number.toDouble = .ok x) :
    (∀ threshold, (Condition.atOrBelow threshold).met value = x.le threshold) ∧
      ∀ threshold, (Condition.atOrAbove threshold).met value = threshold.le x := by
  constructor
  · intro threshold
    simp only [Condition.met, Condition.holds, numberMeets, hnumber, hx]
    rfl
  · intro threshold
    simp only [Condition.met, Condition.holds, numberMeets, hnumber, hx]
    rfl

theorem met_of_not_number (hnumber : numeric? value = none) :
    (∀ threshold, (Condition.atOrBelow threshold).met value = false) ∧
      ∀ threshold, (Condition.atOrAbove threshold).met value = false := by
  constructor
  · intro threshold
    simp only [Condition.met, Condition.holds, numberMeets, hnumber]
  · intro threshold
    simp only [Condition.met, Condition.holds, numberMeets, hnumber]

theorem toDouble_ne_nan (hnumber : numeric? value = some number) (hx : number.toDouble = .ok x) :
    x ≠ .nan := by
  cases value with
  | int n =>
    obtain rfl := Option.some.inj hnumber
    simp only [Number.toDouble] at hx
    split at hx
    · cases hx
    · obtain rfl := Except.ok.inj hx
      exact Binary64.nearest_ne_nan _
  | float neg mant exp =>
    obtain rfl := Option.some.inj hnumber
    obtain rfl := Except.ok.inj hx
    exact Binary64.nearest_ne_nan _
  | _ => cases hnumber

theorem isSome_of_met
    (h : (Condition.atOrBelow threshold).met value = true ∨
      (Condition.atOrAbove threshold).met value = true) : (numeric? value).isSome = true := by
  cases hnumber : numeric? value with
  | some number => rfl
  | none =>
    obtain ⟨hbelow, habove⟩ := met_of_not_number hnumber
    rw [hbelow, habove] at h
    simp at h

theorem Floats.met_infinite (h : Floats samples) (hmem : sample ∈ samples) :
    (Condition.atOrBelow (.infinite false)).met sample.2 = (numeric? sample.2).isSome := by
  cases hnumber : numeric? sample.2 with
  | none => exact (met_of_not_number hnumber).1 _
  | some number =>
    obtain ⟨x, hx⟩ := h sample hmem number hnumber
    rw [(met_number hnumber hx).1, Binary64.le_infinite (toDouble_ne_nan hnumber hx)]
    rfl

/-- A higher threshold is met by what meets a lower one, and the other way round. -/
theorem Floats.met_mono (h : Floats samples) {threshold' : Binary64}
    (hle : threshold.le threshold' = true) (hmem : sample ∈ samples) :
    ((Condition.atOrBelow threshold).met sample.2 = true →
        (Condition.atOrBelow threshold').met sample.2 = true) ∧
      ((Condition.atOrAbove threshold').met sample.2 = true →
        (Condition.atOrAbove threshold).met sample.2 = true) := by
  cases hnumber : numeric? sample.2 with
  | none =>
    obtain ⟨hbelow, habove⟩ := met_of_not_number hnumber
    simp [hbelow, habove]
  | some number =>
    obtain ⟨x, hx⟩ := h sample hmem number hnumber
    obtain ⟨hbelow, habove⟩ := met_number hnumber hx
    rw [hbelow, hbelow, habove, habove]
    exact ⟨fun hx => Binary64.le_trans hx hle, fun hx => Binary64.le_trans hle hx⟩

/-- A condition that is met by the samples of another one has held for no longer. -/
theorem span_mono_on {p q : Json → Bool} (h : LatestFirst samples)
    (hpq : ∀ sample ∈ samples, p sample.2 = true → q sample.2 = true) :
    span p samples ≤ span q samples := by
  have hsame : span p samples = span (fun value => p value && q value) samples := by
    apply span_congr
    intro sample hmem
    by_cases hp : p sample.2 = true
    · simp [hp, hpq sample hmem hp]
    · simp [hp]
  rw [hsame]
  apply span_mono h
  intro value hboth
  exact (Bool.and_eq_true_iff.mp hboth).2

theorem pyEq_comm (a b : Json) : Json.pyEq a b = Json.pyEq b a := by
  unfold Json.pyEq
  rw [decide_eq_decide]
  exact eq_comm

theorem pyEq_trans {a b c : Json} (hab : Json.pyEq a b = true) (hbc : Json.pyEq b c = true) :
    Json.pyEq a c = true := by
  unfold Json.pyEq at hab hbc ⊢
  rw [decide_eq_true_iff] at hab hbc ⊢
  exact hab.trans hbc

theorem span_equalTo_le (h : LatestFirst samples) {bound : Int} (hbound : 0 ≤ bound)
    (hfits : ∀ latest ∈ samples.head?,
      RunFits (fun value => Json.pyEq value latest.2) bound samples)
    (expected : Json) : span (Condition.equalTo expected).met samples ≤ bound := by
  cases samples with
  | nil => exact hbound
  | cons latest rest =>
    by_cases hlatest : Json.pyEq latest.2 expected = true
    · have hle := (span_le_iff h hbound).mpr (hfits latest rfl)
      apply le_trans _ hle
      apply span_mono_on h
      intro sample _ hmeets
      exact pyEq_trans hmeets (by rw [pyEq_comm]; exact hlatest)
    · have hzero : span (Condition.equalTo expected).met (latest :: rest) = 0 := by
        exact if_neg hlatest
      rw [hzero]
      exact hbound

theorem Grounded.sound {digit : Char → Option Nat} {call : TrendCall}
    {records : List SignalRecord} (h : Grounded digit call records) (target : String) :
    Sound call.window (trendOf digit target call records) := by
  have hfloats : Floats (trendOf digit target call records).samples := h.floats
  have hlatest : LatestFirst (trendOf digit target call records).samples.reverse :=
    latestFirst_reverse h.ordered
  have hwindow : 0 ≤ call.window := by
    unfold TrendCall.window
    omega
  have hfloats' : Floats (trendOf digit target call records).samples.reverse :=
    fun sample hmem => hfloats sample (List.mem_reverse.mp hmem)
  have hnumbers := (span_le_iff hlatest hwindow).mpr h.numbers
  obtain ⟨values, hvalues⟩ := numericValues_ok_iff.mpr hfloats
  have hdecreasing : (trendOf digit target call records).isMonotonicDecreasing =
      .ok (stepwise (fun a b => b.le a) values) := by
    rw [Trend.isMonotonicDecreasing, hvalues]
    rfl
  have hincreasing : (trendOf digit target call records).isMonotonicIncreasing =
      .ok (stepwise (fun a b => a.le b) values) := by
    rw [Trend.isMonotonicIncreasing, hvalues]
    rfl
  refine ⟨⟨_, hdecreasing⟩, ⟨_, hincreasing⟩, ?_, ?_, ?_⟩
  · intro condition
    refine ⟨_, hfloats.duration_eq condition, span_nonneg hlatest, ?_, ?_⟩
    · cases condition with
      | atOrBelow threshold =>
        apply le_trans (span_mono_on hlatest _) hnumbers
        intro sample _ hmet
        exact isSome_of_met (.inl hmet)
      | atOrAbove threshold =>
        apply le_trans (span_mono_on hlatest _) hnumbers
        intro sample _ hmet
        exact isSome_of_met (.inr hmet)
      | equalTo expected =>
        apply span_equalTo_le hlatest hwindow
        intro latest hmem
        rw [List.head?_reverse] at hmem
        exact h.equals latest hmem
    · exact (span_longest hlatest).of_mem_iff fun sample => List.mem_reverse
  · intro threshold threshold' hle d d' hd hd'
    rw [hfloats.duration_eq] at hd hd'
    obtain rfl := Except.ok.inj hd
    obtain rfl := Except.ok.inj hd'
    exact span_mono_on hlatest fun sample hmem => (hfloats'.met_mono hle hmem).1
  · intro threshold threshold' hle d d' hd hd'
    rw [hfloats.duration_eq] at hd hd'
    obtain rfl := Except.ok.inj hd
    obtain rfl := Except.ok.inj hd'
    exact span_mono_on hlatest fun sample hmem => (hfloats'.met_mono hle hmem).2

theorem Sound.fits {given : Trend} (h : Sound window given) (hwindow : 0 ≤ window)
    (hordered : given.samples.Pairwise fun a b => a.1 < b.1) :
    Floats given.samples ∧
      RunFits (fun value => (numeric? value).isSome) window given.samples.reverse ∧
      ∀ expected : Json, RunFits (fun value => Json.pyEq value expected) window
        given.samples.reverse := by
  obtain ⟨b, hb⟩ := h.decreasing
  have hfloats : Floats given.samples := by
    apply numericValues_ok_iff.mp
    cases hvalues : numericValues given.samples with
    | ok values => exact ⟨values, rfl⟩
    | error e =>
      rw [Trend.isMonotonicDecreasing, hvalues] at hb
      cases hb
  have hlatest := latestFirst_reverse hordered
  have hspan : ∀ condition : Condition, span condition.met given.samples.reverse ≤ window := by
    intro condition
    obtain ⟨d, hd, -, hle, -⟩ := h.durations condition
    rw [hfloats.duration_eq] at hd
    rwa [Except.ok.inj hd]
  refine ⟨hfloats, ?_, ?_⟩
  · rw [← span_le_iff hlatest hwindow]
    have hsame : span (Condition.atOrBelow (.infinite false)).met given.samples.reverse =
        span (fun value => (numeric? value).isSome) given.samples.reverse := by
      apply span_congr
      intro sample hmem
      exact hfloats.met_infinite (List.mem_reverse.mp hmem)
    rw [← hsame]
    exact hspan _
  · intro expected
    exact (span_le_iff hlatest hwindow).mp (hspan (.equalTo expected))

end

/-- **When a trend depends on the time of observation alone**: exactly where the records of the
window are grounded in time. -/
theorem timeOnly_iff {digit : Char → Option Nat} {config : Config} {env : Env} {s : Store}
    {target : String} {call : TrendCall} {records : List SignalRecord}
    (hroom : 0 < config.maxTargets) (hfit : records.length ≤ config.recordsPerTarget)
    (hnew : get? s.tails target = none) (htarget : ∀ record ∈ records, record.targetId = target)
    (hdistinct : DistinctTimes records) :
    TimeOnly digit config env s target call records ↔ Grounded digit call records := by
  have htail : ∀ others : List SignalRecord, records.Perm others →
      (get? (addAll config env s others).tails target).getD [] = others := by
    intro others hperm
    have hall : ∀ record ∈ others, record.targetId = target :=
      fun record hmem => htarget record (hperm.mem_iff.mpr hmem)
    apply get?_addAll [] hroom hall
    · rw [List.nil_append, ← hperm.length_eq]
      exact hfit
    · rw [hnew]
      rfl
  constructor
  · intro h
    obtain ⟨given, hgiven, hsound⟩ := h.sound
    obtain ⟨haware, hrange, rfl⟩ := (trend_eq_ok_iff digit (htail records (.refl _))).mp hgiven
    obtain ⟨sorted, hperm, hsorted⟩ := exists_inTimeOrder hdistinct
    have hsame := h.order sorted hperm hsorted
    rw [hgiven] at hsame
    obtain ⟨-, -, heq⟩ := (trend_eq_ok_iff digit (htail sorted hperm)).mp hsame.symm
    have hordered : (samplesIn digit call records).Pairwise fun a b => a.1 < b.1 := by
      have hsamples : samplesIn digit call records = samplesIn digit call sorted :=
        congrArg Trend.samples heq
      rw [hsamples]
      exact hsorted.samplesIn
    have hwindow : 0 ≤ call.window := by
      unfold TrendCall.window
      omega
    obtain ⟨hfloats, hnumbers, hequals⟩ := hsound.fits hwindow hordered
    exact ⟨haware, hrange, hordered, hfloats, hnumbers, fun latest _ => hequals latest.2⟩
  · intro h
    refine ⟨?_, ?_⟩
    · intro others hperm hinOrder
      have hsamples : samplesIn digit call records = samplesIn digit call others :=
        (samplesIn_perm hperm).eq_of_pairwise
          (fun a b _ _ hab hba => absurd hba (lt_asymm hab)) h.ordered hinOrder.samplesIn
      have hgiven := (trend_eq_ok_iff digit (htail records (.refl _))).mpr
        ⟨h.aware, h.inRange, rfl⟩
      have hgiven' := (trend_eq_ok_iff digit (htail others hperm)).mpr
        ⟨h.aware.perm hperm, h.inRange.perm hperm, rfl⟩
      rw [hgiven, hgiven', trendOf, hsamples]
      rfl
    · exact ⟨_, (trend_eq_ok_iff digit (htail records (.refl _))).mpr ⟨h.aware, h.inRange, rfl⟩,
        h.sound target⟩

def statusAt (seconds : Int) (status : String) : SignalRecord where
  targetId := "k8s"
  signalType := "kubernetes_deployment_issue"
  observedAt := ⟨1767607200000000 + seconds * 1000000, some 0⟩
  payload := [("rollout_status", .str status)]

def statusCall : TrendCall where
  path := "rollout_status"
  recentNow := 1767607320000000
  now := 1767607320000000

/-- A failure that is reported twice, in order, has lasted for a minute. -/
theorem status_timeOnly :
    TimeOnly (fun _ => none) { persist := false } sampleEnv {} "k8s" statusCall
        [statusAt 0 "failed", statusAt 60 "failed"] ∧
      (trendOf (fun _ => none) "k8s" statusCall
        [statusAt 0 "failed", statusAt 60 "failed"]).duration (.equalTo (.str "failed")) =
        .ok 60000000 := by
  have hsamples : samplesIn (fun _ => none) statusCall
      [statusAt 0 "failed", statusAt 60 "failed"] =
      [(1767607200000000, .str "failed"), (1767607260000000, .str "failed")] := by
    decide +kernel
  refine ⟨(timeOnly_iff (by decide) (by decide) rfl (by decide) ?_).mpr ?_, by decide +kernel⟩
  · simp [DistinctTimes, statusAt, DateTime.instant]
  · refine ⟨?_, ⟨fun _ => by decide, by decide⟩, ?_, ?_, ?_, ?_⟩
    · intro record hmem
      obtain rfl | hmem := List.mem_cons.mp hmem
      · exact ⟨_, rfl⟩
      · rw [List.mem_singleton.mp hmem]
        exact ⟨_, rfl⟩
    · rw [hsamples]
      simp
    · rw [hsamples]
      intro sample hmem number hnumber
      simp only [List.mem_cons, List.not_mem_nil, or_false] at hmem
      obtain rfl | rfl := hmem <;> cases hnumber
    · rw [hsamples]
      simp [RunFits, numeric?, asNumber?]
    · rw [hsamples]
      intro latest hmem
      cases hmem
      simp [RunFits, statusCall, TrendCall.window]

/-- A failure whose first report comes late has lasted for minus one minute. -/
theorem late_status_negative :
    trend (fun _ => none) (addAll { persist := false } sampleEnv {}
        [statusAt 60 "failed", statusAt 0 "failed"]) "k8s" statusCall =
        .ok (trendOf (fun _ => none) "k8s" statusCall
          [statusAt 60 "failed", statusAt 0 "failed"]) ∧
      (trendOf (fun _ => none) "k8s" statusCall
        [statusAt 60 "failed", statusAt 0 "failed"]).duration (.equalTo (.str "failed")) =
        .ok (-60000000) ∧
      ¬ TimeOnly (fun _ => none) { persist := false } sampleEnv {} "k8s" statusCall
        [statusAt 60 "failed", statusAt 0 "failed"] := by
  have hgiven : trend (fun _ => none) (addAll { persist := false } sampleEnv {}
      [statusAt 60 "failed", statusAt 0 "failed"]) "k8s" statusCall =
      .ok (trendOf (fun _ => none) "k8s" statusCall
        [statusAt 60 "failed", statusAt 0 "failed"]) := by decide +kernel
  have hduration : (trendOf (fun _ => none) "k8s" statusCall
      [statusAt 60 "failed", statusAt 0 "failed"]).duration (.equalTo (.str "failed")) =
      .ok (-60000000) := by decide +kernel
  refine ⟨hgiven, hduration, ?_⟩
  intro h
  obtain ⟨given, hsame, hsound⟩ := h.sound
  rw [hgiven] at hsame
  obtain rfl := Except.ok.inj hsame
  obtain ⟨d, hd, hnonneg, -⟩ := hsound.durations (.equalTo (.str "failed"))
  rw [hduration] at hd
  obtain rfl := Except.ok.inj hd
  omega

end OrbitalMesh.SignalHistory
