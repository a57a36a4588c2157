import Mathlib.Data.List.Sort
import Mathlib.Data.Rat.Floor
import OrbitalMesh.Orchestrator.Retries

/-!
# Active memory

`ActiveMemoryStore` keeps, for each service, the facts that decisions look at:
facts with the same kind and content are merged into one, and the best 25 stay.
`refresh_from_claims` makes facts of the active claims of a packet.

Event ids are texts.  An id or a time that `uuid4` or the clock makes up is `none`,
and how texts are read as numbers is left open.
-/

namespace OrbitalMesh.ActiveMemory

open Orchestrator

/-- A candidate fact: its event ids and its other members. -/
structure Candidate where
  members : Dict
  sourceEventIds : List String

structure Fact where
  /-- `none` where `uuid4` makes it up -/
  factId : Option String
  service : String
  kind : String
  content : String
  confidence : ℚ
  sourceRunId : Json
  sourceEventIds : List String
  /-- `none` where the clock gives it -/
  createdAt : Option String
  reinforcementCount : Int
deriving DecidableEq

/-- How texts are read by `float` and by `int`. -/
structure NumberReading where
  float : String → Option Seconds
  int : String → Option Int

/-- A member that counts in an `or`. -/
def given (d : Dict) (key : String) : Option Json :=
  if truthyAt d key then d.get? key else none

/-- `d.get(key) or other`. -/
def orElse (d : Dict) (key : String) (other : Json) : Json := (given d key).getD other

/-- `int(value)`, which cuts floats off towards zero. -/
def pyInt (read : String → Option Int) : Json → Except PyError Int
  | .int n => .ok n
  | .bool b => .ok (if b then 1 else 0)
  | .float neg mant exp =>
    let whole := ⌊(mant : ℚ) * (10 : ℚ) ^ exp⌋
    .ok (if neg then -whole else whole)
  | .str text => match read text with
    | some n => .ok n
    | none => valueError ("invalid literal for int() with base 10: " ++ pyRepr text)
  | _ => .error ⟨.typeError, "int() argument must be a string, a bytes-like object or a number"⟩

/-- `max(0.0, min(confidence, 1.0))`; `min` and `max` keep their first argument beside a NaN. -/
def clampConfidence : Seconds → ℚ
  | .finite value => max 0 (min value 1)
  | .infinite neg => if neg then 0 else 1
  | .nan => 0

variable (reading : NumberReading)

/-- `float(d.get("confidence", 0.0) or 0.0)`. -/
def confidenceOf (d : Dict) : Except PyError Seconds :=
  pyFloat reading.float (orElse d "confidence" (.int 0))

def normalizeFact (service : String) (runId : Option String)
    (sourceEventIds : List String) (fact : Candidate) : Except PyError Fact := do
  let confidence ← confidenceOf reading fact.members
  let count ← pyInt reading.int (orElse fact.members "reinforcement_count" (.int 1))
  return {
    factId := (given fact.members "fact_id").map pyStr
    service := pyStr (orElse fact.members "service" (.str service))
    kind := pyStr (orElse fact.members "kind" (.str "observation"))
    content := pyStr (orElse fact.members "content" (orElse fact.members "summary" (.str "")))
    confidence := clampConfidence confidence
    sourceRunId := orElse fact.members "source_run_id" ((runId.map .str).getD .null)
    sourceEventIds := if fact.sourceEventIds.isEmpty then sourceEventIds else fact.sourceEventIds
    createdAt := (given fact.members "created_at").map pyStr
    reinforcementCount := count }

def isActiveFact (fact : Fact) : Bool := fact.content != "" && decide (11 / 20 ≤ fact.confidence)

/-- What makes two facts the same. -/
def Fact.key (fact : Fact) : String × String := (fact.kind, fact.content)

/-- The loop body of `_dedupe_facts` for a key that is there already. -/
def Fact.merge (current fact : Fact) : Fact :=
  { current with
    confidence := max current.confidence fact.confidence
    reinforcementCount := current.reinforcementCount + fact.reinforcementCount
    sourceEventIds := sortedSet (current.sourceEventIds ++ fact.sourceEventIds) }

/-- The loop body of `_dedupe_facts`. -/
def addFact : List Fact → Fact → List Fact
  | [], fact => [fact]
  | current :: rest, fact =>
    if current.key = fact.key then current.merge fact :: rest else current :: addFact rest fact

/-- `(confidence, reinforcement_count)`, larger or equal. -/
def Fact.Outranks (a b : Fact) : Prop :=
  b.confidence < a.confidence ∨
    b.confidence = a.confidence ∧ b.reinforcementCount ≤ a.reinforcementCount

instance : DecidableRel Fact.Outranks := fun a b => by
  unfold Fact.Outranks
  infer_instance

instance : Std.Total Fact.Outranks where
  total a b := by grind [Fact.Outranks]

instance : IsTrans Fact Fact.Outranks where
  trans a b c := by grind [Fact.Outranks]

variable (facts : List Fact)

/-- `_dedupe_facts`; `sorted` is stable, with `reverse=True` too. -/
def dedupeFacts : List Fact :=
  (facts.foldl addFact []).insertionSort Fact.Outranks

abbrev Store := String → List Fact

def maxActiveFactsPerService : Nat := 25

/-- The arguments that both calls share. -/
structure Scope where
  runId : Option String
  service : String
  sourceEventIds : List String

/-- The active and the suppressed facts of a call. -/
def sortOut (scope : Scope) (candidates : List Candidate) :
    Except PyError (List Fact × List Fact) := do
  let facts ← candidates.mapM
    (normalizeFact reading scope.service scope.runId scope.sourceEventIds)
  return (facts.filter isActiveFact, facts.filter (!isActiveFact ·))

/-- What `compact` stores of active facts. -/
def absorb (s : Store) (service : String) (active : List Fact) : Store :=
  Function.update s service ((dedupeFacts (s service ++ active)).take maxActiveFactsPerService)

def compact (scope : Scope) (candidates : List Candidate) (s : Store) :
    Except PyError ((List Fact × List Fact) × Store) := do
  let sorted ← sortOut reading scope candidates
  return (sorted, absorb s scope.service sorted.1)

/-- `len(claim.get("supporting_observation_ids", []))`. -/
def supportCount (claim : Dict) : Except PyError Int :=
  match (claim.get? "supporting_observation_ids").getD (.arr []) with
  | .arr ids => .ok ids.length
  | .obj members => .ok members.length
  | .str text => .ok text.length
  | _ => .error ⟨.typeError, "object has no len()"⟩

def claimCandidate (scope : Scope) (claim : Dict) :
    Except PyError Candidate := do
  let _ ← confidenceOf reading claim
  let support ← supportCount claim
  return {
    members := [("service", .str scope.service),
      ("kind", .str (pyStr (orElse claim "tier" (.str "semantic")))),
      ("content", .str (pyStr (orElse claim "statement" (.str "")))),
      ("confidence", orElse claim "confidence" (.int 0)),
      ("source_run_id", (scope.runId.map .str).getD .null),
      ("created_at", orElse claim "updated_at" ((claim.get? "created_at").getD .null)),
      ("reinforcement_count", .int (max 1 support))]
    sourceEventIds := scope.sourceEventIds }

inductive Call where
  | compact (scope : Scope) (candidates : List Candidate)
  | refreshFromClaims (scope : Scope) (claims : List Dict)

def Call.scope : Call → Scope
  | .compact scope _ | .refreshFromClaims scope _ => scope

/-- The candidate facts of a call. -/
def Call.candidates (reading : NumberReading) : Call → Except PyError (List Candidate)
  | .compact _ candidates => .ok candidates
  | .refreshFromClaims scope claims =>
    (claims.filter fun claim => (claim.get? "state").map pyStr == some "active").mapM
      (claimCandidate reading scope)

def Call.perform (call : Call) (s : Store) :
    Except PyError ((List Fact × List Fact) × Store) := do
  let candidates ← call.candidates reading
  ActiveMemory.compact reading call.scope candidates s

/-- No candidate of the call is active. -/
def Quiet (call : Call) : Prop :=
  ∀ candidates, call.candidates reading = .ok candidates → ∀ candidate ∈ candidates, ∀ fact,
    normalizeFact reading call.scope.service call.scope.runId call.scope.sourceEventIds candidate =
      .ok fact → isActiveFact fact = false

/-- The stores that calls lead to. A call that raises leaves the store alone. -/
inductive Reached (reading : NumberReading) : Store → Prop
  | empty : Reached reading fun _ => []
  | call {s t : Store} {call : Call} {facts : List Fact × List Fact} (h : Reached reading s)
      (hstep : call.perform reading s = .ok (facts, t)) : Reached reading t

def Fact.Confident (fact : Fact) : Prop := 11 / 20 ≤ fact.confidence ∧ fact.confidence ≤ 1

/-- The facts of a service are compacted: distinct, at most 25, confident, the best first. -/
structure Compacted : Prop where
  distinct : (facts.map Fact.key).Nodup
  bounded : facts.length ≤ maxActiveFactsPerService
  confident : ∀ fact ∈ facts, fact.Confident
  sorted : facts.Pairwise Fact.Outranks

/-- What merging decides about a fact. -/
def Fact.merits (fact : Fact) : ℚ × Int × List String :=
  (fact.confidence, fact.reinforcementCount, fact.sourceEventIds)

/-- The merits of the fact with this kind and content. -/
def meritsAt (key : String × String) : Option (ℚ × Int × List String) :=
  (facts.find? (·.key = key)).map Fact.merits

/-- No more than 25 distinct facts compete. -/
def Few : Prop :=
  (facts.map Fact.key).dedup.length ≤ maxActiveFactsPerService

section

variable {facts others : List Fact} {key : String × String}

theorem find?_addFact (fact : Fact) :
    (addFact facts fact).find? (·.key = key) = if fact.key = key then
      some ((facts.find? (·.key = key)).elim fact (·.merge fact))
    else facts.find? (·.key = key) := by
  induction facts with
  | nil => grind [addFact]
  | cons current rest ih =>
    have hkey : (current.merge fact).key = current.key := rfl
    by_cases hsame : current.key = fact.key <;> grind [addFact]

theorem keys_addFact (fact : Fact) :
    (addFact facts fact).map Fact.key = if fact.key ∈ facts.map Fact.key then facts.map Fact.key
      else facts.map Fact.key ++ [fact.key] := by
  induction facts with
  | nil => simp [addFact]
  | cons current rest ih =>
    have hkey : (current.merge fact).key = current.key := rfl
    by_cases hsame : current.key = fact.key <;> grind [addFact]

def addMerits (merits : Option (ℚ × Int × List String)) (next : ℚ × Int × List String) :
    Option (ℚ × Int × List String) :=
  some (merits.elim next fun current => (max current.1 next.1, current.2.1 + next.2.1,
    sortedSet (current.2.2 ++ next.2.2)))

def contributions (facts : List Fact) (key : String × String) : List (ℚ × Int × List String) :=
  (facts.filter (·.key = key)).map Fact.merits

theorem contributions_append : contributions (facts ++ others) key =
    contributions facts key ++ contributions others key := by
  simp [contributions]

theorem meritsAt_foldl_addFact (start : List Fact) :
    meritsAt (facts.foldl addFact start) key =
      (contributions facts key).foldl addMerits (meritsAt start key) := by
  induction facts generalizing start with
  | nil => rfl
  | cons fact rest ih =>
    have hadd : meritsAt (addFact start fact) key = if fact.key = key then
        addMerits (meritsAt start key) fact.merits else meritsAt start key := by
      unfold meritsAt
      rw [find?_addFact]
      split
      · cases start.find? (·.key = key) <;> rfl
      · rfl
    rw [List.foldl_cons, ih, hadd]
    by_cases hsame : fact.key = key <;> simp [contributions, hsame]

instance : RightCommutative addMerits where
  right_comm merits a b := by
    have hset (x y z : List String) :
        sortedSet (sortedSet (x ++ y) ++ z) = sortedSet (sortedSet (x ++ z) ++ y) :=
      sortedSet_eq_iff.mpr fun text => by
        simp only [List.mem_append, mem_sortedSet]
        tauto
    have hswap (x y : List String) : sortedSet (x ++ y) = sortedSet (y ++ x) :=
      sortedSet_eq_iff.mpr fun text => by simp only [List.mem_append, or_comm]
    cases merits with
    | none => simp [addMerits, max_comm a.1, add_comm a.2.1, hswap a.2.2]
    | some current => simp [addMerits, max_right_comm, add_right_comm, hset]

variable {start : List Fact}

theorem nodup_foldl_addFact (h : (start.map Fact.key).Nodup) :
    ((facts.foldl addFact start).map Fact.key).Nodup := by
  induction facts generalizing start with
  | nil => exact h
  | cons fact rest ih =>
    apply ih
    rw [keys_addFact]
    split
    · exact h
    · next hnew => exact (List.concat_eq_append ▸ List.Nodup.concat hnew h)

theorem keys_foldl_addFact_subset :
    (facts.foldl addFact start).map Fact.key ⊆ (start ++ facts).map Fact.key := by
  induction facts generalizing start with
  | nil => simp
  | cons fact rest ih =>
    intro k hk
    have hmem := ih hk
    simp only [List.map_append, List.mem_append, keys_addFact, List.map_cons,
      List.mem_cons] at hmem ⊢
    grind

theorem perm_dedupeFacts : (dedupeFacts facts).Perm (facts.foldl addFact []) :=
  List.perm_insertionSort _ _

theorem nodup_dedupeFacts : ((dedupeFacts facts).map Fact.key).Nodup :=
  (perm_dedupeFacts.map _).nodup_iff.mpr (nodup_foldl_addFact List.nodup_nil)

theorem Few.mono (h : Few facts) (hsub : others.map Fact.key ⊆ facts.map Fact.key) :
    Few others := by
  have hsub : (others.map Fact.key).dedup ⊆ (facts.map Fact.key).dedup := fun k hk =>
    List.mem_dedup.mpr (hsub (List.mem_dedup.mp hk))
  exact ((List.nodup_dedup _).subperm hsub).length_le.trans h

theorem take_dedupeFacts (h : Few facts) :
    (dedupeFacts facts).take maxActiveFactsPerService = dedupeFacts facts := by
  apply List.take_of_length_le
  have hsub : (dedupeFacts facts).map Fact.key ⊆ (facts.map Fact.key).dedup := by
    intro k hk
    have hmem := keys_foldl_addFact_subset ((perm_dedupeFacts.map _).mem_iff.mp hk)
    simpa using hmem
  have hle := (nodup_dedupeFacts.subperm hsub).length_le
  rw [List.length_map] at hle
  exact hle.trans h

theorem meritsAt_perm (h : facts.Perm others) (hnodup : (facts.map Fact.key).Nodup) :
    meritsAt facts key = meritsAt others key := by
  have hfind : facts.find? (·.key = key) = others.find? (·.key = key) := by
    have hnodup' := (h.map Fact.key).nodup_iff.mp hnodup
    have hof {list : List Fact} (hn : (list.map Fact.key).Nodup) {fact : Fact}
        (hmem : fact ∈ list) (hkey : fact.key = key) :
        list.find? (·.key = key) = some fact := by
      induction list with
      | nil => cases hmem
      | cons first rest ih => grind
    cases hfound : facts.find? (·.key = key) with
    | none => grind [List.find?_eq_none, List.Perm.mem_iff]
    | some fact =>
      have hmem := List.mem_of_find?_eq_some hfound
      have hkey := List.find?_some hfound
      exact (hof hnodup' (h.mem_iff.mp hmem) (by simpa using hkey)).symm
  rw [meritsAt, hfind, meritsAt]

theorem meritsAt_dedupeFacts :
    meritsAt (dedupeFacts facts) key = (contributions facts key).foldl addMerits none := by
  rw [meritsAt_perm perm_dedupeFacts nodup_dedupeFacts, meritsAt_foldl_addFact]
  rfl

end

section

variable {reading : NumberReading} {call other : Call} {s t : Store}
  {facts active later : List Fact} {key : String × String}
  {result : List Fact × List Fact} {candidate : Candidate} {fact : Fact}

/-- What a call reports does not depend on the store. -/
theorem perform_iff :
    call.perform reading s = .ok (result, t) ↔
      (call.candidates reading >>= sortOut reading call.scope) = .ok result ∧
        absorb s call.scope.service result.1 = t := by
  unfold Call.perform ActiveMemory.compact
  cases hcand : call.candidates reading with
  | error e => simp
  | ok candidates =>
    cases hsort : sortOut reading call.scope candidates with
    | error e => simp [hsort]
    | ok sorted =>
      simp only [ok_bind, hsort, pure, Except.pure, Except.ok.injEq, Prod.mk.injEq]
      grind

variable {service : String}

theorem confident_of_isActiveFact {runId : Option String} {ids : List String}
    (h : normalizeFact reading service runId ids candidate = .ok fact)
    (hactive : isActiveFact fact = true) : fact.Confident := by
  obtain ⟨confidence, -, h⟩ := bind_ok h
  obtain ⟨count, -, h⟩ := bind_ok h
  obtain rfl := Except.ok.inj h
  have hle : clampConfidence confidence ≤ 1 := by
    cases confidence with
    | finite value => exact max_le zero_le_one (min_le_right value 1)
    | infinite neg => cases neg <;> simp [clampConfidence]
    | nan => exact zero_le_one
  simp only [isActiveFact, Bool.and_eq_true, decide_eq_true_eq] at hactive
  exact ⟨hactive.2, hle⟩

/-- Each round of a loop that succeeds has its result. -/
theorem mem_of_mapM {f : Candidate → Except PyError Fact} {candidates : List Candidate}
    (h : candidates.mapM f = .ok facts) (hmem : candidate ∈ candidates)
    (hfact : f candidate = .ok fact) : fact ∈ facts := by
  induction candidates generalizing facts with
  | nil => cases hmem
  | cons first rest ih =>
    rw [List.mapM_cons] at h
    obtain ⟨head, hhead, h⟩ := bind_ok h
    obtain ⟨tail, htail, h⟩ := bind_ok h
    obtain rfl := Except.ok.inj h
    rcases List.mem_cons.mp hmem with rfl | hmem
    · obtain rfl := Except.ok.inj (hfact.symm.trans hhead)
      exact List.mem_cons_self
    · exact List.mem_cons_of_mem head (ih htail hmem)

/-- The reported facts are those that pass `_is_active_fact`. -/
theorem active_spec (h : (call.candidates reading >>= sortOut reading call.scope) = .ok result) :
    (∀ fact ∈ result.1, fact.Confident) ∧
      (result.1 = [] ↔ Quiet reading call) := by
  obtain ⟨candidates, hcandidates, h⟩ := bind_ok h
  obtain ⟨normalized, hnormalized, h⟩ := bind_ok h
  obtain rfl := Except.ok.inj h
  constructor
  · intro fact hmem
    obtain ⟨hmem, hactive⟩ := List.mem_filter.mp hmem
    obtain ⟨candidate, -, hfact⟩ := exists_of_mem_mapM hnormalized hmem
    exact confident_of_isActiveFact hfact hactive
  · simp only [Quiet, hcandidates, Except.ok.injEq, forall_eq', List.filter_eq_nil_iff,
      Bool.not_eq_true]
    constructor
    · intro hnone candidate hmem fact hfact
      exact hnone fact (mem_of_mapM hnormalized hmem hfact)
    · intro hquiet fact hmem
      obtain ⟨candidate, hcandidate, hfact⟩ := exists_of_mem_mapM hnormalized hmem
      exact hquiet candidate hcandidate fact hfact

theorem confident_foldl_addFact {start : List Fact} (hstart : ∀ fact ∈ start, fact.Confident)
    (h : ∀ fact ∈ facts, fact.Confident) : ∀ fact ∈ facts.foldl addFact start, fact.Confident := by
  have hadd {list : List Fact} {fact : Fact} (hfact : fact.Confident)
      (hlist : ∀ old ∈ list, old.Confident) :
      ∀ new ∈ addFact list fact, new.Confident := by
    induction list with
    | nil => simpa [addFact] using hfact
    | cons current rest ih =>
      obtain ⟨hcurrent, hrest⟩ := List.forall_mem_cons.mp hlist
      by_cases hsame : current.key = fact.key
      · rw [addFact, if_pos hsame, List.forall_mem_cons]
        exact ⟨⟨hcurrent.1.trans (le_max_left _ _), max_le hcurrent.2 hfact.2⟩, hrest⟩
      · rw [addFact, if_neg hsame, List.forall_mem_cons]
        exact ⟨hcurrent, ih hrest⟩
  induction facts generalizing start with
  | nil => exact hstart
  | cons fact rest ih =>
    exact ih (hadd (h fact List.mem_cons_self) hstart)
      fun later hmem => h later (List.mem_cons_of_mem fact hmem)

theorem compacted_take (hs : Compacted facts)
    (h : ∀ fact ∈ active, fact.Confident) :
    Compacted ((dedupeFacts (facts ++ active)).take maxActiveFactsPerService) where
  distinct := nodup_dedupeFacts.sublist ((List.take_sublist _ _).map _)
  bounded := List.length_take_le _ _
  confident fact hmem := by
    have hmem := perm_dedupeFacts.mem_iff.mp (List.mem_of_mem_take hmem)
    exact confident_foldl_addFact (by simp) (by
      intro fact hmem
      exact (List.mem_append.mp hmem).elim (hs.confident fact) (h fact)) fact hmem
  sorted := (List.pairwise_insertionSort _ _).sublist (List.take_sublist _ _)

theorem reached_compacted (h : Reached reading s) (service : String) : Compacted (s service) := by
  induction h with
  | empty => exact ⟨by simp, by simp, by simp, by simp⟩
  | @call s t call result hreached hstep ih =>
    obtain ⟨hresult, rfl⟩ := perform_iff.mp hstep
    by_cases hservice : service = call.scope.service
    · subst hservice
      rw [absorb, Function.update_self]
      exact compacted_take ih (active_spec hresult).1
    · rw [absorb, Function.update_of_ne hservice]
      exact ih

theorem foldl_addFact_of_nodup {start : List Fact} (h : ((start ++ facts).map Fact.key).Nodup) :
    facts.foldl addFact start = start ++ facts := by
  have hnew {list : List Fact} {fact : Fact} (hmem : fact.key ∉ list.map Fact.key) :
      addFact list fact = list ++ [fact] := by
    induction list with
    | nil => rfl
    | cons current rest ih => grind [addFact]
  induction facts generalizing start with
  | nil => simp
  | cons fact rest ih =>
    have hmem : fact.key ∉ start.map Fact.key := by
      intro hmem
      rw [List.map_append, List.map_cons, List.nodup_append] at h
      exact h.2.2 _ hmem _ List.mem_cons_self rfl
    rw [List.foldl_cons, hnew hmem, ih (by simpa using h)]
    simp

theorem absorb_nil (h : Compacted (s service)) : absorb s service [] = s := by
  have hmerge : dedupeFacts (s service) = s service := by
    rw [dedupeFacts, @foldl_addFact_of_nodup _ [] (by simpa using h.distinct)]
    exact h.sorted.insertionSort_eq
  rw [absorb, List.append_nil, hmerge, List.take_of_length_le h.bounded, Function.update_eq_self]

/-- Merging twice is merging everything once. -/
theorem meritsAt_dedupeFacts_append :
    meritsAt (dedupeFacts (dedupeFacts facts ++ later)) key =
      (contributions (facts ++ later) key).foldl addMerits none := by
  have hfirst : (contributions (dedupeFacts facts) key).foldl addMerits none =
      (contributions facts key).foldl addMerits none := by
    rw [← meritsAt_dedupeFacts, ← meritsAt_dedupeFacts,
      meritsAt_perm perm_dedupeFacts nodup_dedupeFacts]
    rw [foldl_addFact_of_nodup (by simpa using nodup_dedupeFacts), List.nil_append]
  rw [meritsAt_dedupeFacts, contributions_append, contributions_append, List.foldl_append,
    List.foldl_append, hfirst]

/-- The merits after two calls for a service, when no fact is cut off. -/
theorem meritsAt_absorb_absorb (h : Few (s service ++ active ++ later)) :
    meritsAt (absorb (absorb s service active) service later service) key =
      (contributions (s service ++ active ++ later) key).foldl addMerits none := by
  have hfew : Few (s service ++ active) := h.mono (by simp)
  rw [absorb, Function.update_self, absorb, Function.update_self, take_dedupeFacts hfew,
    take_dedupeFacts (h.mono ?_), meritsAt_dedupeFacts_append]
  intro k hk
  rw [List.map_append, List.mem_append] at hk ⊢
  refine hk.imp_left fun hk => ?_
  simpa using keys_foldl_addFact_subset ((perm_dedupeFacts.map _).mem_iff.mp hk)

/-- Two calls for a service may be made in either order. -/
theorem meritsAt_absorb_comm (h : Few (s service ++ active ++ later)) :
    meritsAt (absorb (absorb s service active) service later service) key =
      meritsAt (absorb (absorb s service later) service active service) key := by
  have hperm : (s service ++ active ++ later).Perm (s service ++ later ++ active) := by
    simpa using List.perm_append_comm.append_left (s service)
  rw [meritsAt_absorb_absorb h, meritsAt_absorb_absorb (h.mono (hperm.map _).symm.subset)]
  exact List.Perm.foldl_eq ((hperm.filter _).map _) none

/-- Merging contributions with positive counts raises a count. -/
theorem count_lt_foldl_addMerits {merits : Option (ℚ × Int × List String)}
    {next : ℚ × Int × List String} {more : List (ℚ × Int × List String)}
    (h : ∀ one ∈ next :: more, 0 < one.2.1) :
    ∃ sum, (next :: more).foldl addMerits merits = some sum ∧
      ∀ old, merits = some old → old.2.1 < sum.2.1 := by
  obtain ⟨hnext, hmore⟩ := List.forall_mem_cons.mp h
  induction more generalizing merits next with
  | nil =>
    refine ⟨_, rfl, ?_⟩
    rintro old rfl
    exact lt_add_of_pos_right _ hnext
  | cons second rest ih =>
    obtain ⟨hsecond, hrest⟩ := List.forall_mem_cons.mp hmore
    obtain ⟨sum, hsum, hlt⟩ := @ih (addMerits merits next) second hmore hsecond hrest
    refine ⟨sum, hsum, ?_⟩
    rintro old rfl
    exact (lt_add_of_pos_right _ hnext).trans (hlt _ rfl)

/-- Facts that count are counted again when they are merged again. -/
theorem absorb_absorb_ne (hfew : Few (s service ++ active))
    (hactive : active ≠ []) (hcount : ∀ fact ∈ active, 0 < fact.reinforcementCount) :
    absorb (absorb s service active) service active ≠ absorb s service active := by
  obtain ⟨fact, rest, rfl⟩ := List.exists_cons_of_ne_nil hactive
  intro heq
  have hfew' : Few (s service ++ fact :: rest ++ fact :: rest) := hfew.mono (by simp)
  have hsame := @meritsAt_absorb_absorb s (fact :: rest) (fact :: rest) fact.key service hfew'
  rw [heq, absorb, Function.update_self, take_dedupeFacts hfew, meritsAt_dedupeFacts,
    contributions_append, contributions_append, contributions_append, List.foldl_append,
    List.foldl_append, List.foldl_append] at hsame
  have hmore : contributions (fact :: rest) fact.key =
      fact.merits :: contributions rest fact.key := by simp [contributions]
  have hpos : ∀ one ∈ contributions (fact :: rest) fact.key, 0 < one.2.1 := by
    intro one hone
    obtain ⟨other, hother, rfl⟩ := List.mem_map.mp hone
    exact hcount other (List.mem_of_mem_filter hother)
  rw [hmore] at hsame hpos
  -- the counts after the first call and after the second one
  obtain ⟨once, honce, -⟩ := @count_lt_foldl_addMerits
    ((contributions (s service) fact.key).foldl addMerits none) _ _ hpos
  obtain ⟨twice, htwice, hlt⟩ := @count_lt_foldl_addMerits (some once) _ _ hpos
  rw [honce, htwice] at hsame
  exact (hlt once rfl).ne (congrArg (·.2.1) (Option.some.inj hsame))

/-- The facts of a service stay compacted, calls commute when no fact is cut off, and a repeated
call changes nothing when, and for few facts only when, no candidate is active. -/
theorem repeated_call_counts_iff (h : Reached reading s) {result : List Fact × List Fact}
    (hcall : call.perform reading s = .ok (result, t)) :
    (∀ service, Compacted (t service)) ∧
    (∀ service, service ≠ call.scope.service → t service = s service) ∧
    (∀ (other : Call) result' t₂ u u₂, other.scope.service = call.scope.service →
      other.perform reading t = .ok (result', t₂) →
      other.perform reading s = .ok (result', u) → call.perform reading u = .ok (result, u₂) →
      Few (s call.scope.service ++ result.1 ++ result'.1) →
      ∀ key, meritsAt (t₂ call.scope.service) key = meritsAt (u₂ call.scope.service) key) ∧
    (∃ t₂, call.perform reading t = .ok (result, t₂) ∧
      (Quiet reading call → t₂ = t) ∧
      (Few (s call.scope.service ++ result.1) →
        (∀ fact ∈ result.1, 0 < fact.reinforcementCount) → (t₂ = t ↔ Quiet reading call))) := by
  have hcompacted := reached_compacted (h.call hcall)
  obtain ⟨hresult, rfl⟩ := perform_iff.mp hcall
  refine ⟨hcompacted, fun service hservice => Function.update_of_ne hservice _ _, ?_,
    _, perform_iff.mpr ⟨hresult, rfl⟩, ?_⟩
  · intro other result' t₂ u u₂ hservice ht₂ hu hu₂ hfew key
    obtain ⟨-, rfl⟩ := perform_iff.mp ht₂
    obtain ⟨-, rfl⟩ := perform_iff.mp hu
    obtain ⟨-, rfl⟩ := perform_iff.mp hu₂
    rw [hservice]
    exact meritsAt_absorb_comm hfew
  · have hquiet := (active_spec hresult).2
    have hsame (hnil : result.1 = []) :
        absorb (absorb s call.scope.service result.1) call.scope.service result.1 =
          absorb s call.scope.service result.1 := by
      rw [hnil] at hcompacted ⊢
      exact absorb_nil (hcompacted _)
    refine ⟨fun hq => hsame (hquiet.mpr hq), fun hfew hcount =>
      ⟨fun heq => hquiet.mp ?_, fun hq => hsame (hquiet.mpr hq)⟩⟩
    by_contra hactive
    exact absorb_absorb_ne hfew hactive hcount heq

end

def latencyCall : Call :=
  .compact ⟨some "run_1", "api", ["evt_1"]⟩
    [⟨[("content", .str "latency doubled"), ("confidence", .int 1)], []⟩]

/-- Texts are never read as numbers. -/
def noReading : NumberReading := ⟨fun _ => none, fun _ => none⟩

def latencyFact (count : Int) : Fact where
  factId := none
  service := "api"
  kind := "observation"
  content := "latency doubled"
  confidence := 1
  sourceRunId := .str "run_1"
  sourceEventIds := ["evt_1"]
  createdAt := none
  reinforcementCount := count

theorem latencyCall_perform (s : Store) : latencyCall.perform noReading s =
    .ok (([latencyFact 1], []), absorb s "api" [latencyFact 1]) :=
  perform_iff.mpr ⟨by decide +kernel, rfl⟩

theorem repeated_call_counts_latency :
    Reached noReading (fun _ => []) ∧
      ∃ t₂, latencyCall.perform noReading (absorb (fun _ => []) "api" [latencyFact 1]) =
        .ok (([latencyFact 1], []), t₂) ∧
        (t₂ = absorb (fun _ => []) "api" [latencyFact 1] ↔ Quiet noReading latencyCall) := by
  obtain ⟨-, -, -, t₂, hperform, -, hiff⟩ :=
    repeated_call_counts_iff .empty (latencyCall_perform fun _ => [])
  exact ⟨.empty, t₂, hperform, hiff (by unfold Few; decide +kernel) (by simp [latencyFact])⟩

/-- The same evidence reinforces the fact a second time. -/
theorem same_evidence_counts_twice :
    ¬ ∀ (reading : NumberReading) (call : Call) (s t u : Store) (result : List Fact × List Fact),
      Reached reading s → call.perform reading s = .ok (result, t) →
      call.perform reading t = .ok (result, u) → u = t := by
  intro hclaim
  have hsame := hclaim noReading latencyCall _ _ _ _ .empty (latencyCall_perform _)
    (latencyCall_perform _)
  exact absurd (congrFun hsame "api") (by
    unfold absorb
    decide +kernel)

end OrbitalMesh.ActiveMemory
