import OrbitalMesh.Base.Binary64
import OrbitalMesh.Runtime
import Mathlib.Data.List.Induction

/-!
# The signal correlator

The watch daemon tells the correlator of every signal it makes a run for.  The correlator keeps
the signals of the last seconds in a window and says how a new one relates to those before it.

A *workload* is a namespace and the name of a deployment in it.  The correlator compares names
alone, and it counts signals where it could count deployments.  `correlates_workloads_iff` says
for which windows this makes no difference.
-/

namespace OrbitalMesh.SignalCorrelator

/-- `correlation_type`. -/
inductive CorrelationType where
  | none
  | cascading
  | sameNamespace
  | blastWave
deriving DecidableEq

/-- How far a failure has spread. -/
def CorrelationType.rank : CorrelationType → Nat
  | .none => 0
  | .cascading => 1
  | .sameNamespace => 2
  | .blastWave => 3

structure SignalRecord where
  timestamp : ℚ
  deploymentName : String
  «namespace» : String
  service : String
  errorSignature : String
deriving DecidableEq

def SignalRecord.workload (r : SignalRecord) : String × String := (r.namespace, r.deploymentName)

/-- `_record_to_dict`. -/
structure CorrelatedSignal where
  deploymentName : String
  «namespace» : String
  service : String
  errorSignature : String

def recordToDict (r : SignalRecord) : CorrelatedSignal where
  deploymentName := r.deploymentName
  «namespace» := r.namespace
  service := r.service
  errorSignature := r.errorSignature

structure CorrelationContext where
  correlationType : CorrelationType
  affectedServices : List String := []
  correlatedSignals : List CorrelatedSignal := []
  correlationConfidence : Binary64 := .finite 0

/-- What `__init__` stores, but for the window. -/
structure Settings where
  windowSeconds : Int
  minSignals : Int
  ten_le : 10 ≤ windowSeconds
  two_le : 2 ≤ minSignals

/-- `SignalCorrelator.__init__`. -/
def Settings.make (windowSeconds minSignals : Int) : Settings where
  windowSeconds := max windowSeconds 10
  minSignals := max minSignals 2
  ten_le := le_max_right _ _
  two_le := le_max_right _ _

/-- A signal of another deployment in the namespace of `current`. -/
def beside (current r : SignalRecord) : Bool :=
  r.namespace == current.namespace && r.deploymentName != current.deploymentName

/-- The services of `current` and of the given signals. -/
def services (current : SignalRecord) (counted : List SignalRecord) : List String :=
  current.service :: counted.map (·.service)

variable (settings : Settings)

/-- `_analyse`, where `others` is the window without `current`. -/
def analyse (others : List SignalRecord) (current : SignalRecord) :
    CorrelationContext :=
  if others.isEmpty then { correlationType := .none }
  else
    let sameNamespace := others.filter (beside current)
    let differentNamespace := others.filter fun r => r.namespace != current.namespace
    let totalAffected := (services current others).dedup.length
    if totalAffected ≥ 3 ∧ differentNamespace.length ≥ 1 then {
      correlationType := .blastWave
      affectedServices := sortedSet (services current others)
      correlatedSignals := others.map recordToDict
      correlationConfidence := Binary64.least 0.9
        (Binary64.add 0.5 (Binary64.mul 0.1 (Binary64.nearest totalAffected))) }
    else if (sameNamespace.length : Int) ≥ settings.minSignals - 1 then {
      correlationType := .sameNamespace
      affectedServices := sortedSet (services current sameNamespace)
      correlatedSignals := sameNamespace.map recordToDict
      correlationConfidence := Binary64.least 0.8
        (Binary64.add 0.4 (Binary64.mul 0.15 (Binary64.nearest sameNamespace.length))) }
    else
      let otherDeployments := others.filter fun r => r.deploymentName != current.deploymentName
      if otherDeployments.isEmpty then { correlationType := .none }
      else {
        correlationType := .cascading
        affectedServices := sortedSet (services current otherDeployments)
        correlatedSignals := otherDeployments.map recordToDict
        correlationConfidence := 0.5 }

/-- `r.timestamp >= cutoff` at the time `now`. -/
def Settings.recent (now : ℚ) (r : SignalRecord) : Bool :=
  decide (now - settings.windowSeconds ≤ r.timestamp)

def prune (now : ℚ) (window : List SignalRecord) : List SignalRecord :=
  window.filter (settings.recent now)

/-- `correlate`: the answer and the new window, whose last record is the one it makes of its
arguments. -/
def correlate (window : List SignalRecord) (record : SignalRecord) :
    CorrelationContext × List SignalRecord :=
  let pruned := prune settings record.timestamp window
  (analyse settings pruned record, pruned ++ [record])

def windowAfter (calls : List SignalRecord) : List SignalRecord :=
  calls.foldl (fun window record => (correlate settings window record).2) []

/-- The answer to `current` after a sequence of calls on a new correlator. -/
def answer (calls : List SignalRecord) (current : SignalRecord) :
    CorrelationContext :=
  (correlate settings (windowAfter settings calls) current).1

section

variable {settings : Settings} {others others' : List SignalRecord}
  {current extra : SignalRecord}

def Spread (current : SignalRecord) (others : List SignalRecord) : Prop :=
  3 ≤ (services current others).dedup.length ∧ ∃ r ∈ others, r.namespace ≠ current.namespace

instance : Decidable (Spread current others) := by
  unfold Spread
  infer_instance

/-- So many signals of other deployments stand in the namespace of `current` as the settings ask
for. -/
def Gathered (settings : Settings) (current : SignalRecord) (others : List SignalRecord) : Prop :=
  settings.minSignals - 1 ≤ (others.filter (beside current)).length

instance : Decidable (Gathered settings current others) := by
  unfold Gathered
  infer_instance

def OtherName (current : SignalRecord) (others : List SignalRecord) : Prop :=
  ∃ r ∈ others, r.deploymentName ≠ current.deploymentName

instance : Decidable (OtherName current others) := by
  unfold OtherName
  infer_instance

/-- `r` is among the signals that the answer lists. -/
def counts (settings : Settings) (current : SignalRecord) (others : List SignalRecord)
    (r : SignalRecord) : Bool :=
  if Spread current others then true
  else if Gathered settings current others then beside current r
  else r.deploymentName != current.deploymentName

theorem beside_iff : beside current extra = true ↔
    extra.namespace = current.namespace ∧ extra.deploymentName ≠ current.deploymentName := by
  simp [beside]

theorem Gathered.otherName (h : Gathered settings current others) : OtherName current others := by
  have htwo := settings.two_le
  unfold Gathered at h
  obtain ⟨r, hr⟩ : ∃ r, r ∈ others.filter (beside current) :=
    List.exists_mem_of_length_pos (by omega)
  obtain ⟨hmem, hbeside⟩ := List.mem_filter.mp hr
  exact ⟨r, hmem, (beside_iff.mp hbeside).2⟩

theorem analyse_eq (settings : Settings) (others : List SignalRecord) (current : SignalRecord) :
    ((analyse settings others current).correlationType,
      (analyse settings others current).affectedServices) =
      if Spread current others then (.blastWave, sortedSet (services current others))
      else if Gathered settings current others then
        (.sameNamespace, sortedSet (services current (others.filter (beside current))))
      else if OtherName current others then
        (.cascading, sortedSet (services current
          (others.filter fun r => r.deploymentName != current.deploymentName)))
      else (.none, []) := by
  have hsome : ∀ p : SignalRecord → Bool,
      1 ≤ (others.filter p).length ↔ ∃ r ∈ others, p r = true := by
    intro p
    rw [Nat.one_le_iff_ne_zero, ← Nat.pos_iff_ne_zero, List.length_pos_iff_exists_mem]
    simp [List.mem_filter]
  unfold analyse
  by_cases hempty : others = []
  · subst hempty
    have hgathered : ¬ Gathered settings current [] := fun h => by
      obtain ⟨r, hr, -⟩ := h.otherName
      exact absurd hr (by simp)
    simp [Spread, OtherName, hgathered]
  · have hspread : ((services current others).dedup.length ≥ 3 ∧
        (others.filter fun r => r.namespace != current.namespace).length ≥ 1) ↔
          Spread current others := by
      simp [Spread, hsome, ge_iff_le]
    have hgathered : ((others.filter (beside current)).length : Int) ≥ settings.minSignals - 1 ↔
        Gathered settings current others := Iff.rfl
    have hother : (others.filter fun r => r.deploymentName != current.deploymentName).isEmpty =
        !decide (OtherName current others) := by
      rw [Bool.eq_iff_iff, Bool.not_eq_true', decide_eq_false_iff_not]
      simp [OtherName, List.filter_eq_nil_iff]
    rw [if_neg (by simpa using hempty)]
    simp only [hspread, hgathered, hother]
    by_cases hone : Spread current others
    · simp [hone]
    · by_cases htwo : Gathered settings current others
      · simp [hone, htwo]
      · by_cases hthree : OtherName current others
        · simp [hone, htwo, hthree]
        · simp [hone, htwo, hthree]

/-- The type of an answer is that of the first test that holds. -/
theorem analyse_type (settings : Settings) (others : List SignalRecord) (current : SignalRecord) :
    (analyse settings others current).correlationType =
      if Spread current others then .blastWave
      else if Gathered settings current others then .sameNamespace
      else if OtherName current others then .cascading
      else .none := by
  have h := congrArg Prod.fst (analyse_eq settings others current)
  rw [apply_ite Prod.fst, apply_ite Prod.fst, apply_ite Prod.fst] at h
  exact h

theorem analyse_affectedServices (settings : Settings) (others : List SignalRecord)
    (current : SignalRecord) :
    (analyse settings others current).affectedServices =
      if (analyse settings others current).correlationType = .none then []
      else sortedSet (services current (others.filter (counts settings current others))) := by
  have heq := analyse_eq settings others current
  unfold counts
  by_cases hone : Spread current others
  · rw [if_pos hone, Prod.mk.injEq] at heq
    simp [heq, hone]
  · by_cases htwo : Gathered settings current others
    · rw [if_neg hone, if_pos htwo, Prod.mk.injEq] at heq
      simp [heq, hone, htwo]
    · by_cases hthree : OtherName current others
      · rw [if_neg hone, if_neg htwo, if_pos hthree, Prod.mk.injEq] at heq
        simp [heq, hone, htwo]
      · rw [if_neg hone, if_neg htwo, if_neg hthree, Prod.mk.injEq] at heq
        simp [heq]

theorem analyse_none_iff : (analyse settings others current).correlationType = .none ↔
    ¬ Spread current others ∧ ¬ OtherName current others := by
  rw [analyse_type]
  by_cases hone : Spread current others
  · simp [hone]
  · by_cases htwo : Gathered settings current others
    · simp [hone, htwo, htwo.otherName]
    · by_cases hthree : OtherName current others
      · simp [hone, htwo, hthree]
      · simp [hone, htwo, hthree]

section

variable (h : others.Perm others')

include h

theorem services_perm :
    (services current others).Perm (services current others') := (h.map _).cons _

theorem spread_perm : Spread current others ↔ Spread current others' := by
  unfold Spread
  rw [((services_perm h).dedup).length_eq]
  simp only [h.mem_iff]

theorem gathered_perm : Gathered settings current others ↔ Gathered settings current others' := by
  unfold Gathered
  rw [((h.filter _)).length_eq]

theorem otherName_perm : OtherName current others ↔ OtherName current others' := by
  unfold OtherName
  simp only [h.mem_iff]

theorem counts_perm : counts settings current others = counts settings current others' := by
  funext r
  simp only [counts, spread_perm h, gathered_perm h]

end

def SameAnswer (a b : CorrelationContext) : Prop :=
  a.correlationType = b.correlationType ∧ a.affectedServices = b.affectedServices

instance (a b : CorrelationContext) : Decidable (SameAnswer a b) := by
  unfold SameAnswer
  infer_instance

/-- An answer does not depend on the order of the signals before it. -/
theorem analyse_perm (h : others.Perm others') :
    SameAnswer (analyse settings others current) (analyse settings others' current) := by
  have htype : (analyse settings others current).correlationType =
      (analyse settings others' current).correlationType := by
    simp only [analyse_type, spread_perm h, gathered_perm h, otherName_perm h]
  refine ⟨htype, ?_⟩
  rw [analyse_affectedServices, analyse_affectedServices, htype, counts_perm h]
  refine congrArg (ite _ _) (sortedSet_eq_iff.mpr fun text => ?_)
  exact (services_perm (h.filter _)).mem_iff

theorem Spread.cons (h : Spread current others) (extra : SignalRecord) :
    Spread current (extra :: others) := by
  obtain ⟨hcount, r, hr, hne⟩ := h
  refine ⟨le_trans hcount ?_, r, List.mem_cons_of_mem _ hr, hne⟩
  have hsub : (services current others).dedup ⊆ (services current (extra :: others)).dedup := by
    intro text htext
    simp only [services, List.map_cons, List.mem_dedup, List.mem_cons] at htext ⊢
    exact htext.imp_right .inr
  exact ((List.nodup_dedup _).subperm hsub).length_le

theorem gathered_cons_iff : Gathered settings current (extra :: others) ↔
    Gathered settings current others ∨
      beside current extra = true ∧
        settings.minSignals - 1 = (others.filter (beside current)).length + 1 := by
  unfold Gathered
  rw [List.filter_cons]
  split
  · next h =>
    simp only [h, List.length_cons, true_and]
    omega
  · next h => simp [h]

theorem otherName_cons_iff : OtherName current (extra :: others) ↔
    extra.deploymentName ≠ current.deploymentName ∨ OtherName current others := by
  simp [OtherName]

/-- **One more signal never lowers the type.** -/
theorem rank_analyse_cons (extra : SignalRecord) :
    (analyse settings others current).correlationType.rank ≤
      (analyse settings (extra :: others) current).correlationType.rank := by
  have hspread : Spread current others → Spread current (extra :: others) := fun h => h.cons extra
  have hgathered : Gathered settings current others → Gathered settings current (extra :: others) :=
    fun h => gathered_cons_iff.mpr (.inl h)
  have hother : OtherName current others → OtherName current (extra :: others) :=
    fun h => otherName_cons_iff.mpr (.inr h)
  rw [analyse_type, analyse_type]
  by_cases hone : Spread current (extra :: others)
  · rw [if_pos hone]
    split
    · exact le_rfl
    · split
      · decide
      · split <;> decide
  · rw [if_neg hone, if_neg (mt hspread hone)]
    by_cases htwo : Gathered settings current (extra :: others)
    · rw [if_pos htwo]
      split
      · exact le_rfl
      · split <;> decide
    · rw [if_neg htwo, if_neg (mt hgathered htwo)]
      by_cases hthree : OtherName current (extra :: others)
      · rw [if_pos hthree]
        split <;> decide
      · rw [if_neg hthree, if_neg (mt hother hthree)]

/-- No third service, no signal where one was missing to the number asked for, and no service
that is not counted already. -/
structure Neutral (settings : Settings) (current : SignalRecord) (others : List SignalRecord)
    (extra : SignalRecord) : Prop where
  spread : Spread current (extra :: others) → Spread current others
  gathered : ¬ Spread current others → beside current extra = true →
    settings.minSignals - 1 ≠ (others.filter (beside current)).length + 1
  service : counts settings current others extra = true →
    extra.service ∈ services current (others.filter (counts settings current others))

section

variable (h : extra.workload ∈ (current :: others).map SignalRecord.workload)

include h

theorem otherName_of_repeat
    (hname : extra.deploymentName ≠ current.deploymentName) : OtherName current others := by
  obtain ⟨r, hr, heq⟩ := List.mem_map.mp h
  have hsame : r.deploymentName = extra.deploymentName := congrArg Prod.snd heq
  rcases List.mem_cons.mp hr with rfl | hr
  · exact absurd hsame.symm hname
  · exact ⟨r, hr, hsame ▸ hname⟩

theorem otherName_cons_of_repeat :
    OtherName current (extra :: others) ↔ OtherName current others := by
  rw [otherName_cons_iff]
  exact ⟨fun hor => hor.elim (otherName_of_repeat h) id, .inr⟩

theorem analyse_type_cons_iff :
    (analyse settings (extra :: others) current).correlationType =
        (analyse settings others current).correlationType ↔
      (Spread current (extra :: others) → Spread current others) ∧
        (¬ Spread current others → beside current extra = true →
          settings.minSignals - 1 ≠ (others.filter (beside current)).length + 1) := by
  rw [analyse_type, analyse_type]
  by_cases hone : Spread current others
  · simp [hone, hone.cons extra]
  · by_cases hcons : Spread current (extra :: others)
    · rw [if_pos hcons, if_neg hone]
      constructor
      · intro heq
        split at heq
        · cases heq
        · split at heq <;> cases heq
      · exact fun hboth => absurd (hboth.1 hcons) hone
    · simp only [hone, hcons, if_false, gathered_cons_iff, otherName_cons_of_repeat h,
        false_implies, true_and, not_false_eq_true, forall_const]
      by_cases htwo : Gathered settings current others
      · have hmissing : settings.minSignals - 1 ≠ (others.filter (beside current)).length + 1 := by
          unfold Gathered at htwo
          omega
        simp [htwo, hmissing]
      · simp only [htwo, false_or, if_false]
        by_cases hlast : beside current extra = true ∧
            settings.minSignals - 1 = (others.filter (beside current)).length + 1
        · rw [if_pos hlast]
          constructor
          · intro heq
            split at heq <;> cases heq
          · exact fun hne => absurd hlast.2 (hne hlast.1)
        · rw [if_neg hlast]
          exact ⟨fun _ hbeside heq => hlast ⟨hbeside, heq⟩, fun _ => rfl⟩

end

theorem counts_cons (hspread : Spread current (extra :: others) → Spread current others)
    (hgathered : ¬ Spread current others → beside current extra = true →
      settings.minSignals - 1 ≠ (others.filter (beside current)).length + 1) :
    counts settings current (extra :: others) = counts settings current others := by
  funext r
  unfold counts
  by_cases hone : Spread current others
  · rw [if_pos hone, if_pos (hone.cons extra)]
  · have hsame : Gathered settings current (extra :: others) ↔
        Gathered settings current others := by
      rw [gathered_cons_iff]
      exact ⟨fun hor => hor.elim id fun hlast => absurd hlast.2 (hgathered hone hlast.1), .inl⟩
    rw [if_neg hone, if_neg (mt hspread hone)]
    simp only [hsame]

/-- **A repeated signal leaves the answer as it is exactly when it is neutral.** -/
theorem sameAnswer_cons_iff
    (h : extra.workload ∈ (current :: others).map SignalRecord.workload) :
    SameAnswer (analyse settings (extra :: others) current) (analyse settings others current) ↔
      Neutral settings current others extra := by
  have hlisted : ∀ kept : SignalRecord → Bool, (sortedSet (services current
      ((extra :: others).filter kept)) = sortedSet (services current (others.filter kept)) ↔
        (kept extra = true → extra.service ∈ services current (others.filter kept))) := by
    intro kept
    rw [sortedSet_eq_iff, List.filter_cons]
    split
    · next hkept =>
      simp only [services, List.map_cons, List.mem_cons, hkept, forall_const]
      constructor
      · exact fun hall => (hall extra.service).mp (.inr (.inl rfl))
      · intro hin text
        constructor
        · rintro (rfl | rfl | hmem)
          · exact .inl rfl
          · exact hin
          · exact .inr hmem
        · exact fun hor => hor.imp_right .inr
    · next hkept => simp [hkept]
  have htypes := @analyse_type_cons_iff settings others current extra h
  constructor
  · rintro ⟨htype, hservices⟩
    obtain ⟨hspread, hgathered⟩ := htypes.mp htype
    refine ⟨hspread, hgathered, fun hcounted => ?_⟩
    have hsome : (analyse settings others current).correlationType ≠ .none := by
      intro hnone
      obtain ⟨hone, hthree⟩ := analyse_none_iff.mp hnone
      have htwo : ¬ Gathered settings current others := mt Gathered.otherName hthree
      unfold counts at hcounted
      rw [if_neg hone, if_neg htwo] at hcounted
      exact hthree (otherName_of_repeat h (by simpa using hcounted))
    rw [analyse_affectedServices, analyse_affectedServices, htype, if_neg hsome, if_neg hsome,
      counts_cons hspread hgathered] at hservices
    exact (hlisted _).mp hservices hcounted
  · rintro ⟨hspread, hgathered, hservice⟩
    have htype := htypes.mpr ⟨hspread, hgathered⟩
    refine ⟨htype, ?_⟩
    rw [analyse_affectedServices, analyse_affectedServices, htype, counts_cons hspread hgathered]
    exact congrArg (ite _ _) ((hlisted _).mpr hservice)

end

section

variable {settings : Settings} {calls before after : List SignalRecord}
  {current extra : SignalRecord}

theorem prune_windowAfter (settings : Settings) {calls : List SignalRecord} {now : ℚ}
    (hsorted : calls.Pairwise fun r r' => r.timestamp ≤ r'.timestamp)
    (hlast : ∀ r ∈ calls, r.timestamp ≤ now) :
    prune settings now (windowAfter settings calls) = calls.filter (settings.recent now) := by
  -- the last call prunes with an earlier cutoff than `now` does
  induction calls using List.reverseRecOn generalizing now with
  | nil => rfl
  | append_singleton calls r ih =>
    rw [List.pairwise_append] at hsorted
    have hstep : windowAfter settings (calls ++ [r]) =
        prune settings r.timestamp (windowAfter settings calls) ++ [r] := by
      simp [windowAfter, correlate]
    have hle : r.timestamp ≤ now := hlast r (by simp)
    rw [hstep, ih hsorted.1 fun x hx => hsorted.2.2 x hx r (by simp), prune, List.filter_append,
      List.filter_append, List.filter_filter]
    refine congrArg (· ++ [r].filter (settings.recent now)) (List.filter_congr fun x _ => ?_)
    simp only [Settings.recent, Bool.and_eq_left_iff_imp, decide_eq_true_eq]
    intro hx
    linarith

/-- **The window holds the signals of the last seconds.** -/
theorem windowAfter_append (settings : Settings)
    (hsorted : (calls ++ [current]).Pairwise fun r r' => r.timestamp ≤ r'.timestamp) :
    windowAfter settings (calls ++ [current]) =
      (calls ++ [current]).filter (settings.recent current.timestamp) := by
  have hparts := List.pairwise_append.mp hsorted
  have hstep : windowAfter settings (calls ++ [current]) =
      prune settings current.timestamp (windowAfter settings calls) ++ [current] := by
    simp [windowAfter, correlate]
  have hself : settings.recent current.timestamp current = true := by
    have hten : (10 : ℚ) ≤ settings.windowSeconds := by exact_mod_cast settings.ten_le
    simp only [Settings.recent, decide_eq_true_eq]
    linarith
  rw [hstep, prune_windowAfter settings hparts.1 fun x hx => hparts.2.2 x hx current (by simp),
    List.filter_append]
  simp [hself]

theorem answer_eq (settings : Settings)
    (hsorted : (calls ++ [current]).Pairwise fun r r' => r.timestamp ≤ r'.timestamp) :
    answer settings calls current =
      analyse settings (calls.filter (settings.recent current.timestamp)) current := by
  have hparts := List.pairwise_append.mp hsorted
  exact congrArg (analyse settings · current)
    (prune_windowAfter settings hparts.1 fun x hx => hparts.2.2 x hx current (by simp))

/-- What is asked of the answer to `current`, and of the one where `extra` is called before it. -/
structure CorrelatesWorkloads (settings : Settings) (before after : List SignalRecord)
    (extra current : SignalRecord) : Prop where
  window : windowAfter settings (before ++ after ++ [current]) =
    (before ++ after ++ [current]).filter (settings.recent current.timestamp)
  none_iff : (answer settings (before ++ after) current).correlationType = .none ↔
    ∀ r ∈ windowAfter settings (before ++ after ++ [current]), r.workload = current.workload
  repeated :
    extra.workload ∈
        (windowAfter settings (before ++ after ++ [current])).map SignalRecord.workload →
      SameAnswer (answer settings (before ++ extra :: after) current)
        (answer settings (before ++ after) current)
  fresh :
    extra.workload ∉
        (windowAfter settings (before ++ after ++ [current])).map SignalRecord.workload →
      (answer settings (before ++ after) current).correlationType.rank ≤
        (answer settings (before ++ extra :: after) current).correlationType.rank

/-- The calls that `current` still finds in the window. -/
def found (settings : Settings) (calls : List SignalRecord) (current : SignalRecord) :
    List SignalRecord :=
  calls.filter (settings.recent current.timestamp)

/-- Names and counts tell the correlator what workloads would, and a repeated signal is
neutral. -/
structure NamesTell (settings : Settings) (before after : List SignalRecord)
    (extra current : SignalRecord) : Prop where
  names : (∀ r ∈ found settings (before ++ after) current, r.workload = current.workload) ∨
    Spread current (found settings (before ++ after) current) ∨
    OtherName current (found settings (before ++ after) current)
  neutral : settings.recent current.timestamp extra = true →
    extra.workload ∈
        (current :: found settings (before ++ after) current).map SignalRecord.workload →
      Neutral settings current (found settings (before ++ after) current) extra

theorem analyse_none_iff_workload {others : List SignalRecord} :
    ((analyse settings others current).correlationType = .none ↔
        ∀ r ∈ others, r.workload = current.workload) ↔
      (∀ r ∈ others, r.workload = current.workload) ∨ Spread current others ∨
        OtherName current others := by
  rw [analyse_none_iff, ← not_or]
  by_cases hsame : ∀ r ∈ others, r.workload = current.workload
  · have hspread : ¬ Spread current others := fun ⟨_, r, hr, hne⟩ =>
      hne (congrArg Prod.fst (hsame r hr))
    have hother : ¬ OtherName current others := fun ⟨r, hr, hne⟩ =>
      hne (congrArg Prod.snd (hsame r hr))
    exact iff_of_true (iff_of_true (not_or.mpr ⟨hspread, hother⟩) hsame) (.inl hsame)
  · constructor
    · intro h
      exact .inr (not_not.mp fun hnone => hsame (h.mp hnone))
    · intro h
      exact iff_of_false (not_not.mpr (h.resolve_left hsame)) hsame

/-- **The correlator tells workloads apart exactly when names do.**  The window is that of the
last seconds, and one more signal never lowers the type. -/
theorem correlates_workloads_iff (settings : Settings) (before after : List SignalRecord)
    (extra current : SignalRecord)
    (hsorted : (before ++ extra :: after ++ [current]).Pairwise
      fun r r' => r.timestamp ≤ r'.timestamp) :
    CorrelatesWorkloads settings before after extra current ↔
      NamesTell settings before after extra current := by
  have hwithout : (before ++ after ++ [current]).Pairwise
      fun r r' => r.timestamp ≤ r'.timestamp :=
    hsorted.sublist (((List.sublist_cons_self extra after).append_left before).append_right _)
  have hanswer := answer_eq settings hwithout
  have hextra := answer_eq settings hsorted
  have hwindow := windowAfter_append settings hwithout
  have hself : settings.recent current.timestamp current = true := by
    have hmem : current ∈ windowAfter settings (before ++ after ++ [current]) := by
      simp [windowAfter, correlate]
    rw [hwindow] at hmem
    exact (List.mem_filter.mp hmem).2
  have hfound : windowAfter settings (before ++ after ++ [current]) =
      found settings (before ++ after) current ++ [current] := by
    rw [hwindow, List.filter_append]
    simp [found, hself]
  have hworkloads : ∀ workload,
      workload ∈ (windowAfter settings (before ++ after ++ [current])).map
          SignalRecord.workload ↔
        workload ∈ (current :: found settings (before ++ after) current).map
          SignalRecord.workload := by
    intro workload
    rw [hfound]
    simp only [List.map_append, List.mem_append, List.map_cons, List.mem_cons, List.map_nil,
      List.not_mem_nil, or_false]
    exact or_comm
  have hnone : (∀ r ∈ windowAfter settings (before ++ after ++ [current]),
      r.workload = current.workload) ↔
        ∀ r ∈ found settings (before ++ after) current, r.workload = current.workload := by
    rw [hfound]
    simp only [List.mem_append, List.mem_singleton]
    exact ⟨fun h r hr => h r (.inl hr), fun h r hr => hr.elim (h r) fun heq => heq ▸ rfl⟩
  -- one more signal found is as good as one before all others
  have hmore : settings.recent current.timestamp extra = true →
      SameAnswer (answer settings (before ++ extra :: after) current)
        (analyse settings (extra :: found settings (before ++ after) current) current) := by
    intro hrecent
    have hperm : ((before ++ extra :: after).filter (settings.recent current.timestamp)).Perm
        (extra :: found settings (before ++ after) current) := by
      rw [List.filter_append, List.filter_cons_of_pos hrecent, found, List.filter_append]
      exact List.perm_middle
    rw [hextra]
    exact analyse_perm hperm
  have hless : settings.recent current.timestamp extra = false →
      answer settings (before ++ extra :: after) current =
        answer settings (before ++ after) current := by
    intro hrecent
    rw [hextra, hanswer, List.filter_append, List.filter_append,
      List.filter_cons_of_neg (by simp [hrecent])]
  constructor
  · intro h
    refine ⟨?_, fun hrecent hin => ?_⟩
    · have hiff := h.none_iff
      rw [hanswer, hnone] at hiff
      exact analyse_none_iff_workload.mp hiff
    · have hsame := h.repeated ((hworkloads _).mpr hin)
      obtain ⟨htype, hservices⟩ := hmore hrecent
      rw [hanswer] at hsame
      exact (sameAnswer_cons_iff hin).mp
        ⟨htype.symm.trans hsame.1, hservices.symm.trans hsame.2⟩
  · intro h
    refine ⟨hwindow, ?_, fun hin => ?_, fun _ => ?_⟩
    · rw [hanswer, hnone]
      exact analyse_none_iff_workload.mpr h.names
    · cases hrecent : settings.recent current.timestamp extra with
      | false =>
        rw [hless hrecent]
        exact ⟨rfl, rfl⟩
      | true =>
        have hin' := (hworkloads _).mp hin
        obtain ⟨htype, hservices⟩ := (sameAnswer_cons_iff hin').mpr (h.neutral hrecent hin')
        obtain ⟨htype', hservices'⟩ := hmore hrecent
        rw [hanswer]
        exact ⟨htype'.trans htype, hservices'.trans hservices⟩
    · cases hrecent : settings.recent current.timestamp extra with
      | false => rw [hless hrecent]
      | true =>
        rw [(hmore hrecent).1, hanswer]
        exact rank_analyse_cons extra

end

def signalOf (timestamp : ℚ) (ns deploymentName : String) : SignalRecord where
  timestamp
  deploymentName
  «namespace» := ns
  service := deploymentName
  errorSignature := "crash_loop"

/-- Two deployments of one namespace and a repeated signal, told apart by their names. -/
theorem correlates_workloads_iff_prod :
    CorrelatesWorkloads (.make 300 2) [signalOf 0 "prod" "api"] [] (signalOf 10 "prod" "api")
        (signalOf 20 "prod" "db") ↔
      NamesTell (.make 300 2) [signalOf 0 "prod" "api"] [] (signalOf 10 "prod" "api")
        (signalOf 20 "prod" "db") :=
  correlates_workloads_iff (.make 300 2) [signalOf 0 "prod" "api"] [] (signalOf 10 "prod" "api")
    (signalOf 20 "prod" "db") (by decide +kernel)

/-- A failing deployment in another namespace is not seen where it has the same name. -/
theorem homonym_is_not_seen :
    ¬ ∀ (settings : Settings) (before after : List SignalRecord) (extra current : SignalRecord),
      ((before ++ extra :: after ++ [current]).Pairwise
        fun r r' => r.timestamp ≤ r'.timestamp) →
        CorrelatesWorkloads settings before after extra current := by
  intro hall
  have h := hall (.make 300 2) [signalOf 0 "staging" "api"] [] (signalOf 10 "staging" "api")
    (signalOf 20 "prod" "api") (by decide +kernel)
  have hnone : (answer (.make 300 2) [signalOf 0 "staging" "api"]
      (signalOf 20 "prod" "api")).correlationType = .none := by decide +kernel
  have hmem : signalOf 0 "staging" "api" ∈ windowAfter (.make 300 2)
      ([signalOf 0 "staging" "api"] ++ [] ++ [signalOf 20 "prod" "api"]) := by decide +kernel
  have hsame := h.none_iff.mp hnone _ hmem
  exact absurd hsame (by decide)

end OrbitalMesh.SignalCorrelator
