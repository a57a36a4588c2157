import OrbitalMesh.Memory.MemoryStores

/-!
# Where the memory stores agree

The two stores get the same calls.  As long as a supersession finds its claim among the
thousand that `get_claim` looks through, the tables hold the same claims and
relationships, and of the observations the first with each id.  What the queries answer
differs all the same, in what is selected, in the order, and in where the cut is made.
-/

namespace OrbitalMesh.MemoryStores

open Listings FileStateStore

def Fresh (postgres : Postgres) (file : MemoryTables) : Call → Prop
  | .appendObservation record => ∀ other ∈ file.observations,
      postgres.time other.createdAt ≠ postgres.time record.createdAt
  | .saveClaim record => ∀ other ∈ file.claims, other.claimId ≠ record.claimId →
      postgres.time other.updatedAt ≠ postgres.time record.updatedAt
  | .saveRelationship _ => True
  | .saveSupersession record => ∀ other ∈ file.claims, other.claimId ≠ record.oldClaimId →
      postgres.time other.updatedAt ≠ postgres.time record.createdAt

def Recent (file : MemoryTables) (c : ClaimRecord) : Prop :=
  (file.claims.filter fun other => c.updatedAt < other.updatedAt).length < 1000

def Met (file : MemoryTables) : Call → Prop
  | .saveSupersession record => ∀ c ∈ file.claims, c.claimId = record.oldClaimId → Recent file c
  | _ => True

/-- The runs of both stores on the same calls, which Postgres takes. -/
inductive Runs (postgres : Postgres) : MemoryTables → MemoryTables → Prop
  | start : Runs postgres {} {}
  | call {file tables tables' : MemoryTables} (call : Call)
      (earlier : Runs postgres file tables) (fresh : Fresh postgres file call)
      (met : Met file call) (taken : postgres.apply tables call = some tables') :
      Runs postgres (apply file call) tables'

def firsts (observations : List ObservationRecord) : List ObservationRecord :=
  observations.foldl (fun table o => insertNew ObservationRecord.observationId o table) []

/-- What the stores have in common. -/
structure Synced (postgres : Postgres) (file tables : MemoryTables) : Prop where
  claims : tables.claims = file.claims
  relationships : tables.relationships = file.relationships
  observations : tables.observations = firsts file.observations
  observationTimes : DistinctTimes (fun o => postgres.time o.createdAt) file.observations
  claimIds : (file.claims.map ClaimRecord.claimId).Nodup
  claimTimes : DistinctTimes (fun c => postgres.time c.updatedAt) file.claims
  relationshipIds : (file.relationships.map RelationshipRecord.relationshipId).Nodup

section

variable {postgres : Postgres} {file tables tables' : MemoryTables}

theorem Synced.claimTexts (h : Synced postgres file tables) :
    DistinctTimes ClaimRecord.updatedAt file.claims :=
  h.claimTimes.imp fun hne heq => hne (congrArg postgres.time heq)

theorem fileGetClaim_iff (hids : (file.claims.map ClaimRecord.claimId).Nodup)
    (htexts : DistinctTimes ClaimRecord.updatedAt file.claims) {claimId : String}
    {c : ClaimRecord} :
    getClaim file claimId = some c ↔
      c ∈ file.claims ∧ c.claimId = claimId ∧ Recent file c := by
  have hlist : listClaims file {} {} (some 1000) =
      (latest ClaimRecord.updatedAt file.claims).take 1000 := by
    have hall : file.claims.filter (fun c => claimScopeMatches c {} && claimMatches c {}) =
        file.claims := List.filter_eq_self.mpr fun _ _ => rfl
    unfold listClaims
    rw [hall]
    rfl
  have hnodup : (((latest ClaimRecord.updatedAt file.claims).take 1000).map
      ClaimRecord.claimId).Nodup :=
    ((List.take_sublist _ _).map _).nodup ((perm_latest.map _).nodup_iff.mpr hids)
  unfold getClaim
  rw [hlist, find?_eq_some_iff hnodup]
  constructor
  · rintro ⟨hmem, hid⟩
    have hstored : c ∈ file.claims := mem_latest.mp (List.mem_of_mem_take hmem)
    exact ⟨hstored, hid, (mem_take_latest_iff htexts hstored 1000).mp hmem⟩
  · rintro ⟨hstored, hid, hrecent⟩
    exact ⟨(mem_take_latest_iff htexts hstored 1000).mpr hrecent, hid⟩

variable {c : ClaimRecord}

theorem postgresGetClaim_iff (h : Synced postgres file tables) {claimId : String} :
    Postgres.getClaim tables claimId = some c ↔ c ∈ file.claims ∧ c.claimId = claimId := by
  unfold Postgres.getClaim
  rw [h.claims, find?_eq_some_iff h.claimIds]

/-- **`get_claim`** agrees on a claim exactly if it is recent. -/
theorem getClaim_agrees_iff (h : Synced postgres file tables) (claimId : String) :
    getClaim file claimId = Postgres.getClaim tables claimId ↔
      ∀ c ∈ file.claims, c.claimId = claimId → Recent file c := by
  constructor
  · intro hsame c hc hid
    have hfound := (postgresGetClaim_iff h).mpr ⟨hc, hid⟩
    rw [← hsame] at hfound
    exact ((fileGetClaim_iff h.claimIds h.claimTexts).mp hfound).2.2
  · intro hrecent
    refine Option.ext fun c => ?_
    rw [fileGetClaim_iff h.claimIds h.claimTexts, postgresGetClaim_iff h]
    exact ⟨fun hc => ⟨hc.1, hc.2.1⟩, fun hc => ⟨hc.1, hc.2, hrecent c hc.1 hc.2⟩⟩

variable (observations : List ObservationRecord)

theorem firsts_append (o : ObservationRecord) :
    firsts (observations ++ [o]) =
      insertNew ObservationRecord.observationId o (firsts observations) := by
  simp [firsts, List.foldl_append]

section

variable (h : Synced postgres file tables)

include h

theorem synced_appendObservation {record : ObservationRecord}
    (hfresh : Fresh postgres file (.appendObservation record))
    (htaken : postgres.appendObservation tables record = some tables') :
    Synced postgres (appendObservation file record) tables' := by
  have htimes : DistinctTimes (fun o => postgres.time o.createdAt)
      (file.observations ++ [record]) := by
    refine List.pairwise_append.mpr ⟨h.observationTimes, List.pairwise_singleton _ _, ?_⟩
    intro other hother o ho
    rw [List.mem_singleton.mp ho]
    exact hfresh other hother
  have hstep : tables' = { tables with
      observations := insertNew ObservationRecord.observationId record tables.observations } := by
    unfold Postgres.appendObservation at htaken
    unfold insertNew
    split_ifs at htaken with htakes hknown hrun
    · cases htaken
      rw [if_pos hknown]
    · cases htaken
      rw [if_neg hknown]
  subst hstep
  exact
    { claims := h.claims
      relationships := h.relationships
      observations := by
        change insertNew _ record tables.observations = firsts (file.observations ++ [record])
        rw [firsts_append, h.observations]
      observationTimes := htimes
      claimIds := h.claimIds
      claimTimes := h.claimTimes
      relationshipIds := h.relationshipIds }

theorem synced_saveClaim {record : ClaimRecord} (hfresh : Fresh postgres file (.saveClaim record))
    (htaken : postgres.saveClaim tables record = some tables') :
    Synced postgres (saveClaim file record) tables' := by
  unfold Postgres.saveClaim at htaken
  split_ifs at htaken with htakes
  cases htaken
  exact
    { claims := congrArg (upsert ClaimRecord.claimId record) h.claims
      relationships := h.relationships
      observations := h.observations
      observationTimes := h.observationTimes
      claimIds := nodup_upsert h.claimIds
      claimTimes := h.claimTimes.upsert hfresh h.claimIds
      relationshipIds := h.relationshipIds }

theorem synced_saveRelationship {record : RelationshipRecord}
    (htaken : postgres.saveRelationship tables record = some tables') :
    Synced postgres (saveRelationship file record) tables' := by
  unfold Postgres.saveRelationship at htaken
  split_ifs at htaken with htakes
  cases htaken
  exact
    { claims := h.claims
      relationships :=
        congrArg (upsert RelationshipRecord.relationshipId record) h.relationships
      observations := h.observations
      observationTimes := h.observationTimes
      claimIds := h.claimIds
      claimTimes := h.claimTimes
      relationshipIds := nodup_upsert h.relationshipIds }

theorem Synced.recorded
    (left right : List SupersessionRecord) :
    Synced postgres { file with supersessions := left } { tables with supersessions := right } :=
  ⟨h.claims, h.relationships, h.observations, h.observationTimes, h.claimIds, h.claimTimes,
    h.relationshipIds⟩

end

variable {record : SupersessionRecord}

theorem synced_saveSupersession (h : Synced postgres file tables)
    (hfresh : Fresh postgres file (.saveSupersession record))
    (hmet : Met file (.saveSupersession record))
    (htaken : postgres.saveSupersession tables record = some tables') :
    Synced postgres (saveSupersession file record) tables' := by
  unfold Postgres.saveSupersession at htaken
  split_ifs at htaken with htakes
  have hrecorded := h.recorded (file.supersessions ++ [record])
    (upsert SupersessionRecord.supersessionId record tables.supersessions)
  have hsame := (getClaim_agrees_iff hrecorded record.oldClaimId).mpr hmet
  unfold saveSupersession
  dsimp only at htaken ⊢
  rw [hsame]
  split at htaken
  next oldClaim hfound =>
    have hold := (postgresGetClaim_iff hrecorded).mp hfound
    refine synced_saveClaim hrecorded ?_ htaken
    intro other hother hne
    exact hfresh other hother fun hid => hne (hid.trans hold.2.symm)
  · cases htaken
    exact hrecorded

/-- **The stores stay in step** over every run that meets the condition. -/
theorem synced_of_runs (h : Runs postgres file tables) : Synced postgres file tables := by
  induction h with
  | start =>
    exact ⟨rfl, rfl, rfl, .nil, .nil, .nil, .nil⟩
  | call call earlier fresh met taken ih =>
    cases call with
    | appendObservation record => exact synced_appendObservation ih fresh taken
    | saveClaim record => exact synced_saveClaim ih fresh taken
    | saveRelationship record => exact synced_saveRelationship ih taken
    | saveSupersession record => exact synced_saveSupersession ih fresh met taken

/-- The claims with the tier and the state that are asked for. -/
def amongClaims (file : MemoryTables) (filters : MemoryFilters) : List ClaimRecord :=
  file.claims.filter fun c => claimMatches c filters

/-- The texts of the selected claims sort as their instants, they come last, and there are at most
a thousand. -/
structure ClaimsInOrder (postgres : Postgres) (file : MemoryTables) (scope : MemoryScope)
    (filters : MemoryFilters) : Prop where
  texts : ∀ a ∈ amongClaims file filters, ∀ b ∈ amongClaims file filters,
    claimScopeMatches a scope = true → claimScopeMatches b scope = true →
      b.updatedAt < a.updatedAt → postgres.time b.updatedAt < postgres.time a.updatedAt
  first : ∀ a ∈ amongClaims file filters, ∀ b ∈ amongClaims file filters,
    postgres.time b.updatedAt < postgres.time a.updatedAt → claimScopeMatches b scope = true →
      claimScopeMatches a scope = true
  few : ((amongClaims file filters).filter fun c => claimScopeMatches c scope).length ≤ 1000

theorem postgresListClaims_eq (scope : MemoryScope) (filters : MemoryFilters)
    (limit : Option Nat) :
    postgres.listClaims tables scope filters limit =
      upTo limit (((latest (fun c => postgres.time c.updatedAt)
        (tables.claims.filter fun c => claimMatches c filters)).take (limit.getD 1000)).filter
          fun c => claimScopeMatches c scope) := by
  unfold Postgres.listClaims Postgres.loadClaimRows claimScopeMatches
  cases scope.service with
  | none => simp
  | some service => rfl

/-- **`list_claims`** agrees for every limit exactly there. -/
theorem listClaims_agrees_iff (h : Synced postgres file tables) (scope : MemoryScope)
    (filters : MemoryFilters) :
    (∀ limit, listClaims file scope filters limit =
      postgres.listClaims tables scope filters limit) ↔
      ClaimsInOrder postgres file scope filters := by
  have htimes : DistinctTimes (fun c => postgres.time c.updatedAt) (amongClaims file filters) :=
    h.claimTimes.filter _
  have hsorted := latest_pairwise htimes
  set rows := latest (fun c => postgres.time c.updatedAt) (amongClaims file filters) with hrows
  set selected := (amongClaims file filters).filter fun c => claimScopeMatches c scope
    with hselected
  set listing := latest ClaimRecord.updatedAt selected with hlisting
  have hfile : ∀ limit, listClaims file scope filters limit =
      upTo limit listing := by
    intro limit
    unfold listClaims
    rw [hlisting, hselected, amongClaims, List.filter_filter]
  have htexts : listing.Pairwise (Later ClaimRecord.updatedAt) :=
    latest_pairwise ((h.claimTexts.filter _).filter _)
  have hmem : ∀ z, z ∈ listing ↔ z ∈ rows.filter fun c => claimScopeMatches c scope := by
    intro z
    rw [hlisting, mem_latest, hselected, List.mem_filter, List.mem_filter, hrows, mem_latest]
  have hsame : listing = rows.filter (fun c => claimScopeMatches c scope) ↔
      listing.Pairwise (Later fun c => postgres.time c.updatedAt) := by
    have hpairwise := hsorted.filter fun c => claimScopeMatches c scope
    exact ⟨fun heq => heq ▸ hpairwise, fun hlater => eq_of_later hlater hpairwise hmem⟩
  have hlength : listing.length = selected.length := perm_latest.length_eq
  simp only [hfile, postgresListClaims_eq, h.claims]
  rw [show (file.claims.filter fun c => claimMatches c filters) = amongClaims file filters from rfl,
    ← hrows, cuts_agree_iff, hsame, pairwise_iff_of_later htexts, pairwise_iff_of_later hsorted,
    hlength]
  have hlisted : ∀ c, c ∈ listing ↔
      c ∈ amongClaims file filters ∧ claimScopeMatches c scope = true := by
    intro c
    rw [hlisting, mem_latest, hselected, List.mem_filter]
  constructor
  · rintro ⟨hlater, hfirst, hfew⟩
    refine ⟨fun a ha b hb hsa hsb => ?_, fun a ha b hb => ?_, hfew⟩
    · exact hlater a ((hlisted a).mpr ⟨ha, hsa⟩) b ((hlisted b).mpr ⟨hb, hsb⟩)
    · exact hfirst a (mem_latest.mpr ha) b (mem_latest.mpr hb)
  · rintro ⟨htextual, hfirst, hfew⟩
    refine ⟨fun a ha b hb => ?_, fun a ha b hb => ?_, hfew⟩
    · obtain ⟨ha, hsa⟩ := (hlisted a).mp ha
      obtain ⟨hb, hsb⟩ := (hlisted b).mp hb
      exact htextual a ha b hb hsa hsb
    · exact hfirst a (mem_latest.mp ha) b (mem_latest.mp hb)

def selectedObservations (file : MemoryTables) (scope : MemoryScope) (filters : MemoryFilters) :
    List ObservationRecord :=
  file.observations.filter fun o => scopeMatches o.scope scope && observationMatches o filters

/-- Where `list_observations` agrees for every limit: what is selected was appended newest first,
has its own id, and is at most 250. -/
structure ObservationsInOrder (postgres : Postgres) (file : MemoryTables) (scope : MemoryScope)
    (filters : MemoryFilters) : Prop where
  order : (selectedObservations file scope filters).Pairwise
    (Later fun o => postgres.time o.createdAt)
  selected : ∀ o ∈ file.observations,
    (scopeMatches o.scope scope && observationMatches o filters) = true ↔
      o ∈ firsts file.observations ∧ Postgres.observationWhere o scope filters = true
  few : (selectedObservations file scope filters).length ≤ 250

theorem firsts_sublist : (firsts observations).Sublist observations :=
  foldl_insertNew_sublist observations

theorem postgresListObservations_eq (scope : MemoryScope) (filters : MemoryFilters)
    (limit : Option Nat) :
    postgres.listObservations tables scope filters limit =
      upTo limit (((latest (fun o => postgres.time o.createdAt)
        (tables.observations.filter fun o => Postgres.observationWhere o scope filters)).take
          (limit.getD 250)).filter fun _ => true) := by
  unfold Postgres.listObservations
  rw [List.filter_eq_self.mpr fun _ _ => rfl]
  cases limit with
  | none => rfl
  | some n => simp [upTo, List.take_take]

/-- **`list_observations`** agrees for every limit exactly there. -/
theorem listObservations_agrees_iff (h : Synced postgres file tables) (scope : MemoryScope)
    (filters : MemoryFilters) :
    (∀ limit, listObservations file scope filters limit =
      postgres.listObservations tables scope filters limit) ↔
      ObservationsInOrder postgres file scope filters := by
  have htimes : DistinctTimes (fun o => postgres.time o.createdAt)
      ((firsts file.observations).filter fun o => Postgres.observationWhere o scope filters) :=
    (h.observationTimes.sublist (firsts_sublist _)).filter _
  have hfile : ∀ limit, listObservations file scope filters limit =
      upTo limit (selectedObservations file scope filters) := fun _ => rfl
  simp only [hfile, postgresListObservations_eq, h.observations]
  rw [cuts_agree_iff, List.filter_eq_self.mpr fun _ _ => rfl, eq_latest_iff htimes]
  have hselected : ∀ o, o ∈ selectedObservations file scope filters ↔ o ∈ file.observations ∧
      (scopeMatches o.scope scope && observationMatches o filters) = true :=
    fun _ => List.mem_filter
  constructor
  · rintro ⟨⟨horder, hmem⟩, -, hfew⟩
    refine ⟨horder, fun o ho => ?_, hfew⟩
    refine Iff.trans ?_ ((hmem o).trans List.mem_filter)
    rw [hselected]
    exact ⟨fun hfiles => ⟨ho, hfiles⟩, fun hboth => hboth.2⟩
  · rintro ⟨horder, hmem, hfew⟩
    refine ⟨⟨horder, fun o => ?_⟩, List.pairwise_of_forall fun _ _ => id, hfew⟩
    rw [hselected, List.mem_filter]
    constructor
    · rintro ⟨ho, hfiles⟩
      exact (hmem o ho).mp hfiles
    · intro htables
      have ho := (firsts_sublist _).subset htables.1
      exact ⟨ho, (hmem o ho).mpr htables⟩

/-- **`list_relationships`** agrees, whatever the order of the rows is, exactly if it
answers at most one. -/
theorem listRelationships_agrees_iff (h : Synced postgres file tables)
    (nodeIds relationshipTypes : List String) :
    (∀ answer, Postgres.ListsRelationships tables nodeIds relationshipTypes answer →
      answer = listRelationships file nodeIds relationshipTypes) ↔
      (listRelationships file nodeIds relationshipTypes).length ≤ 1 := by
  unfold Postgres.ListsRelationships listRelationships
  rw [h.relationships]
  exact forall_perm_iff (List.Nodup.filter _ (List.Nodup.of_map _ h.relationshipIds))

def SupersededBy (record : SupersessionRecord) (c : ClaimRecord) : Prop :=
  c.state = "superseded" ∧ c.supersededBy = some record.newClaimId

def Superseded (store : MemoryTables) (record : SupersessionRecord) : Prop :=
  ∀ c ∈ store.claims, c.claimId = record.oldClaimId → SupersededBy record c

theorem superseded_of_upsert {claims : List ClaimRecord}
    (hids : (claims.map ClaimRecord.claimId).Nodup) (hid : c.claimId = record.oldClaimId) :
    ∀ other ∈ upsert ClaimRecord.claimId (c.superseded record) claims,
      other.claimId = record.oldClaimId → SupersededBy record other := by
  intro other hother hsame
  have heq := eq_of_mem_upsert hids hother (hsame.trans hid.symm)
  rw [heq]
  exact ⟨rfl, rfl⟩

theorem postgres_superseded (h : Synced postgres file tables)
    (htaken : postgres.saveSupersession tables record = some tables') :
    Superseded tables' record := by
  unfold Postgres.saveSupersession at htaken
  split_ifs at htaken with htakes
  dsimp only at htaken
  split at htaken
  next c hfound =>
    have hids : (tables.claims.map ClaimRecord.claimId).Nodup := h.claims ▸ h.claimIds
    have hid : c.claimId = record.oldClaimId := (postgresGetClaim_iff h).mp hfound |>.2
    unfold Postgres.saveClaim at htaken
    split_ifs at htaken with hclaim
    cases htaken
    exact superseded_of_upsert hids hid
  next hnone =>
    cases htaken
    intro c hc hid
    exact absurd hid (by simpa using List.find?_eq_none.mp hnone c hc)

/-- **In the files a supersession reaches its claim** exactly if that is a recent one, or
was superseded in this way before. -/
theorem file_superseded_iff (h : Synced postgres file tables) (hc : c ∈ file.claims)
    (hid : c.claimId = record.oldClaimId) :
    Superseded (saveSupersession file record) record ↔
      Recent file c ∨ SupersededBy record c := by
  have hfound : ∀ other, getClaim
      { file with supersessions := file.supersessions ++ [record] } record.oldClaimId =
        some other ↔ other ∈ file.claims ∧ other.claimId = record.oldClaimId ∧
          Recent file other :=
    fun _ => @fileGetClaim_iff { file with supersessions := file.supersessions ++ [record] }
      h.claimIds h.claimTexts _ _
  unfold saveSupersession
  dsimp only
  split
  next other hother =>
    obtain ⟨hmem, hsame, hrecent⟩ := (hfound _).mp hother
    obtain rfl := List.inj_on_of_nodup_map h.claimIds hmem hc (hsame.trans hid.symm)
    exact ⟨fun _ => .inl hrecent, fun _ => superseded_of_upsert h.claimIds hid⟩
  next hnone =>
    have hlate : ¬ Recent file c := by
      intro hrecent
      rw [(hfound c).mpr ⟨hc, hid, hrecent⟩] at hnone
      cases hnone
    constructor
    · intro hsuperseded
      exact .inr (hsuperseded c hc hid)
    · rintro (hrecent | hbefore)
      · exact absurd hrecent hlate
      · intro other hother hsame
        obtain rfl := List.inj_on_of_nodup_map h.claimIds hother hc (hsame.trans hid.symm)
        exact hbefore

structure Agreement (postgres : Postgres) (file tables : MemoryTables) : Prop where
  observations : ∀ scope filters,
    (∀ limit, listObservations file scope filters limit =
      postgres.listObservations tables scope filters limit) ↔
      ObservationsInOrder postgres file scope filters
  claims : ∀ scope filters,
    (∀ limit, listClaims file scope filters limit =
      postgres.listClaims tables scope filters limit) ↔
      ClaimsInOrder postgres file scope filters
  claim : ∀ claimId, getClaim file claimId = Postgres.getClaim tables claimId ↔
    ∀ c ∈ file.claims, c.claimId = claimId → Recent file c
  relationships : ∀ nodeIds relationshipTypes,
    (∀ answer, Postgres.ListsRelationships tables nodeIds relationshipTypes answer →
      answer = listRelationships file nodeIds relationshipTypes) ↔
      (file.relationships.filter fun r =>
        relationshipMatches r nodeIds relationshipTypes).length ≤ 1
  supersession : ∀ record tables', postgres.saveSupersession tables record = some tables' →
    Superseded tables' record ∧
      ∀ c ∈ file.claims, c.claimId = record.oldClaimId →
        (Superseded (saveSupersession file record) record ↔
          Recent file c ∨ SupersededBy record c)

/-- **Where the memory stores agree**: in every run each query agrees exactly under its condition,
and so does the next supersession. -/
theorem memory_stores_agree_iff (h : Runs postgres file tables) : Agreement postgres file tables :=
  have hsynced := synced_of_runs h
  { observations := listObservations_agrees_iff hsynced
    claims := listClaims_agrees_iff hsynced
    claim := getClaim_agrees_iff hsynced
    relationships := listRelationships_agrees_iff hsynced
    supersession := fun _ _ htaken =>
      ⟨postgres_superseded hsynced htaken, fun _ hc hid => file_superseded_iff hsynced hc hid⟩ }

end

section

def sampleInstant (text : String) : Option Int :=
  ["2026-01-01T00:00:00+00:00", "2026-01-01T01:00:00+00:00", "2026-01-01T02:00:00+00:00"].findIdx?
    (· = text) |>.map Int.ofNat

def samplePostgres : Postgres := ⟨sampleInstant, [], fun _ => true⟩

def sampleClaim : ClaimRecord where
  claimId := "claim_1"
  statement := "checkout regresses with the flag"
  entityRefs := ["checkout"]
  supportingObservationIds := []
  contradictingClaimIds := []
  supersededBy := none
  confidence := .int 1
  confidenceFactors := []
  freshness := .int 1
  tier := "semantic"
  state := "active"
  createdAt := "2026-01-01T00:00:00+00:00"
  updatedAt := "2026-01-01T00:00:00+00:00"

def sampleSupersession : SupersessionRecord where
  supersessionId := "super_1"
  oldClaimId := "claim_1"
  newClaimId := "claim_2"
  reason := "newer evidence"
  createdAt := "2026-01-01T01:00:00+00:00"
  createdBy := "operator"

def sampleObservation (observationId createdAt : String) : ObservationRecord where
  observationId := observationId
  scope := []
  kind := "operator_note"
  content := "latency is back"
  service := some "checkout"
  runId := none
  sourceType := "operator"
  sourceRefs := []
  createdAt := createdAt
  author := "operator"
  tags := []
  metadata := []

/-- After one claim has been saved and superseded, both stores answer it superseded. -/
theorem memory_stores_agree_sample :
    getClaim
        { claims := [sampleClaim.superseded sampleSupersession]
          supersessions := [sampleSupersession] } "claim_1" =
      Postgres.getClaim
        { claims := [sampleClaim.superseded sampleSupersession]
          supersessions := [sampleSupersession] } "claim_1" := by
  have saved : Runs samplePostgres { claims := [sampleClaim] } { claims := [sampleClaim] } :=
    .call (.saveClaim sampleClaim) .start nofun trivial rfl
  have superseded : Runs samplePostgres
      { claims := [sampleClaim.superseded sampleSupersession]
        supersessions := [sampleSupersession] }
      { claims := [sampleClaim.superseded sampleSupersession]
        supersessions := [sampleSupersession] } := by
    have hfile : apply { claims := [sampleClaim] }
        (.saveSupersession sampleSupersession) =
          { claims := [sampleClaim.superseded sampleSupersession]
            supersessions := [sampleSupersession] } := rfl
    refine .call (.saveSupersession sampleSupersession) saved ?_ ?_ rfl
    · intro other hother hne
      rw [List.mem_singleton.mp hother] at hne
      exact absurd rfl hne
    · intro c _ _
      exact (List.length_filter_le _ _).trans_lt (by decide)
  refine ((memory_stores_agree_iff superseded).claim "claim_1").mpr fun c _ _ => ?_
  exact (List.length_filter_le _ _).trans_lt (by decide)

def observedFile : MemoryTables :=
  appendObservation
    (appendObservation {}
      (sampleObservation "obs_1" "2026-01-01T00:00:00+00:00"))
    (sampleObservation "obs_2" "2026-01-01T01:00:00+00:00")

/-- The two are listed in another order by the tables, which do not look at the service that is
asked for either. -/
theorem observations_listed_differently :
    ∃ tables tables',
      samplePostgres.appendObservation {}
        (sampleObservation "obs_1" "2026-01-01T00:00:00+00:00") = some tables ∧
      samplePostgres.appendObservation tables
        (sampleObservation "obs_2" "2026-01-01T01:00:00+00:00") = some tables' ∧
      (samplePostgres.listObservations tables' {} {} none).map
        ObservationRecord.observationId = ["obs_2", "obs_1"] ∧
      (listObservations observedFile {} {} none).map
        ObservationRecord.observationId = ["obs_1", "obs_2"] ∧
      (samplePostgres.listObservations tables' {} { service := some "search" } none).map
        ObservationRecord.observationId = ["obs_2", "obs_1"] ∧
      (listObservations observedFile {} { service := some "search" } none).map
        ObservationRecord.observationId = [] :=
  ⟨_, _, rfl, rfl, by decide, by decide, by decide, by decide⟩

end

end OrbitalMesh.MemoryStores
