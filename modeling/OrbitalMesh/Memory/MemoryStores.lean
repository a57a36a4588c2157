import OrbitalMesh.Base.Listings
import OrbitalMesh.Runtime

/-!
# The two memory stores

`FileStateStore` keeps observations, claims, relationships and supersessions as lists in
JSON files, `PostgresStateStore` in tables.  Both answer the same queries; one selects,
sorts and cuts in Python, the other partly in SQL.
-/

namespace OrbitalMesh.MemoryStores

open Listings

structure ObservationRecord where
  observationId : String
  scope : Dict
  kind : String
  content : String
  service : Option String
  runId : Option String
  sourceType : String
  sourceRefs : List Dict
  createdAt : String
  author : String
  tags : List String
  metadata : Dict

structure ClaimRecord where
  claimId : String
  statement : String
  entityRefs : List String
  supportingObservationIds : List String
  contradictingClaimIds : List String
  supersededBy : Option String
  confidence : Json
  confidenceFactors : Dict
  freshness : Json
  tier : String
  state : String
  createdAt : String
  updatedAt : String

structure RelationshipRecord where
  relationshipId : String
  fromId : String
  toId : String
  type : String
  confidence : Json
  supportingObservationIds : List String
  state : String
  infraNodeKey : Option String

structure SupersessionRecord where
  supersessionId : String
  oldClaimId : String
  newClaimId : String
  reason : String
  createdAt : String
  createdBy : String

/-- A text, or `None`. -/
def optional : Option String → Json
  | some text => .str text
  | none => .null

def texts (values : List String) : Json := .arr (values.map .str)

def ObservationRecord.toDict (o : ObservationRecord) : Dict :=
  [("observation_id", .str o.observationId), ("scope", .obj o.scope), ("kind", .str o.kind),
    ("content", .str o.content), ("service", optional o.service), ("run_id", optional o.runId),
    ("source_type", .str o.sourceType), ("source_refs", .arr (o.sourceRefs.map .obj)),
    ("created_at", .str o.createdAt), ("author", .str o.author), ("tags", texts o.tags),
    ("metadata", .obj o.metadata)]

variable (c : ClaimRecord)

def ClaimRecord.toDict : Dict :=
  [("claim_id", .str c.claimId), ("statement", .str c.statement),
    ("entity_refs", texts c.entityRefs),
    ("supporting_observation_ids", texts c.supportingObservationIds),
    ("contradicting_claim_ids", texts c.contradictingClaimIds),
    ("superseded_by", optional c.supersededBy), ("confidence", c.confidence),
    ("confidence_factors", .obj c.confidenceFactors), ("freshness", c.freshness),
    ("tier", .str c.tier), ("state", .str c.state), ("created_at", .str c.createdAt),
    ("updated_at", .str c.updatedAt)]

def RelationshipRecord.toDict (r : RelationshipRecord) : Dict :=
  [("relationship_id", .str r.relationshipId), ("from_id", .str r.fromId), ("to_id", .str r.toId),
    ("type", .str r.type), ("confidence", r.confidence),
    ("supporting_observation_ids", texts r.supportingObservationIds), ("state", .str r.state),
    ("infra_node_key", optional r.infraNodeKey)]

def SupersessionRecord.toDict (s : SupersessionRecord) : Dict :=
  [("supersession_id", .str s.supersessionId), ("old_claim_id", .str s.oldClaimId),
    ("new_claim_id", .str s.newClaimId), ("reason", .str s.reason),
    ("created_at", .str s.createdAt),
    ("created_by", .str s.createdBy)]

/-- What a store keeps: the lists of the files, or the payloads of the tables. -/
structure MemoryTables where
  observations : List ObservationRecord := []
  claims : List ClaimRecord := []
  relationships : List RelationshipRecord := []
  supersessions : List SupersessionRecord := []

structure MemoryScope where
  service : Option String := none
  runId : Option String := none
  others : Dict := []

def MemoryScope.items (scope : MemoryScope) : Dict :=
  [("service", optional scope.service), ("run_id", optional scope.runId)] ++ scope.others

structure MemoryFilters where
  tier : Option String := none
  state : Option String := none
  kind : Option String := none
  service : Option String := none
  runId : Option String := none

def filterMatches (wanted value : Option String) : Bool := wanted.isNone || value == wanted

def scopeMatches (candidate : Dict) (scope : MemoryScope) : Bool :=
  scope.items.all fun (key, value) =>
    value == .null || (candidate.get? key).getD .null == .null ||
      Json.pyEqOpt (candidate.get? key) (some value)

def observationMatches (o : ObservationRecord) (filters : MemoryFilters) : Bool :=
  filterMatches filters.service o.service && filterMatches filters.runId o.runId &&
    filterMatches filters.kind (some o.kind)

/-- `_claim_scope_matches`.  A claim has no scope of its own. -/
def claimScopeMatches (scope : MemoryScope) : Bool :=
  match scope.service with
  | some service => c.entityRefs.contains service
  | none => true

def claimMatches (filters : MemoryFilters) : Bool :=
  filterMatches filters.tier (some c.tier) && filterMatches filters.state (some c.state)

/-- `_relationship_matches`; an empty list asks for nothing. -/
def relationshipMatches (r : RelationshipRecord) (nodeIds relationshipTypes : List String) : Bool :=
  (relationshipTypes.isEmpty || relationshipTypes.contains r.type) &&
    (nodeIds.isEmpty || nodeIds.contains r.fromId || nodeIds.contains r.toId)

def ClaimRecord.superseded (c : ClaimRecord) (s : SupersessionRecord) : ClaimRecord :=
  { c with
    state := "superseded"
    supersededBy := some s.newClaimId
    updatedAt := s.createdAt }

/-- The calls that change a store, with records that have passed their schemas. -/
inductive Call where
  | appendObservation (record : ObservationRecord)
  | saveClaim (record : ClaimRecord)
  | saveRelationship (record : RelationshipRecord)
  | saveSupersession (record : SupersessionRecord)

namespace FileStateStore

variable (store : MemoryTables)

def appendObservation (record : ObservationRecord) : MemoryTables :=
  { store with observations := store.observations ++ [record] }

def listObservations (scope : MemoryScope) (filters : MemoryFilters) (limit : Option Nat) :
    List ObservationRecord :=
  upTo limit (store.observations.filter fun o =>
    scopeMatches o.scope scope && observationMatches o filters)

def saveClaim (record : ClaimRecord) : MemoryTables :=
  { store with claims := upsert ClaimRecord.claimId record store.claims }

def listClaims (scope : MemoryScope) (filters : MemoryFilters) (limit : Option Nat) :
    List ClaimRecord :=
  upTo limit (latest ClaimRecord.updatedAt
    (store.claims.filter fun c => claimScopeMatches c scope && claimMatches c filters))

def getClaim (claimId : String) : Option ClaimRecord :=
  (listClaims store {} {} (some 1000)).find? fun c => c.claimId = claimId

def saveRelationship (record : RelationshipRecord) : MemoryTables :=
  { store with
    relationships := upsert RelationshipRecord.relationshipId record store.relationships }

def listRelationships (nodeIds relationshipTypes : List String) : List RelationshipRecord :=
  store.relationships.filter fun r => relationshipMatches r nodeIds relationshipTypes

def saveSupersession (record : SupersessionRecord) : MemoryTables :=
  let recorded := { store with supersessions := store.supersessions ++ [record] }
  match getClaim recorded record.oldClaimId with
  | some oldClaim => saveClaim recorded (oldClaim.superseded record)
  | none => recorded

def apply : Call → MemoryTables
  | .appendObservation record => appendObservation store record
  | .saveClaim record => saveClaim store record
  | .saveRelationship record => saveRelationship store record
  | .saveSupersession record => saveSupersession store record

end FileStateStore

/-- The instant that a text is as a `TIMESTAMPTZ`, the runs that there are, and which payloads can
be stored. -/
structure Postgres where
  instant : String → Option Int
  runs : List String
  storable : Dict → Bool

namespace Postgres

variable (postgres : Postgres) (store : MemoryTables)

def time (text : String) : Int := (postgres.instant text).getD 0

def takes (payload : Dict) (time : String) : Bool :=
  postgres.storable payload && (postgres.instant time).isSome

/-- `append_observation`; a repeated id is left alone, and a run must be there. -/
def appendObservation (record : ObservationRecord) : Option MemoryTables :=
  if !postgres.takes record.toDict record.createdAt then none
  else if store.observations.any (fun o => o.observationId = record.observationId) then some store
  else if record.runId.all postgres.runs.contains then
    some { store with observations := store.observations ++ [record] }
  else none

/-- The `WHERE` of `list_observations`. -/
def observationWhere (o : ObservationRecord) (scope : MemoryScope) (filters : MemoryFilters) :
    Bool :=
  filterMatches scope.service o.service &&
    (scope.runId.isNone || o.runId == scope.runId || o.runId.isNone) &&
    filterMatches filters.kind (some o.kind)

def listObservations (scope : MemoryScope) (filters : MemoryFilters) (limit : Option Nat) :
    List ObservationRecord :=
  (latest (fun o => postgres.time o.createdAt)
    (store.observations.filter fun o => observationWhere o scope filters)).take
      (limit.getD 250)

def saveClaim (record : ClaimRecord) : Option MemoryTables :=
  if postgres.takes record.toDict record.updatedAt then
    some { store with claims := upsert ClaimRecord.claimId record store.claims }
  else none

def getClaim (claimId : String) : Option ClaimRecord :=
  store.claims.find? fun c => c.claimId = claimId

def loadClaimRows (filters : MemoryFilters) (limit : Option Nat) : List ClaimRecord :=
  (latest (fun c => postgres.time c.updatedAt)
    (store.claims.filter fun c => claimMatches c filters)).take (limit.getD 1000)

def listClaims (scope : MemoryScope) (filters : MemoryFilters) (limit : Option Nat) :
    List ClaimRecord :=
  let claims := postgres.loadClaimRows store filters limit
  upTo limit <|
    match scope.service with
    | some service => claims.filter fun c => c.entityRefs.contains service
    | none => claims

def saveRelationship (record : RelationshipRecord) : Option MemoryTables :=
  if postgres.storable record.toDict then
    some { store with
      relationships := upsert RelationshipRecord.relationshipId record store.relationships }
  else none

/-- What `list_relationships` may answer: there is no `ORDER BY`, so the rows come in any
order. -/
def ListsRelationships (nodeIds relationshipTypes : List String)
    (answer : List RelationshipRecord) : Prop :=
  answer.Perm (store.relationships.filter fun r => relationshipMatches r nodeIds relationshipTypes)

def saveSupersession (record : SupersessionRecord) : Option MemoryTables :=
  if postgres.takes record.toDict record.createdAt then
    let recorded := { store with
      supersessions := upsert SupersessionRecord.supersessionId record store.supersessions }
    match getClaim recorded record.oldClaimId with
    | some oldClaim => postgres.saveClaim recorded (oldClaim.superseded record)
    | none => some recorded
  else none

def apply : Call → Option MemoryTables
  | .appendObservation record => postgres.appendObservation store record
  | .saveClaim record => postgres.saveClaim store record
  | .saveRelationship record => postgres.saveRelationship store record
  | .saveSupersession record => postgres.saveSupersession store record

end Postgres

end OrbitalMesh.MemoryStores
