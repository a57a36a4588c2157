import OrbitalMesh.Runtime
import OrbitalMesh.Base.Merkle
import Mathlib.Data.List.Induction

/-!
# Run events, the log they are read from, and its Merkle tree

The log of a run is an append-only list of event records.  Reading it keeps one
record for each event id, the last one written, and sorts by sequence
(`loadEvents`).  The Merkle tree of a run is built over the leaf hashes of these
events; a leaf hash stored in the record is taken as it is (`RunEvent.leaf`).
-/

namespace OrbitalMesh

structure RunEvent where
  eventId : String
  runId : String
  sequence : Int
  stage : String
  eventType : String
  recordedAt : String
  payload : Dict
  summary : Option Dict := none
  merkleLeafHash : Option String := none
  artifactKey : Option String := none
  integrationName : Option String := none
  status : Option String := none
deriving DecidableEq

/-- A JSON text, or `null`. -/
def optionalText (text : Option String) : Json := (text.map Json.str).getD .null

variable (event : RunEvent)

def RunEvent.canonicalPayload : Json :=
  .obj [
    ("event_id", .str event.eventId),
    ("run_id", .str event.runId),
    ("sequence", .int event.sequence),
    ("stage", .str event.stage),
    ("event_type", .str event.eventType),
    ("recorded_at", .str event.recordedAt),
    ("payload", .obj event.payload),
    ("summary", (event.summary.map Json.obj).getD .null),
    ("artifact_key", optionalText event.artifactKey),
    ("integration_name", optionalText event.integrationName),
    ("status", optionalText event.status)]

/-- `hashlib.sha256(...).hexdigest()` of `leaf:` and a canonical text, of `node:` and two digests,
and of `empty`. -/
structure MerkleHash where
  ofLeaf : Json → String
  ofNode : String → String → String
  ofEmpty : String

def leafHashForPayload (hash : MerkleHash) (payload : Json) : String :=
  hash.ofLeaf payload.canon

/-- `event.merkle_leaf_hash or leaf_hash_for_payload(event.canonical_payload())`. -/
def RunEvent.leaf (hash : MerkleHash) (event : RunEvent) : String :=
  match event.merkleLeafHash with
  | some stored =>
    if stored = "" then leafHashForPayload hash event.canonicalPayload else stored
  | none => leafHashForPayload hash event.canonicalPayload

def merkleLeaves (hash : MerkleHash) (events : List RunEvent) : List String :=
  events.map (RunEvent.leaf hash)

structure MerkleSnapshot where
  runId : String
  rootHash : String
  leafCount : Nat
  eventIds : List String

structure MerkleProof where
  runId : String
  eventId : String
  leafHash : String
  rootHash : String
  proof : List (Merkle.Step String)
  valid : Bool

/-- `compute_merkle_root`.  A layer of `n` hashes is paired up at most `n`
times. -/
def computeMerkleRoot (hash : MerkleHash) (leaves : List String) : String :=
  ((Merkle.collapse hash.ofNode leaves.length leaves).head?).getD hash.ofEmpty

def verifyMerkleProof (hash : MerkleHash) (leafHash rootHash : String)
    (proof : List (Merkle.Step String)) : Bool :=
  Merkle.climb hash.ofNode leafHash proof = rootHash

def buildMerkleSnapshot (hash : MerkleHash) (runId : String) (events : List RunEvent) :
    MerkleSnapshot :=
  let leaves := merkleLeaves hash events
  { runId := runId
    rootHash := computeMerkleRoot hash leaves
    leafCount := leaves.length
    eventIds := events.map RunEvent.eventId }

def lastIndexOf (eventId : String) : List RunEvent → Option Nat
  | [] => none
  | event :: rest =>
    match lastIndexOf eventId rest with
    | some index => some (index + 1)
    | none => if event.eventId = eventId then some 0 else none

def buildMerkleProof (hash : MerkleHash) (runId : String) (events : List RunEvent)
    (eventId : String) : Option MerkleProof :=
  let leaves := merkleLeaves hash events
  match lastIndexOf eventId events with
  | none => none
  | some index =>
    let leafHash := leaves.getD index ""
    let proof := Merkle.path hash.ofNode leaves.length leaves index
    let rootHash := computeMerkleRoot hash leaves
    some { runId, eventId, leafHash, rootHash, proof
           valid := verifyMerkleProof hash leafHash rootHash proof }

/-- `build_merkle_proof` with the source's one loop over index and layer; the outer
`none` is an index out of range. -/
def buildMerkleProofLoop (hash : MerkleHash) (runId : String) (events : List RunEvent)
    (eventId : String) : Option (Option MerkleProof) :=
  let leaves := merkleLeaves hash events
  match lastIndexOf eventId events with
  | none => some none
  | some index => do
    let (layer, proof) ← Merkle.pathLoop hash.ofNode leaves.length leaves index []
    let rootHash := layer.head?.getD hash.ofEmpty
    let leafHash ← leaves[index]?
    return some { runId, eventId, leafHash, rootHash, proof
                  valid := verifyMerkleProof hash leafHash rootHash proof }

/-- `by_id[event.event_id] = event`: a known id keeps its place. -/
def putEvent (event : RunEvent) : List RunEvent → List RunEvent
  | [] => [event]
  | known :: rest =>
    if known.eventId = event.eventId then event :: rest else known :: putEvent event rest

def dedupeEvents (events : List RunEvent) : List RunEvent :=
  events.foldl (fun known event => putEvent event known) []

/-- `events.sort(key=lambda event: event.sequence)`. -/
def bySequence (events : List RunEvent) : List RunEvent :=
  events.insertionSort (fun a b => a.sequence ≤ b.sequence)

variable (records : List RunEvent)

def loadEvents : List RunEvent := bySequence (dedupeEvents records)

variable {events : List RunEvent} {hash : MerkleHash}

theorem mem_bySequence {event : RunEvent} : event ∈ bySequence events ↔ event ∈ events :=
  List.mem_insertionSort _

theorem pairwise_bySequence (events : List RunEvent) :
    (bySequence events).Pairwise (fun a b => a.sequence ≤ b.sequence) := by
  exact List.pairwise_insertionSort _ events

theorem putEvent_of_new {event : RunEvent} (h : ∀ known ∈ events, known.eventId ≠ event.eventId) :
    putEvent event events = events ++ [event] := by
  induction events with
  | nil => rfl
  | cons known rest ih =>
    simp only [List.mem_cons, forall_eq_or_imp] at h
    simp [putEvent, h.1, ih h.2]

theorem eventIds_putEvent (events : List RunEvent) :
    (putEvent event events).map RunEvent.eventId =
      if event.eventId ∈ events.map RunEvent.eventId then events.map RunEvent.eventId
      else events.map RunEvent.eventId ++ [event.eventId] := by
  induction events with
  | nil => simp [putEvent]
  | cons known rest ih =>
    by_cases hknown : known.eventId = event.eventId
    · simp [putEvent, hknown]
    · have hne : ¬ event.eventId = known.eventId := fun heq => hknown heq.symm
      simp only [putEvent, hknown, if_false, List.map_cons, ih, List.mem_cons, hne, false_or]
      split <;> rfl

theorem nodup_putEvent {event : RunEvent} (h : (events.map RunEvent.eventId).Nodup) :
    ((putEvent event events).map RunEvent.eventId).Nodup := by
  rw [eventIds_putEvent]
  split
  · exact h
  · next hnew =>
    rw [List.nodup_append]
    refine ⟨h, by simp, ?_⟩
    rintro a ha b hb rfl
    rw [List.mem_singleton] at hb
    exact hnew (hb ▸ ha)

theorem dedupeEvents_concat :
    dedupeEvents (records ++ [event]) = putEvent event (dedupeEvents records) := by
  simp [dedupeEvents]

theorem nodup_dedupeEvents : ((dedupeEvents records).map RunEvent.eventId).Nodup := by
  induction records using List.reverseRecOn with
  | nil => simp [dedupeEvents]
  | append_singleton records event ih =>
    rw [dedupeEvents_concat]
    exact nodup_putEvent ih

theorem nodup_loadEvents : ((loadEvents records).map RunEvent.eventId).Nodup := by
  have hperm : (loadEvents records).Perm (dedupeEvents records) :=
    List.perm_insertionSort _ _
  exact (hperm.map RunEvent.eventId).nodup_iff.mpr (nodup_dedupeEvents records)

variable {eventId runId : String} {proof : MerkleProof}

theorem lastIndexOf_spec {index : Nat} (h : lastIndexOf eventId events = some index) :
    ∃ event, events[index]? = some event ∧ event.eventId = eventId := by
  induction events generalizing index with
  | nil => cases h
  | cons event rest ih =>
    simp only [lastIndexOf] at h
    cases hrest : lastIndexOf eventId rest with
    | some i =>
      rw [hrest] at h
      cases h
      obtain ⟨found, hfound, hid⟩ := ih hrest
      exact ⟨found, by simpa using hfound, hid⟩
    | none =>
      rw [hrest] at h
      dsimp only at h
      split at h
      · next hid =>
        cases h
        exact ⟨event, rfl, hid⟩
      · cases h

theorem lastIndexOf_isSome {event : RunEvent} (hmem : event ∈ events)
    (hid : event.eventId = eventId) : ∃ index, lastIndexOf eventId events = some index := by
  induction events with
  | nil => cases hmem
  | cons first rest ih =>
    cases hrest : lastIndexOf eventId rest with
    | some i => exact ⟨i + 1, by simp [lastIndexOf, hrest]⟩
    | none =>
      rcases List.mem_cons.mp hmem with rfl | hmem
      · exact ⟨0, by simp [lastIndexOf, hrest, hid]⟩
      · obtain ⟨i, hi⟩ := ih hmem
        rw [hrest] at hi
        cases hi

theorem buildMerkleProof_spec (h : buildMerkleProof hash runId events eventId = some proof) :
    ∃ event ∈ events, event.eventId = eventId ∧ proof.leafHash = event.leaf hash ∧
      proof.rootHash = (buildMerkleSnapshot hash runId events).rootHash ∧
      proof.valid = true := by
  unfold buildMerkleProof at h
  cases hindex : lastIndexOf eventId events with
  | none =>
    rw [hindex] at h
    cases h
  | some index =>
    rw [hindex] at h
    obtain rfl := (Option.some.inj h).symm
    obtain ⟨event, hevent, hid⟩ := lastIndexOf_spec hindex
    have hleaf : (merkleLeaves hash events)[index]? = some (event.leaf hash) := by
      simp [merkleLeaves, hevent]
    have hleafD : (merkleLeaves hash events).getD index "" = event.leaf hash := by
      simp [List.getD, hleaf]
    have hclimb := Merkle.climb_path hash.ofNode (Nat.le_refl _) hleaf
    refine ⟨event, List.mem_of_getElem? hevent, hid, hleafD, rfl, ?_⟩
    dsimp only [verifyMerkleProof]
    rw [hleafD, computeMerkleRoot, hclimb]
    simp

theorem buildMerkleProof_isSome (hash : MerkleHash) (runId : String) {event : RunEvent}
    (h : event ∈ events) :
    ∃ proof, buildMerkleProof hash runId events event.eventId = some proof := by
  obtain ⟨index, hindex⟩ := lastIndexOf_isSome h rfl
  exact ⟨_, by simp only [buildMerkleProof, hindex]; rfl⟩

theorem buildMerkleProofLoop_eq (hash : MerkleHash) (runId : String) (events : List RunEvent)
    (eventId : String) :
    buildMerkleProofLoop hash runId events eventId =
      some (buildMerkleProof hash runId events eventId) := by
  unfold buildMerkleProofLoop buildMerkleProof
  cases hindex : lastIndexOf eventId events with
  | none => rfl
  | some index =>
    obtain ⟨event, hevent, -⟩ := lastIndexOf_spec hindex
    have hleaf : (merkleLeaves hash events)[index]? = some (event.leaf hash) := by
      simp [merkleLeaves, hevent]
    obtain ⟨hlt, -⟩ := List.getElem?_eq_some_iff.mp hleaf
    simp [Merkle.pathLoop_eq hash.ofNode hlt, hleaf, computeMerkleRoot]

theorem length_buildMerkleProof (h : buildMerkleProof hash runId events eventId = some proof) :
    proof.proof.length = Nat.clog 2 events.length := by
  unfold buildMerkleProof at h
  split at h
  · cases h
  · cases h
    rw [Merkle.length_path hash.ofNode (Nat.le_refl _), merkleLeaves, List.length_map]

def RunEvent.HashFresh (hash : MerkleHash) (event : RunEvent) : Prop :=
  event.merkleLeafHash = none ∨ event.merkleLeafHash = some "" ∨
    event.merkleLeafHash = some (leafHashForPayload hash event.canonicalPayload)

theorem RunEvent.leaf_eq_iff {event : RunEvent} :
    event.leaf hash = leafHashForPayload hash event.canonicalPayload ↔ event.HashFresh hash := by
  unfold RunEvent.leaf RunEvent.HashFresh
  cases hstored : event.merkleLeafHash with
  | none => simp
  | some stored =>
    by_cases hempty : stored = ""
    · simp [hempty]
    · simp [hempty]

theorem eventId_eq_of_canon_eq {a b : RunEvent}
    (h : a.canonicalPayload.canon = b.canonicalPayload.canon) : a.eventId = b.eventId := by
  have hfield := Json.get?_eq_of_canon_eq h "event_id"
  simpa [Dict.get?_cons, Json.canon] using hfield

/-- Among the texts hashed for the trees of two logs no two collide. -/
structure CollisionFreeTrees (hash : MerkleHash) (left right : List RunEvent) : Prop where
  leaf_inj : ∀ a ∈ left ++ right, ∀ b ∈ left ++ right,
    leafHashForPayload hash a.canonicalPayload = leafHashForPayload hash b.canonicalPayload →
      a.canonicalPayload.canon = b.canonicalPayload.canon
  tree : Merkle.Separated hash.ofNode
    (· ∈ merkleLeaves hash left ++ merkleLeaves hash right)
    (· ∈ Merkle.hashed hash.ofNode (merkleLeaves hash left).length (merkleLeaves hash left) ++
      Merkle.hashed hash.ofNode (merkleLeaves hash right).length (merkleLeaves hash right))

theorem nodup_leaves (hids : (events.map RunEvent.eventId).Nodup)
    (hfresh : ∀ event ∈ events, event.HashFresh hash)
    (hinj : ∀ a ∈ events, ∀ b ∈ events,
      leafHashForPayload hash a.canonicalPayload = leafHashForPayload hash b.canonicalPayload →
        a.canonicalPayload.canon = b.canonicalPayload.canon) :
    (merkleLeaves hash events).Nodup := by
  apply (List.Nodup.of_map RunEvent.eventId hids).map_on
  intro a ha b hb heq
  rw [RunEvent.leaf_eq_iff.mpr (hfresh a ha), RunEvent.leaf_eq_iff.mpr (hfresh b hb)] at heq
  exact List.inj_on_of_nodup_map hids ha hb (eventId_eq_of_canon_eq (hinj a ha b hb heq))

theorem collapse_eq_root (hash : MerkleHash) {leaves : List String} (h : leaves ≠ []) :
    Merkle.collapse hash.ofNode leaves.length leaves = [computeMerkleRoot hash leaves] := by
  obtain ⟨first, rest, rfl⟩ := List.exists_cons_of_ne_nil h
  have hpath := Merkle.climb_path hash.ofNode (Nat.le_refl _)
    (show (first :: rest)[0]? = some first from rfl)
  rw [computeMerkleRoot, hpath]
  rfl

/-- **The root determines the content.**  Two logs with fresh hashes and the
same root say the same. -/
theorem root_determines_content {runId : String} {left right : List RunEvent} (hleft : left ≠ [])
    (hright : right ≠ []) (hlids : (left.map RunEvent.eventId).Nodup)
    (hrids : (right.map RunEvent.eventId).Nodup) (hlfresh : ∀ event ∈ left, event.HashFresh hash)
    (hrfresh : ∀ event ∈ right, event.HashFresh hash) (hfree : CollisionFreeTrees hash left right)
    (hroot : (buildMerkleSnapshot hash runId left).rootHash =
      (buildMerkleSnapshot hash runId right).rootHash) :
    left.map (fun event => event.canonicalPayload.canon) =
      right.map (fun event => event.canonicalPayload.canon) := by
  have hlnodup := nodup_leaves hlids hlfresh
    (fun a ha b hb => hfree.leaf_inj a (by simp [ha]) b (by simp [hb]))
  have hrnodup := nodup_leaves hrids hrfresh
    (fun a ha b hb => hfree.leaf_inj a (by simp [ha]) b (by simp [hb]))
  have hlcollapse := @collapse_eq_root hash (merkleLeaves hash left)
    (by simpa [merkleLeaves] using hleft)
  have hrcollapse := @collapse_eq_root hash (merkleLeaves hash right)
    (by simpa [merkleLeaves] using hright)
  have hcollapse := hlcollapse.trans
    ((congrArg (fun root => [root]) hroot).trans hrcollapse.symm)
  have hleaves := Merkle.collapse_injective hfree.tree (Nat.le_refl _) (Nat.le_refl _)
    (fun a ha => show Merkle.AtHeight _ _ _ 0 a from List.mem_append_left _ ha)
    (fun a ha => show Merkle.AtHeight _ _ _ 0 a from List.mem_append_right _ ha)
    (fun pair hp => List.mem_append_left _ hp) (fun pair hp => List.mem_append_right _ hp)
    hlnodup hrnodup hcollapse
  -- equal leaves are hashes of equal contents, position by position
  have hlen : left.length = right.length := by
    simpa [merkleLeaves] using congrArg List.length hleaves
  apply List.ext_getElem (by simpa using hlen)
  intro i hi hi'
  simp only [List.length_map] at hi hi'
  have hleaf : (merkleLeaves hash left)[i]? = (merkleLeaves hash right)[i]? := by
    rw [hleaves]
  simp only [merkleLeaves, List.getElem?_map, List.getElem?_eq_getElem hi,
    List.getElem?_eq_getElem hi',
    Option.map_some, Option.some.injEq] at hleaf
  have hlmem := List.getElem_mem hi
  have hrmem := List.getElem_mem hi'
  rw [RunEvent.leaf_eq_iff.mpr (hlfresh _ hlmem),
    RunEvent.leaf_eq_iff.mpr (hrfresh _ hrmem)] at hleaf
  simpa using hfree.leaf_inj _ (by simp) _ (by simp) hleaf

end OrbitalMesh
