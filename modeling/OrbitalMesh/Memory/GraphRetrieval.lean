import OrbitalMesh.Memory.InfraGraph
import OrbitalMesh.Memory.MemoryStores

/-!
# The graph channel of memory retrieval

A claim is related to the service that it describes, and the relationship carries the key of the
service in the infrastructure graph.  `_graph_rank` goes from seeds to the other ends of their
relationships, and then from their keys through the graph to the claims about what lies near.
-/

namespace OrbitalMesh.GraphRetrieval

open OrbitalMesh.Decision InfraGraph MemoryStores BreadthFirst

def parseInfraNodeKey (key : String) : Option (String × Option String × String) :=
  match key.toList.splitOn ':' with
  | [kind, part, name] =>
    if kind = [] ∨ name = [] then none
    else
      some (String.ofList kind,
        if part = [] ∨ part = "_cluster".toList then none else some (String.ofList part),
        String.ofList name)
  | _ => none

def neighborToNodeKey (neighbor : Dict) : Option String :=
  let kind := getOr neighbor "kind" .null
  let name := getOr neighbor "name" .null
  if truthy kind && truthy name then
    let ns := getOr neighbor "namespace" .null
    some (pyStr kind ++ ":" ++ (if truthy ns then pyStr ns else "_cluster") ++ ":" ++ pyStr name)
  else none

/-- `str(relationship.get(key, ""))`. -/
def endpoint (relationship : Dict) (key : String) : String :=
  pyStr (getOr relationship key (.str ""))

def infraKey (relationship : Dict) : Option String :=
  match getOr relationship "infra_node_key" .null with
  | .str key => if key = "" then none else some key
  | _ => none

/-- The other ends of a relationship of a seed. -/
def hop (seeds : List String) (relationship : Dict) : List String :=
  let fromId := endpoint relationship "from_id"
  let toId := endpoint relationship "to_id"
  (if fromId ∈ seeds ∧ toId ≠ "" ∧ toId ∉ seeds then [toId] else []) ++
    if toId ∈ seeds ∧ fromId ≠ "" ∧ fromId ∉ seeds then [fromId] else []

def seedKey (seeds : List String) (relationship : Dict) : Option String :=
  if endpoint relationship "from_id" ∈ seeds ∨ endpoint relationship "to_id" ∈ seeds then
    infraKey relationship
  else none

/-- `claims_by_infra_key.get(key, [])`. -/
def claimsByInfraKey (relationships : List Dict) (key : String) : List String :=
  relationships.filterMap fun relationship =>
    if infraKey relationship = some key then some (endpoint relationship "to_id") else none

variable (order : SetOrder)

/-- What `_metapath_expand` finds from one key. -/
def expandKey (snapshot : Option GraphSnapshot) (relationships : List Dict)
    (excluded : List String) (key : String) : List String :=
  match parseInfraNodeKey key with
  | none => []
  | some (kind, ns, name) =>
    ((neighbors order snapshot kind name ns 2 none .both).take 100).flatMap fun neighbor =>
      match neighborToNodeKey neighbor with
      | none => []
      | some neighborKey =>
        if neighborKey = key then []
        else (claimsByInfraKey relationships neighborKey).filter fun claimId =>
          claimId ≠ "" ∧ claimId ∉ excluded

def metapathExpand (snapshot : Option GraphSnapshot)
    (relationships : List Dict) (seedKeys excluded : List String) : List String :=
  seedKeys.flatMap (expandKey order snapshot relationships excluded)

/-- `_graph_rank`, of a service with or without a graph. -/
def graphRank (infraGraph : Option (Option GraphSnapshot))
    (seedIds : List String) (relationships : List Dict) : List String :=
  if seedIds = [] then []
  else
    let seeds := seedIds.take 20
    let seedKeys := order.walk (relationships.filterMap (seedKey seeds)).eraseDups
    let metapathIds :=
      match infraGraph with
      | none => []
      | some snapshot => metapathExpand order snapshot relationships seedKeys seeds
    (relationships.flatMap (hop seeds) ++ metapathIds).eraseDups

/-- What `crystallize_run` relates: a claim to the service of the run, in its namespace. -/
structure Relation where
  relationshipId : String
  service : String
  ns : Option String
  claim : ClaimRecord

variable (r : Relation)

def Relation.record : RelationshipRecord where
  relationshipId := r.relationshipId
  fromId := r.service
  toId := r.claim.claimId
  type := "describes"
  confidence := r.claim.confidence
  supportingObservationIds := r.claim.supportingObservationIds
  state := "active"
  infraNodeKey := some (nodeKey "service" r.ns r.service)

/-- The relationships that runs have written: every claim has an id of its own, and no service
is without a name. -/
structure Crystallized where
  relations : List Relation
  fresh : (relations.map fun r => r.claim.claimId).Nodup
  claimed : ∀ r ∈ relations, r.claim.claimId ≠ ""
  served : ∀ r ∈ relations, r.service ≠ ""

/-- `list_relationships`. -/
def Crystallized.rows (m : Crystallized) : List Dict :=
  m.relations.map fun r => r.record.toDict

structure SeedList where
  ids : List String
  few : ids.length ≤ 20

def Relation.key : String := nodeKey "service" r.ns r.service

variable (snap : GraphSnapshot)

def Edge (kind source target : String) : Prop :=
  ∃ edge ∈ snap.edges, edge.kind = kind ∧ edge.source = source ∧ edge.target = target

def IsA (kind key : String) : Prop :=
  ∃ node ∈ snap.nodes, node.kind = kind ∧ node.key = key

def CoLocated (a b : String) : Prop :=
  ∃ pod other host, IsA snap "pod" pod ∧ IsA snap "pod" other ∧ IsA snap "node" host ∧
    Edge snap "selects" a pod ∧ Edge snap "scheduled_on" pod host ∧
    Edge snap "selects" b other ∧ Edge snap "scheduled_on" other host

/-- The claim is about the service that the object is. -/
def Relation.Describes (node : GraphNode) : Prop :=
  node.kind = "service" ∧ namespacePart node.namespace = namespacePart r.ns ∧
    node.name = r.service

def Relation.Touches (seeds : SeedList) : Prop :=
  r.claim.claimId ∈ seeds.ids ∨ r.service ∈ seeds.ids

def EndpointOfSeed (m : Crystallized) (seeds : SeedList) (id : String) : Prop :=
  ∃ r ∈ m.relations, id ∉ seeds.ids ∧
    (r.service ∈ seeds.ids ∧ id = r.claim.claimId ∨ r.claim.claimId ∈ seeds.ids ∧ id = r.service)

/-- The path service, pod, node, pod, service has four edges, and that far leads the metapath. -/
def WithinMetapath (a b : String) : Prop :=
  ∃ n, n ≤ 4 ∧ Walk (Linked snap none .both) a n b

section

variable (order : SetOrder) (snap : GraphSnapshot) (m : Crystallized) (seeds : SeedList)

/-- At most a hundred objects are within the metapath of a seed. -/
def InReach : Prop :=
  ∀ r ∈ m.relations, r.Touches seeds → (reached order snap r.key 4 none .both).length ≤ 100

/-- Two services of the graph are co-located, a seed is about the one and a claim that is no seed
about the other. -/
structure Neighbouring (r r' : Relation) : Prop where
  related : r ∈ m.relations ∧ r' ∈ m.relations
  seed : r.claim.claimId ∈ seeds.ids ∧ r'.claim.claimId ∉ seeds.ids
  coLocated : ∃ node ∈ snap.nodes, ∃ node' ∈ snap.nodes, r.Describes node ∧ r'.Describes node' ∧
    node'.key ≠ node.key ∧ CoLocated snap node.key node'.key

/-- Claims about co-located services are found. -/
def Reaches : Prop :=
  InReach order snap m seeds → ∀ r r', Neighbouring snap m seeds r r' →
    r'.claim.claimId ∈ graphRank order (some (some snap)) seeds.ids m.rows

/-- What is found is the end of a relationship of a seed, or a claim about a service within the
metapath of one. -/
def Sound : Prop :=
  ∀ id ∈ graphRank order (some (some snap)) seeds.ids m.rows, EndpointOfSeed m seeds id ∨
    ∃ q ∈ m.relations, q.Touches seeds ∧ ∃ r ∈ m.relations, r.claim.claimId = id ∧
      ∃ node ∈ snap.nodes, r.Describes node ∧ WithinMetapath snap q.key node.key

def Relation.Parses (r : Relation) : Prop :=
  ':' ∉ (namespacePart r.ns).toList ∧ ':' ∉ r.service.toList

def IsNear (q r : Relation) : Prop :=
  q.Parses ∧ (∃ n, 1 ≤ n ∧ n ≤ 2 ∧ Distance (Linked snap none .both) q.key n r.key) ∧
    ∃ node, snap.nodeAt r.key = some node ∧ node.name ≠ ""

/-- The key is among the first hundred within two edges. -/
def IsSurfaced (q r : Relation) : Prop :=
  q.Parses ∧ ∃ node ∈ (reached order snap q.key 2 none .both).take 100,
    node.key = r.key ∧ node.name ≠ ""

/-- Co-located services lie within two edges of a seed, and no other service has the key of one
that does. -/
structure KeepsClose : Prop where
  near : InReach order snap m seeds → ∀ r r', Neighbouring snap m seeds r r' →
    EndpointOfSeed m seeds r'.claim.claimId ∨
      ∃ q ∈ m.relations, q.Touches seeds ∧ IsNear snap q r'
  unambiguous : ∀ q ∈ m.relations, q.Touches seeds → ∀ r ∈ m.relations, IsSurfaced order snap q r →
    r.claim.claimId ∉ seeds.ids → ¬EndpointOfSeed m seeds r.claim.claimId →
    ∃ node ∈ snap.nodes, r.Describes node

end

theorem two_le_length_splitOn {text : List Char} (h : ':' ∈ text) :
    2 ≤ (text.splitOn ':').length := by
  obtain ⟨before, after, rfl⟩ := List.append_of_mem h
  rw [List.splitOn_append_cons_self, List.length_append]
  have hbefore := List.length_pos_iff.mpr (List.splitOn_ne_nil ':' before)
  have hafter := List.length_pos_iff.mpr (List.splitOn_ne_nil ':' after)
  omega

variable (ns : Option String)

theorem splitOn_key (name : String) :
    (nodeKey "service" ns name).toList.splitOn ':' =
      "service".toList :: ((namespacePart ns).toList.splitOn ':' ++ name.toList.splitOn ':') := by
  have hkey : (nodeKey "service" ns name).toList =
      "service".toList ++ ':' :: ((namespacePart ns).toList ++ ':' :: name.toList) := by
    simp [nodeKey, String.toList_append]
  rw [hkey, List.splitOn_append_cons_self_of_not_mem (by decide), List.splitOn_append_cons_self]

theorem namespacePart_ne : namespacePart ns ≠ "" := by
  cases ns with
  | none => decide
  | some text =>
    unfold namespacePart
    by_cases hempty : text = ""
    · simp [hempty]
    · simp [hempty]

theorem namespacePart_parsed :
    namespacePart (if (namespacePart ns).toList = [] ∨
        (namespacePart ns).toList = "_cluster".toList then none
      else some (namespacePart ns)) = namespacePart ns := by
  have hne := namespacePart_ne ns
  split
  · next hpart =>
    rcases hpart with hempty | hcluster
    · exact absurd (String.toList_eq_nil_iff.mp hempty) hne
    · exact (String.toList_inj.mp hcluster).symm
  · exact if_neg hne

theorem parse_key {r : Relation} (hname : r.service ≠ "") (h : r.Parses) :
    ∃ ns, parseInfraNodeKey r.key = some ("service", ns, r.service) ∧
      namespacePart ns = namespacePart r.ns := by
  have hnonempty : r.service.toList ≠ [] := fun hnil => hname (String.toList_eq_nil_iff.mp hnil)
  unfold parseInfraNodeKey Relation.key
  rw [splitOn_key, List.splitOn_eq_singleton h.1, List.splitOn_eq_singleton h.2]
  simp only [List.singleton_append, hnonempty, or_false,
    if_neg (show "service".toList ≠ [] by decide), String.ofList_toList]
  exact ⟨_, rfl, namespacePart_parsed r.ns⟩

/-- One with a colon has too many parts. -/
theorem parse_key_none {r : Relation} (h : ¬r.Parses) : parseInfraNodeKey r.key = none := by
  unfold parseInfraNodeKey Relation.key
  rw [splitOn_key]
  have hpart := List.length_pos_iff.mpr (List.splitOn_ne_nil ':' (namespacePart r.ns).toList)
  have hrest := List.length_pos_iff.mpr (List.splitOn_ne_nil ':' r.service.toList)
  have hlong : 4 ≤ ("service".toList :: ((namespacePart r.ns).toList.splitOn ':' ++
      r.service.toList.splitOn ':')).length := by
    rw [List.length_cons, List.length_append]
    by_cases hns : ':' ∈ (namespacePart r.ns).toList
    · have htwo := two_le_length_splitOn hns
      omega
    · have htwo := two_le_length_splitOn (not_not.mp fun hnot => h ⟨hns, hnot⟩)
      omega
  split
  · next heq =>
    rw [heq] at hlong
    simp at hlong
  · rfl

section

variable {order : SetOrder} {snap : GraphSnapshot} {m : Crystallized} {seeds : SeedList}

theorem Relation.key_ne (r : Relation) : r.key ≠ "" := by
  intro hempty
  have hnil := String.toList_eq_nil_iff.mpr hempty
  simp [Relation.key, nodeKey, String.toList_append] at hnil

theorem infraKey_record (r : Relation) : infraKey r.record.toDict = some r.key := by
  have hvalue : getOr r.record.toDict "infra_node_key" .null = .str r.key := rfl
  unfold infraKey
  exact if_neg r.key_ne

theorem seedKey_record (r : Relation) [Decidable (r.Touches seeds)] :
    seedKey seeds.ids r.record.toDict = if r.Touches seeds then some r.key else none := by
  have hfrom : endpoint r.record.toDict "from_id" = r.service := rfl
  have hto : endpoint r.record.toDict "to_id" = r.claim.claimId := rfl
  unfold seedKey
  exact if_congr Or.comm rfl rfl

variable {id : String} {node : GraphNode} {q : Relation}

theorem mem_hop (m : Crystallized) {r : Relation} (hr : r ∈ m.relations) :
    id ∈ hop seeds.ids r.record.toDict ↔ id ∉ seeds.ids ∧
      (r.service ∈ seeds.ids ∧ id = r.claim.claimId ∨
        r.claim.claimId ∈ seeds.ids ∧ id = r.service) := by
  have hfrom : endpoint r.record.toDict "from_id" = r.service := rfl
  have hto : endpoint r.record.toDict "to_id" = r.claim.claimId := rfl
  have hone : ∀ (p : Prop) [Decidable p] (text : String),
      id ∈ (if p then [text] else []) ↔ p ∧ id = text := by
    intro p _ text
    split
    · next h => simp [h]
    · next h => simp [h]
  simp only [hop, hfrom, hto, List.mem_append, hone]
  constructor
  · rintro (⟨⟨hseed, -, hnew⟩, rfl⟩ | ⟨⟨hseed, -, hnew⟩, rfl⟩)
    · exact ⟨hnew, .inl ⟨hseed, rfl⟩⟩
    · exact ⟨hnew, .inr ⟨hseed, rfl⟩⟩
  · rintro ⟨hnew, ⟨hseed, rfl⟩ | ⟨hseed, rfl⟩⟩
    · exact .inl ⟨⟨hseed, m.claimed r hr, hnew⟩, rfl⟩
    · exact .inr ⟨⟨hseed, m.served r hr, hnew⟩, rfl⟩

theorem mem_claimsByInfraKey {key : String} :
    id ∈ claimsByInfraKey m.rows key ↔ ∃ r ∈ m.relations, r.key = key ∧ r.claim.claimId = id := by
  have hto : ∀ r : Relation, endpoint r.record.toDict "to_id" = r.claim.claimId := fun _ => rfl
  rw [claimsByInfraKey, Crystallized.rows, List.filterMap_map]
  simp only [List.mem_filterMap, Function.comp_apply, infraKey_record, hto,
    Option.ite_none_right_eq_some, Option.some.injEq]

theorem neighborToNodeKey_toDict (hkind : node.kind ∈ nodeKinds) :
    neighborToNodeKey node.toDict = if node.name ≠ "" then some node.key else none := by
  have hne : node.kind ≠ "" := by
    intro hempty
    rw [hempty] at hkind
    exact absurd hkind (by decide)
  have hkindValue : getOr node.toDict "kind" .null = .str node.kind := rfl
  have hnameValue : getOr node.toDict "name" .null = .str node.name := rfl
  have hnsValue : getOr node.toDict "namespace" .null = textOrNull node.namespace := rfl
  have hpart : (if truthy (textOrNull node.namespace) then pyStr (textOrNull node.namespace)
      else "_cluster") = namespacePart node.namespace := by
    cases node.namespace with
    | none => rfl
    | some text =>
      by_cases hempty : text = "" <;> simp [textOrNull, truthy, namespacePart, pyStr, hempty]
  simp only [neighborToNodeKey, hkindValue, hnameValue, hnsValue, hpart]
  by_cases hname : node.name = "" <;>
    simp [truthy, hne, hname, pyStr, GraphNode.key, nodeKey]

theorem mem_expandKey (hq : q ∈ m.relations) :
    id ∈ expandKey order (some snap) m.rows seeds.ids q.key ↔
      ∃ r ∈ m.relations, IsSurfaced order snap q r ∧ r.claim.claimId = id ∧ id ∉ seeds.ids := by
  unfold expandKey
  by_cases hparses : q.Parses
  · obtain ⟨ns', hparsed, hpart⟩ := parse_key (m.served q hq) hparses
    have hkey : nodeKey "service" ns' q.service = q.key := by
      rw [Relation.key, nodeKey, nodeKey, hpart]
    rw [hparsed]
    simp only [neighbors, hkey, ← List.map_take, List.flatMap_map, List.mem_flatMap]
    constructor
    · rintro ⟨node, hnode, hid⟩
      have hreached := List.mem_of_mem_take hnode
      have hin := (GraphSnapshot.nodeAt_eq_some (mem_nodes_of_mem_reached hreached)).1
      rw [neighborToNodeKey_toDict (snap.kind_mem hin)] at hid
      by_cases hname : node.name = ""
      · simp [hname] at hid
      · simp only [ne_eq, hname, not_false_eq_true, if_true] at hid
        split at hid
        · cases hid
        · obtain ⟨hclaim, hnew⟩ := List.mem_filter.mp hid
          obtain ⟨r, hr, hrkey, hrid⟩ := mem_claimsByInfraKey.mp hclaim
          simp only [decide_eq_true_eq] at hnew
          exact ⟨r, hr, ⟨hparses, node, hnode, hrkey.symm, hname⟩, hrid, hnew.2⟩
    · rintro ⟨r, hr, ⟨-, node, hnode, hrkey, hname⟩, hrid, hnew⟩
      refine ⟨node, hnode, ?_⟩
      have hreached := List.mem_of_mem_take hnode
      have hin := (GraphSnapshot.nodeAt_eq_some (mem_nodes_of_mem_reached hreached)).1
      have hother : node.key ≠ q.key := by
        obtain ⟨n, hpos, -, hdist⟩ := ((map_key_reached order (by simp)).1 node.key).mp
          (List.mem_map.mpr ⟨node, hreached, rfl⟩)
        rintro heq
        rw [heq] at hdist
        have hzero := hdist.least 0 .start
        omega
      rw [neighborToNodeKey_toDict (snap.kind_mem hin)]
      simp only [ne_eq, hname, not_false_eq_true, if_true]
      rw [if_neg hother]
      refine List.mem_filter.mpr ⟨mem_claimsByInfraKey.mpr ⟨r, hr, hrkey.symm, hrid⟩, ?_⟩
      have hclaimed : id ≠ "" := hrid ▸ m.claimed r hr
      simp [hclaimed, hnew]
  · rw [parse_key_none hparses]
    simp only [List.not_mem_nil, false_iff]
    rintro ⟨r, -, ⟨hcontra, -⟩, -⟩
    exact hparses hcontra

/-- **What is ranked** are the ends of the relationships of the seeds, and the claims that are
surfaced from their keys. -/
theorem mem_graphRank :
    id ∈ graphRank order (some (some snap)) seeds.ids m.rows ↔ EndpointOfSeed m seeds id ∨
      ∃ q ∈ m.relations, q.Touches seeds ∧ ∃ r ∈ m.relations, IsSurfaced order snap q r ∧
        r.claim.claimId = id ∧ id ∉ seeds.ids := by
  classical
  unfold graphRank
  by_cases hnone : seeds.ids = []
  · rw [if_pos hnone]
    simp [EndpointOfSeed, Relation.Touches, hnone]
  · rw [if_neg hnone]
    simp only [List.take_of_length_le seeds.few, List.mem_eraseDups, List.mem_append]
    refine or_congr ?_ ?_
    · rw [Crystallized.rows, List.flatMap_map]
      simp only [List.mem_flatMap, EndpointOfSeed]
      exact exists_congr fun r => and_congr_right fun hr => mem_hop m hr
    · have hkeys : ∀ key, key ∈ order.walk (m.rows.filterMap (seedKey seeds.ids)).eraseDups ↔
          ∃ q ∈ m.relations, q.Touches seeds ∧ q.key = key := by
        intro key
        rw [(order.perm _).mem_iff, List.mem_eraseDups, Crystallized.rows, List.filterMap_map]
        simp only [List.mem_filterMap, Function.comp_apply, seedKey_record,
          Option.ite_none_right_eq_some, Option.some.injEq]
      simp only [metapathExpand, List.mem_flatMap, hkeys]
      constructor
      · rintro ⟨_, ⟨q, hq, htouches, rfl⟩, hid⟩
        exact ⟨q, hq, htouches, (mem_expandKey hq).mp hid⟩
      · rintro ⟨q, hq, htouches, hfound⟩
        exact ⟨q.key, ⟨q, hq, htouches, rfl⟩, (mem_expandKey hq).mpr hfound⟩

/-- With at most a hundred objects in reach the first hundred are all. -/
theorem isSurfaced_iff (hreach : InReach order snap m seeds) {r : Relation} (hq : q ∈ m.relations)
    (htouches : q.Touches seeds) : IsSurfaced order snap q r ↔ IsNear snap q r := by
  have hshort : reached order snap q.key 2 none .both <+: reached order snap q.key 4 none .both :=
    prefix_reached order (by omega)
  have hall : (reached order snap q.key 2 none .both).take 100 =
      reached order snap q.key 2 none .both :=
    List.take_of_length_le (hshort.length_le.trans (hreach q hq htouches))
  have hmem := (@map_key_reached snap q.key none .both 2 order (by simp)).1 r.key
  unfold IsSurfaced IsNear
  rw [hall]
  refine and_congr_right fun _ => ?_
  constructor
  · rintro ⟨node, hnode, hkey, hname⟩
    have hat := mem_nodes_of_mem_reached hnode
    rw [hkey] at hat
    exact ⟨hmem.mp (List.mem_map.mpr ⟨node, hnode, hkey⟩), node, hat, hname⟩
  · rintro ⟨hdist, node, hat, hname⟩
    obtain ⟨other, hother, hkey⟩ := List.mem_map.mp (hmem.mpr hdist)
    have hotherAt := mem_nodes_of_mem_reached hother
    rw [hkey, hat] at hotherAt
    cases hotherAt
    exact ⟨node, hother, hkey, hname⟩

theorem reaches_iff : Reaches order snap m seeds ↔
    (InReach order snap m seeds → ∀ r r', Neighbouring snap m seeds r r' →
      EndpointOfSeed m seeds r'.claim.claimId ∨
        ∃ q ∈ m.relations, q.Touches seeds ∧ IsNear snap q r') := by
  refine forall_congr' fun hreach => forall_congr' fun r => forall_congr' fun r' =>
    forall_congr' fun hneighbouring => ?_
  rw [mem_graphRank]
  refine or_congr_right ?_
  constructor
  · rintro ⟨q, hq, htouches, other, hother, hsurfaced, hid, -⟩
    have hsame : other = r' :=
      List.inj_on_of_nodup_map m.fresh hother hneighbouring.related.2 hid
    rw [hsame] at hsurfaced
    exact ⟨q, hq, htouches, (isSurfaced_iff hreach hq htouches).mp hsurfaced⟩
  · rintro ⟨q, hq, htouches, hnear⟩
    exact ⟨q, hq, htouches, r', hneighbouring.related.2,
      (isSurfaced_iff hreach hq htouches).mpr hnear, rfl, hneighbouring.seed.2⟩

theorem withinMetapath_of_surfaced {r : Relation} (hsurfaced : IsSurfaced order snap q r)
    (hdescribes : r.Describes node) : WithinMetapath snap q.key node.key := by
  obtain ⟨-, found, hfound, hkey, -⟩ := hsurfaced
  obtain ⟨n, -, hle, hdist⟩ := ((map_key_reached order (by simp)).1 found.key).mp
    (List.mem_map.mpr ⟨found, List.mem_of_mem_take hfound, rfl⟩)
  have hsame : found.key = node.key := by
    obtain ⟨hkind, hns, hname⟩ := hdescribes
    rw [hkey, Relation.key, GraphNode.key, nodeKey, nodeKey, hkind, hns, hname]
  rw [hsame] at hdist
  exact ⟨n, hle.trans (by decide), hdist.walk⟩

theorem sound_iff : Sound order snap m seeds ↔
    ∀ q ∈ m.relations, q.Touches seeds → ∀ r ∈ m.relations, IsSurfaced order snap q r →
      r.claim.claimId ∉ seeds.ids → ¬EndpointOfSeed m seeds r.claim.claimId →
      ∃ node ∈ snap.nodes, r.Describes node := by
  constructor
  · intro hsound q hq htouches r hr hsurfaced hnew hend
    rcases hsound _ (mem_graphRank.mpr (.inr ⟨q, hq, htouches, r, hr, hsurfaced, rfl, hnew⟩)) with
      hcontra | ⟨-, -, -, other, hother, hid, node, hnode, hdescribes, -⟩
    · exact absurd hcontra hend
    · rw [List.inj_on_of_nodup_map m.fresh hother hr hid] at hdescribes
      exact ⟨node, hnode, hdescribes⟩
  · intro hclear id hid
    rcases mem_graphRank.mp hid with hend | ⟨q, hq, htouches, r, hr, hsurfaced, rfl, hnew⟩
    · exact .inl hend
    · by_cases hend : EndpointOfSeed m seeds r.claim.claimId
      · exact .inl hend
      · obtain ⟨node, hnode, hdescribes⟩ := hclear q hq htouches r hr hsurfaced hnew hend
        exact .inr ⟨q, hq, htouches, r, hr, rfl, node, hnode, hdescribes,
          withinMetapath_of_surfaced hsurfaced hdescribes⟩

end

/-- **The graph channel finds the claims about co-located services**, and only those, exactly when
these are near a seed and no key is another service's. -/
theorem metapath_retrieval_iff (snap : GraphSnapshot) (m : Crystallized)
    (seeds : SeedList) :
    Reaches order snap m seeds ∧ Sound order snap m seeds ↔ KeepsClose order snap m seeds := by
  rw [reaches_iff, sound_iff]
  exact ⟨fun h => ⟨h.1, h.2⟩, fun h => ⟨h.near, h.unambiguous⟩⟩

def shopObject (kind name : String) : GraphNode :=
  { kind := kind, name := name, «namespace» := some "shop" }

def workerSnapshot : GraphSnapshot where
  recordedAt := "2024-01-01T00:00:00+00:00"
  nodes := [shopObject "service" "web", shopObject "service" "pay", shopObject "pod" "web-1",
    shopObject "pod" "pay-1", { kind := "node", name := "worker-01" }]
  edges := [{ kind := "selects", source := "service:shop:web", target := "pod:shop:web-1" },
    { kind := "selects", source := "service:shop:pay", target := "pod:shop:pay-1" },
    { kind := "scheduled_on", source := "pod:shop:web-1", target := "node:_cluster:worker-01" },
    { kind := "scheduled_on", source := "pod:shop:pay-1", target := "node:_cluster:worker-01" }]
  valid := by decide

def shopRelation (service claimId : String) : Relation where
  relationshipId := "rel_" ++ claimId
  service := service
  ns := some "shop"
  claim := {
    claimId := claimId, statement := "restarted", entityRefs := [service]
    supportingObservationIds := [], contradictingClaimIds := [], supersededBy := none
    confidence := .int 1, confidenceFactors := [], freshness := .int 1
    tier := "episodic", state := "active"
    createdAt := "2024-01-01T00:00:00+00:00", updatedAt := "2024-01-01T00:00:00+00:00" }

def shopClaims : Crystallized where
  relations := [shopRelation "web" "claim_web", shopRelation "pay" "claim_pay"]
  fresh := by decide
  claimed := by decide
  served := by decide

def webSeed : SeedList := ⟨["claim_web"], by decide⟩

theorem neighbouring_shop : Neighbouring workerSnapshot shopClaims webSeed
    (shopRelation "web" "claim_web") (shopRelation "pay" "claim_pay") where
  related := ⟨.head _, .tail _ (.head _)⟩
  seed := by decide
  coLocated := by
    refine ⟨shopObject "service" "web", .head _, shopObject "service" "pay", .tail _ (.head _),
      ⟨rfl, rfl, rfl⟩, ⟨rfl, rfl, rfl⟩, by decide, "pod:shop:web-1", "pod:shop:pay-1",
      "node:_cluster:worker-01", ?_⟩
    unfold IsA Edge
    decide

/-- From the claim about the one service only that service is found, not the claim about the
other, though their pods share the node. -/
theorem co_located_claim_not_found :
    graphRank insertionOrder (some (some workerSnapshot)) webSeed.ids shopClaims.rows = ["web"] ∧
      ¬Reaches insertionOrder workerSnapshot shopClaims webSeed := by
  have hrank : graphRank insertionOrder (some (some workerSnapshot)) webSeed.ids
      shopClaims.rows = ["web"] := by rfl
  have hreach : InReach insertionOrder workerSnapshot shopClaims webSeed := by
    intro r hr _
    have hshort : ∀ r ∈ shopClaims.relations,
        (reached insertionOrder workerSnapshot r.key 4 none .both).length ≤ 100 := by decide
    exact hshort r hr
  refine ⟨hrank, fun hreaches => ?_⟩
  have hfound := hreaches hreach _ _ neighbouring_shop
  exact absurd hfound (by decide)

end OrbitalMesh.GraphRetrieval
