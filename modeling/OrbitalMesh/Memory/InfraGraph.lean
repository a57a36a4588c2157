import OrbitalMesh.Base.BreadthFirst
import OrbitalMesh.Decision.Trigger

/-!
# The infrastructure graph

Kubernetes objects and the edges between them, as a refresh stores them.  `neighbors` walks the
edges from an object, level by level.  `neighbors_exact` says what it returns: the objects at a
distance from one to the depth in the graph of the allowed edges, each once and the near before
the far.
-/

namespace OrbitalMesh.InfraGraph

open OrbitalMesh.Decision BreadthFirst

def nodeKinds : List String :=
  ["service", "deployment", "pod", "namespace", "node", "configmap", "secret", "ingress",
    "statefulset", "daemonset", "job"]

/-- `EDGE_KINDS`. -/
def edgeKindNames : List String :=
  ["routes_to", "selects", "owns", "mounts", "scheduled_on", "exposes"]

/-- `namespace or "_cluster"`. -/
def namespacePart : Option String → String
  | none => "_cluster"
  | some text => if text = "" then "_cluster" else text

def nodeKey (kind : String) (ns : Option String) (name : String) : String :=
  kind ++ ":" ++ namespacePart ns ++ ":" ++ name

structure GraphNode where
  kind : String
  name : String
  «namespace» : Option String := none
  labels : Dict := []
  attributes : Dict := []
deriving DecidableEq

def GraphNode.key (node : GraphNode) : String := nodeKey node.kind node.namespace node.name

def GraphNode.toDict (node : GraphNode) : Dict :=
  [("kind", .str node.kind),
    ("name", .str node.name),
    ("namespace", textOrNull node.namespace),
    ("labels", .obj node.labels),
    ("attributes", .obj node.attributes)]

structure GraphEdge where
  kind : String
  source : String
  target : String
  attributes : Dict := []

/-- What `_validate` asks of an edge. -/
def validateEdge (keys : List String) (edge : GraphEdge) : Except PyError Unit := do
  rejectIf (!edgeKindNames.contains edge.kind)
    ⟨.valueError, "unknown edge kind: " ++ edge.kind⟩
  rejectIf (!keys.contains edge.source)
    ⟨.valueError, "edge source not in graph: " ++ edge.source⟩
  rejectIf (!keys.contains edge.target)
    ⟨.valueError, "edge target not in graph: " ++ edge.target⟩

/-- The loop of `_validate` over the edges. -/
def validateEdges (keys : List String) : List GraphEdge → Except PyError Unit
  | [] => .ok ()
  | edge :: rest => do
    validateEdge keys edge
    validateEdges keys rest

def validate (nodes : List GraphNode) (edges : List GraphEdge) : Except PyError Unit := do
  match nodes.find? fun node => !nodeKinds.contains node.kind with
  | some node => .error ⟨.valueError, "unknown node kind: " ++ node.kind⟩
  | none => validateEdges (nodes.map GraphNode.key) edges

/-- `GraphSnapshot`, as `update_snapshot` stores it: what it holds has passed `_validate`. -/
structure GraphSnapshot where
  recordedAt : String
  nodes : List GraphNode
  edges : List GraphEdge
  valid : validate nodes edges = .ok ()

/-- `node_index.get(key)`: of two objects with one key, the last. -/
def GraphSnapshot.nodeAt (snap : GraphSnapshot) (key : String) : Option GraphNode :=
  snap.nodes.reverse.find? fun node => node.key == key

/-- `direction`. -/
inductive Direction where
  | inward
  | outward
  | both
deriving DecidableEq

/-- `allowed_edges`, and whether an edge is one of them. -/
def allows (edgeKinds : Option (List String)) (kind : String) : Bool :=
  match edgeKinds with
  | none => true
  | some kinds => kinds.isEmpty || kinds.contains kind

/-- `keys.add(key)`. -/
def addKey (keys : List String) (key : String) : List String :=
  if keys.contains key then keys else keys ++ [key]

/-- What is fixed during one call: the graph, the edges that count and their direction. -/
structure Search where
  snap : GraphSnapshot
  edgeKinds : Option (List String)
  direction : Direction

namespace Search

variable (s : Search)

def takes (visited : List String) (key : String) : Bool :=
  !visited.contains key && (s.snap.nodeAt key).isSome

/-- What one edge adds to `next_frontier`. -/
def addEdge (visited frontier next : List String) (edge : GraphEdge) : List String :=
  if !allows s.edgeKinds edge.kind then next
  else
    let next :=
      if s.direction ≠ .inward ∧ frontier.contains edge.source ∧ s.takes visited edge.target then
        addKey next edge.target
      else next
    if s.direction ≠ .outward ∧ frontier.contains edge.target ∧ s.takes visited edge.source then
      addKey next edge.source
    else next

/-- `next_frontier`, in the order in which its keys are added. -/
def nextFrontier (visited frontier : List String) : List String :=
  s.snap.edges.foldl (s.addEdge visited frontier) []

end Search

/-- The order in which a set is walked, given the order in which its members were added. -/
structure SetOrder where
  walk : List String → List String
  perm : ∀ keys, (walk keys).Perm keys

/-- The objects that `neighbors` returns, before they are made dictionaries. -/
def reached (order : SetOrder) (snap : GraphSnapshot) (start : String) (depth : Int)
    (edgeKinds : Option (List String)) (direction : Direction) : List GraphNode :=
  if (snap.nodeAt start).isNone then []
  else
    let search : Search := { snap, edgeKinds, direction }
    (BreadthFirst.search (fun visited frontier => order.walk (search.nextFrontier visited frontier))
      depth.toNat [start] [start]).filterMap snap.nodeAt

def neighbors (order : SetOrder) (snapshot : Option GraphSnapshot) (kind name : String)
    (ns : Option String) (depth : Int) (edgeKinds : Option (List String))
    (direction : Direction) : List Dict :=
  match snapshot with
  | none => []
  | some snap =>
    (reached order snap (nodeKey kind ns name) depth edgeKinds direction).map GraphNode.toDict

def Counts (edgeKinds : Option (List String)) (kind : String) : Prop :=
  ∀ kinds, edgeKinds = some kinds → kind ∈ kinds

/-- An edge that counts leads from `a` to `b` in the given direction. -/
def Linked (snap : GraphSnapshot) (edgeKinds : Option (List String)) (direction : Direction)
    (a b : String) : Prop :=
  ∃ edge ∈ snap.edges, Counts edgeKinds edge.kind ∧
    (direction ≠ .inward ∧ edge.source = a ∧ edge.target = b ∨
      direction ≠ .outward ∧ edge.target = a ∧ edge.source = b)

section

variable {snap : GraphSnapshot} {edgeKinds : Option (List String)} {direction : Direction}

theorem allows_iff (hkinds : edgeKinds ≠ some []) (kind : String) :
    allows edgeKinds kind = true ↔ Counts edgeKinds kind := by
  cases edgeKinds with
  | none => simp [allows, Counts]
  | some kinds =>
    have hsome : kinds.isEmpty = false := by
      cases kinds with
      | nil => exact absurd rfl hkinds
      | cons kind rest => rfl
    simp [allows, Counts, hsome]

variable {keys : List String} {edge : GraphEdge} {node : GraphNode} {key : String}

theorem validateEdges_mem {edges : List GraphEdge} (h : validateEdges keys edges = .ok ())
    (hmem : edge ∈ edges) : edge.source ∈ keys ∧ edge.target ∈ keys := by
  induction edges with
  | nil => cases hmem
  | cons first rest ih =>
    obtain ⟨_, hfirst, hrest⟩ := bind_ok h
    rcases List.mem_cons.mp hmem with rfl | hmem
    · obtain ⟨_, -, hends⟩ := bind_ok hfirst
      obtain ⟨_, hsource, htarget⟩ := bind_ok hends
      unfold rejectIf at hsource htarget
      constructor
      · by_contra hnot
        rw [if_pos (by simpa using hnot)] at hsource
        cases hsource
      · by_contra hnot
        rw [if_pos (by simpa using hnot)] at htarget
        cases htarget
    · exact ih hrest hmem

/-- An edge that is stored joins objects that are stored. -/
theorem GraphSnapshot.ends (snap : GraphSnapshot) (hmem : edge ∈ snap.edges) :
    edge.source ∈ snap.nodes.map GraphNode.key ∧ edge.target ∈ snap.nodes.map GraphNode.key := by
  have hvalid := snap.valid
  unfold validate at hvalid
  split at hvalid
  · cases hvalid
  · exact validateEdges_mem hvalid hmem

theorem GraphSnapshot.kind_mem (snap : GraphSnapshot) (hmem : node ∈ snap.nodes) :
    node.kind ∈ nodeKinds := by
  have hvalid := snap.valid
  unfold validate at hvalid
  split at hvalid
  · cases hvalid
  · next hnone =>
    have hkind := List.find?_eq_none.mp hnone node hmem
    simpa using hkind

theorem isSome_nodeAt_iff :
    (snap.nodeAt key).isSome = true ↔ key ∈ snap.nodes.map GraphNode.key := by
  simp [GraphSnapshot.nodeAt, List.find?_isSome]

theorem GraphSnapshot.nodeAt_eq_some (h : snap.nodeAt key = some node) :
    node ∈ snap.nodes ∧ node.key = key := by
  have hmem := List.mem_of_find?_eq_some h
  have hkey := List.find?_some h
  exact ⟨List.mem_reverse.mp hmem, by simpa using hkey⟩

theorem GraphSnapshot.nodeAt_key (hdistinct : (snap.nodes.map GraphNode.key).Nodup)
    (hmem : node ∈ snap.nodes) : snap.nodeAt node.key = some node := by
  obtain ⟨other, hother⟩ := Option.isSome_iff_exists.mp
    (isSome_nodeAt_iff.mpr (List.mem_map.mpr ⟨node, hmem, rfl⟩))
  obtain ⟨hin, hkey⟩ := GraphSnapshot.nodeAt_eq_some hother
  rw [hother, List.inj_on_of_nodup_map hdistinct hin hmem hkey]

theorem mem_addKey {other : String} : other ∈ addKey keys key ↔ other ∈ keys ∨ other = key := by
  unfold addKey
  split
  · next h => exact ⟨.inl, fun hor => hor.elim id fun heq => heq ▸ by simpa using h⟩
  · rw [List.mem_append, List.mem_singleton]

theorem nodup_addKey (h : keys.Nodup) (key : String) : (addKey keys key).Nodup := by
  unfold addKey
  split
  · exact h
  · next hnew =>
    refine List.nodup_append.mpr ⟨h, List.nodup_singleton _, fun a ha b hb heq => ?_⟩
    rw [List.mem_singleton] at hb
    exact hnew (by simpa [heq, hb] using ha)

namespace Search

variable {s : Search} {visited frontier next : List String} {key : String}

def Leads (s : Search) (visited frontier : List String) (edge : GraphEdge) (key : String) : Prop :=
  allows s.edgeKinds edge.kind = true ∧ s.takes visited key = true ∧
    (s.direction ≠ .inward ∧ edge.source ∈ frontier ∧ edge.target = key ∨
      s.direction ≠ .outward ∧ edge.target ∈ frontier ∧ edge.source = key)

theorem mem_addEdge {edge : GraphEdge} : key ∈ s.addEdge visited frontier next edge ↔
    key ∈ next ∨ s.Leads visited frontier edge key := by
  have hadd : ∀ (p : Prop) [Decidable p] (keys : List String) (other : String),
      key ∈ (if p then addKey keys other else keys) ↔ key ∈ keys ∨ p ∧ other = key := by
    intro p _ keys other
    split
    · next h => simp [mem_addKey, h, eq_comm]
    · next h => simp [h]
  unfold addEdge Leads
  by_cases hallowed : allows s.edgeKinds edge.kind = true
  · rw [if_neg (by simp [hallowed])]
    simp only [hadd, hallowed, true_and, List.contains_iff_mem]
    constructor
    · rintro ((hmem | ⟨⟨hdir, hfrom, htakes⟩, rfl⟩) | ⟨⟨hdir, hfrom, htakes⟩, rfl⟩)
      · exact .inl hmem
      · exact .inr ⟨htakes, .inl ⟨hdir, hfrom, rfl⟩⟩
      · exact .inr ⟨htakes, .inr ⟨hdir, hfrom, rfl⟩⟩
    · rintro (hmem | ⟨htakes, ⟨hdir, hfrom, rfl⟩ | ⟨hdir, hfrom, rfl⟩⟩)
      · exact .inl (.inl hmem)
      · exact .inl (.inr ⟨⟨hdir, hfrom, htakes⟩, rfl⟩)
      · exact .inr ⟨⟨hdir, hfrom, htakes⟩, rfl⟩
  · rw [if_pos (by simpa using hallowed)]
    simp [hallowed]

theorem nodup_addEdge (h : next.Nodup) (edge : GraphEdge) :
    (s.addEdge visited frontier next edge).Nodup := by
  have hadd : ∀ (p : Prop) [Decidable p] (keys : List String) (other : String), keys.Nodup →
      (if p then addKey keys other else keys).Nodup := by
    intro p _ keys other hkeys
    split
    · exact nodup_addKey hkeys other
    · exact hkeys
  unfold addEdge
  split
  · exact h
  · exact hadd _ _ _ (hadd _ _ _ h)

theorem foldl_addEdge (edges : List GraphEdge) (h : next.Nodup) :
    (edges.foldl (s.addEdge visited frontier) next).Nodup ∧
      ∀ key, key ∈ edges.foldl (s.addEdge visited frontier) next ↔
        key ∈ next ∨ ∃ edge ∈ edges, s.Leads visited frontier edge key := by
  induction edges generalizing next with
  | nil => exact ⟨h, fun key => by simp⟩
  | cons edge rest ih =>
    obtain ⟨hnodup, hmem⟩ := ih (nodup_addEdge h edge)
    refine ⟨hnodup, fun key => ?_⟩
    rw [List.foldl_cons, hmem, mem_addEdge, or_assoc]
    simp

/-- **One level** adds what an edge that counts leads to. -/
theorem expands (order : SetOrder) (s : Search) (hkinds : s.edgeKinds ≠ some []) :
    Expands (Linked s.snap s.edgeKinds s.direction)
      fun visited frontier => order.walk (s.nextFrontier visited frontier) where
  mem_iff visited frontier key := by
    have hmem := (@foldl_addEdge s visited frontier [] s.snap.edges List.nodup_nil).2 key
    rw [(order.perm _).mem_iff, nextFrontier, hmem]
    simp only [List.not_mem_nil, false_or]
    constructor
    · rintro ⟨edge, hedge, hallowed, htakes, hends⟩
      have hnew : key ∉ visited := by
        simp only [takes, Bool.and_eq_true, Bool.not_eq_true'] at htakes
        simpa using htakes.1
      have hcounts := (allows_iff hkinds edge.kind).mp hallowed
      refine ⟨hnew, ?_⟩
      rcases hends with ⟨hdir, hfrom, hto⟩ | ⟨hdir, hfrom, hto⟩
      · exact ⟨_, hfrom, edge, hedge, hcounts, .inl ⟨hdir, rfl, hto⟩⟩
      · exact ⟨_, hfrom, edge, hedge, hcounts, .inr ⟨hdir, rfl, hto⟩⟩
    · rintro ⟨hnew, a, ha, edge, hedge, hcounts, hends⟩
      have hknown : (s.snap.nodeAt key).isSome = true := by
        obtain ⟨hsource, htarget⟩ := s.snap.ends hedge
        rw [isSome_nodeAt_iff]
        rcases hends with ⟨-, -, rfl⟩ | ⟨-, -, rfl⟩
        · exact htarget
        · exact hsource
      refine ⟨edge, hedge, (allows_iff hkinds edge.kind).mpr hcounts, ?_, ?_⟩
      · simp [takes, hknown, hnew]
      · rcases hends with ⟨hdir, rfl, hto⟩ | ⟨hdir, rfl, hto⟩
        · exact .inl ⟨hdir, ha, hto⟩
        · exact .inr ⟨hdir, ha, hto⟩
  nodup visited frontier := by
    have hnodup := (@foldl_addEdge s visited frontier [] s.snap.edges List.nodup_nil).1
    exact (order.perm _).nodup_iff.mpr hnodup

end Search

end

section

variable {snap : GraphSnapshot} {start : String} {edgeKinds edgeKinds' : Option (List String)}
  {direction : Direction} {depth depth' : Int}

theorem Linked.mem_keys {a b : String} (h : Linked snap edgeKinds direction a b) :
    a ∈ snap.nodes.map GraphNode.key ∧ b ∈ snap.nodes.map GraphNode.key := by
  obtain ⟨edge, hedge, -, hends⟩ := h
  obtain ⟨hsource, htarget⟩ := snap.ends hedge
  rcases hends with ⟨-, rfl, rfl⟩ | ⟨-, rfl, rfl⟩
  · exact ⟨hsource, htarget⟩
  · exact ⟨htarget, hsource⟩

theorem mem_keys_of_distance {m : Nat} {key : String} (hpos : 1 ≤ m)
    (h : Distance (Linked snap edgeKinds direction) start m key) :
    start ∈ snap.nodes.map GraphNode.key ∧ key ∈ snap.nodes.map GraphNode.key := by
  obtain ⟨k, rfl⟩ : ∃ k, m = k + 1 := ⟨m - 1, by omega⟩
  obtain ⟨first, hfirst⟩ := h.walk.exists_first
  obtain ⟨last, -, hlast⟩ := h.exists_before
  exact ⟨hfirst.mem_keys.1, hlast.mem_keys.2⟩

variable (order : SetOrder)

theorem map_key_reached (hkinds : edgeKinds ≠ some []) :
    (∀ key, key ∈ (reached order snap start depth edgeKinds direction).map GraphNode.key ↔
        ∃ m, 1 ≤ m ∧ m ≤ depth.toNat ∧
          Distance (Linked snap edgeKinds direction) start m key) ∧
      ((reached order snap start depth edgeKinds direction).map GraphNode.key).Nodup ∧
      ((reached order snap start depth edgeKinds direction).map GraphNode.key).Pairwise
        fun a b => ∀ i j, Distance (Linked snap edgeKinds direction) start i a →
          Distance (Linked snap edgeKinds direction) start j b → i ≤ j := by
  have hspec := search_spec (Search.expands order { snap, edgeKinds, direction } hkinds) start
    depth.toNat
  unfold reached
  by_cases hstart : (snap.nodeAt start).isNone = true
  · rw [if_pos hstart]
    refine ⟨fun key => ?_, List.nodup_nil, List.Pairwise.nil⟩
    simp only [List.map_nil, List.not_mem_nil, false_iff]
    rintro ⟨m, hpos, -, hdist⟩
    have hknown := isSome_nodeAt_iff.mpr (mem_keys_of_distance hpos hdist).1
    rw [Option.isNone_iff_eq_none] at hstart
    rw [hstart] at hknown
    cases hknown
  · rw [if_neg hstart]
    have hkeys : ∀ keys : List String, (∀ key ∈ keys, (snap.nodeAt key).isSome = true) →
        (keys.filterMap snap.nodeAt).map GraphNode.key = keys := by
      intro keys hall
      induction keys with
      | nil => rfl
      | cons key rest ih =>
        obtain ⟨node, hnode⟩ := Option.isSome_iff_exists.mp (hall key (.head _))
        rw [List.filterMap_cons_some hnode, List.map_cons,
          ih fun other hmem => hall other (.tail _ hmem),
          (GraphSnapshot.nodeAt_eq_some hnode).2]
    rw [hkeys]
    · exact hspec
    · intro key hmem
      obtain ⟨m, hpos, -, hdist⟩ := (hspec.1 key).mp hmem
      exact isSome_nodeAt_iff.mpr (mem_keys_of_distance hpos hdist).2

variable {node : GraphNode}

theorem mem_nodes_of_mem_reached {order : SetOrder}
    (h : node ∈ reached order snap start depth edgeKinds direction) :
    snap.nodeAt node.key = some node := by
  unfold reached at h
  split at h
  · cases h
  · obtain ⟨key, -, hnode⟩ := List.mem_filterMap.mp h
    rw [(GraphSnapshot.nodeAt_eq_some hnode).2, hnode]

theorem prefix_reached (hle : depth ≤ depth') :
    reached order snap start depth edgeKinds direction <+:
      reached order snap start depth' edgeKinds direction := by
  unfold reached
  split
  · exact List.prefix_rfl
  · exact (prefix_search _ (Int.toNat_le_toNat hle) _ _).filterMap _

/-- The kinds of `edgeKinds` are among those of `edgeKinds'`. -/
def Among (edgeKinds edgeKinds' : Option (List String)) : Prop :=
  ∀ kind, Counts edgeKinds kind → Counts edgeKinds' kind

/-- **What `neighbors` returns.** -/
structure ExactNeighbors (snap : GraphSnapshot) (kind name : String)
    (ns : Option String) (depth : Int) (edgeKinds : Option (List String))
    (direction : Direction) (nodes : List GraphNode) : Prop where
  returned : neighbors order (some snap) kind name ns depth edgeKinds direction =
    nodes.map GraphNode.toDict
  mem_iff : ∀ node, node ∈ nodes ↔ node ∈ snap.nodes ∧ ∃ m : Nat, 1 ≤ m ∧ (m : Int) ≤ depth ∧
    Distance (Linked snap edgeKinds direction) (nodeKey kind ns name) m node.key
  once : (nodes.map GraphNode.key).Nodup
  ordered : nodes.Pairwise fun a b => ∀ i j,
    Distance (Linked snap edgeKinds direction) (nodeKey kind ns name) i a.key →
      Distance (Linked snap edgeKinds direction) (nodeKey kind ns name) j b.key → i ≤ j
  notStart : ∀ node ∈ nodes, node.key ≠ nodeKey kind ns name
  deeper : ∀ depth', depth ≤ depth' →
    neighbors order (some snap) kind name ns depth edgeKinds direction <+:
      neighbors order (some snap) kind name ns depth' edgeKinds direction
  wider : ∀ edgeKinds', edgeKinds' ≠ some [] → Among edgeKinds edgeKinds' →
    neighbors order (some snap) kind name ns depth edgeKinds direction ⊆
      neighbors order (some snap) kind name ns depth edgeKinds' direction

theorem mem_reached_iff (hdistinct : (snap.nodes.map GraphNode.key).Nodup)
    (hkinds : edgeKinds ≠ some []) :
    node ∈ reached order snap start depth edgeKinds direction ↔ node ∈ snap.nodes ∧
      ∃ m : Nat, 1 ≤ m ∧ (m : Int) ≤ depth ∧
        Distance (Linked snap edgeKinds direction) start m node.key := by
  have hmem := (@map_key_reached snap start edgeKinds direction depth order hkinds).1 node.key
  have hdepth : (∃ m : Nat, 1 ≤ m ∧ m ≤ depth.toNat ∧
      Distance (Linked snap edgeKinds direction) start m node.key) ↔
        ∃ m : Nat, 1 ≤ m ∧ (m : Int) ≤ depth ∧
          Distance (Linked snap edgeKinds direction) start m node.key :=
    exists_congr fun m => and_congr_right fun hpos => and_congr_left fun _ => by omega
  rw [hdepth] at hmem
  rw [← hmem]
  constructor
  · intro h
    have hat := mem_nodes_of_mem_reached h
    exact ⟨(GraphSnapshot.nodeAt_eq_some hat).1, List.mem_map.mpr ⟨node, h, rfl⟩⟩
  · rintro ⟨hin, hkey⟩
    obtain ⟨other, hother, heq⟩ := List.mem_map.mp hkey
    have hat := mem_nodes_of_mem_reached hother
    rw [heq, GraphSnapshot.nodeAt_key hdistinct hin, Option.some.injEq] at hat
    exact hat ▸ hother

def Direction.opposite : Direction → Direction
  | .inward => .outward
  | .outward => .inward
  | .both => .both

theorem Linked.opposite {a b : String} (h : Linked snap edgeKinds direction a b) :
    Linked snap edgeKinds direction.opposite b a := by
  obtain ⟨edge, hedge, hcounts, hends⟩ := h
  refine ⟨edge, hedge, hcounts, ?_⟩
  cases direction <;> simpa [Direction.opposite, and_comm, or_comm] using hends

theorem reached_back {order order' : SetOrder} {a b : GraphNode}
    (hdistinct : (snap.nodes.map GraphNode.key).Nodup) (hkinds : edgeKinds ≠ some [])
    (ha : a ∈ snap.nodes) (h : b ∈ reached order snap a.key depth edgeKinds direction) :
    a ∈ reached order' snap b.key depth edgeKinds direction.opposite := by
  obtain ⟨-, m, hpos, hle, hdist⟩ := (mem_reached_iff order hdistinct hkinds).mp h
  have hne := (exists_distance_iff.mp ⟨m, hpos, le_rfl, hdist⟩).1
  obtain ⟨k, hk, hk', hdist'⟩ := exists_distance_iff.mpr
    ⟨hne.symm, m, le_rfl, hdist.walk.reverse fun _ _ => Linked.opposite⟩
  exact (mem_reached_iff order' hdistinct hkinds).mpr ⟨ha, k, hk, by omega, hdist'⟩

/-- **Neighbourhood is mutual**: one object lies within a depth of another exactly if the other
does of it against the edges, in whatever order the two searches walk. -/
theorem neighbors_mutual {order order' : SetOrder} {a b : GraphNode}
    (hdistinct : (snap.nodes.map GraphNode.key).Nodup) (hkinds : edgeKinds ≠ some [])
    (ha : a ∈ snap.nodes) (hb : b ∈ snap.nodes) :
    b ∈ reached order snap a.key depth edgeKinds direction ↔
      a ∈ reached order' snap b.key depth edgeKinds direction.opposite := by
  refine ⟨reached_back hdistinct hkinds ha, fun h => ?_⟩
  have hback := @reached_back _ _ _ _ order' order _ _ hdistinct hkinds hb h
  cases direction <;> exact hback

/-- **Neighbourhoods are exact**: the objects within the depth, each once, the near before the far;
more depth and kinds add to them. -/
theorem neighbors_exact (snap : GraphSnapshot) (kind name : String)
    (ns : Option String) (depth : Int) (edgeKinds : Option (List String))
    (direction : Direction) (hdistinct : (snap.nodes.map GraphNode.key).Nodup)
    (hkinds : edgeKinds ≠ some []) :
    ∃ nodes, ExactNeighbors order snap kind name ns depth edgeKinds direction nodes := by
  obtain ⟨hmem, hnodup, hordered⟩ := @map_key_reached snap (nodeKey kind ns name) edgeKinds
    direction depth order hkinds
  refine ⟨reached order snap (nodeKey kind ns name) depth edgeKinds direction, rfl,
    fun node => mem_reached_iff order hdistinct hkinds, hnodup, ?_, fun node hnode => ?_,
    fun depth' hle => ?_, fun edgeKinds' hkinds' hamong => ?_⟩
  · exact List.pairwise_map.mp hordered
  · obtain ⟨m, hpos, hle, hdist⟩ := (hmem node.key).mp (List.mem_map.mpr ⟨node, hnode, rfl⟩)
    exact (exists_distance_iff.mp ⟨m, hpos, hle, hdist⟩).1
  · exact List.IsPrefix.map GraphNode.toDict (prefix_reached order hle)
  · refine List.map_subset _ fun node hnode => ?_
    obtain ⟨hin, m, hpos, hle, hdist⟩ := (mem_reached_iff order hdistinct hkinds).mp hnode
    refine (mem_reached_iff order hdistinct hkinds').mpr ⟨hin, ?_⟩
    have hlinked : ∀ a b, Linked snap edgeKinds direction a b →
        Linked snap edgeKinds' direction a b := by
      rintro a b ⟨edge, hedge, hcounts, hends⟩
      exact ⟨edge, hedge, hamong _ hcounts, hends⟩
    have hne := (exists_distance_iff.mp ⟨m, hpos, le_rfl, hdist⟩).1
    obtain ⟨k, hk, hk', hdist'⟩ :=
      exists_distance_iff.mpr ⟨hne, m, le_rfl, hdist.walk.mono hlinked⟩
    exact ⟨k, hk, by omega, hdist'⟩

end

def shopNodes : List GraphNode :=
  [{ kind := "service", name := "web", «namespace» := some "shop" },
    { kind := "pod", name := "web-1", «namespace» := some "shop" }]

def shopEdges : List GraphEdge :=
  [{ kind := "selects", source := "service:shop:web", target := "pod:shop:web-1" }]

def shopSnapshot : GraphSnapshot where
  recordedAt := "2024-01-01T00:00:00+00:00"
  nodes := shopNodes
  edges := shopEdges
  valid := by decide

def insertionOrder : SetOrder where
  walk keys := keys
  perm _ := List.Perm.refl _

theorem neighbors_exact_shop :
    ∃ nodes, ExactNeighbors insertionOrder shopSnapshot "service" "web" (some "shop") 1 none .both
      nodes :=
  neighbors_exact insertionOrder shopSnapshot "service" "web" (some "shop") 1 none .both
    (by decide) (by decide)

theorem neighbors_mutual_shop :
    ∃ web ∈ shopNodes, ∃ pod ∈ shopNodes,
      pod ∈ reached insertionOrder shopSnapshot web.key 1 none .outward ∧
        web ∈ reached insertionOrder shopSnapshot pod.key 1 none .inward := by
  have hout : shopNodes[1] ∈
      reached insertionOrder shopSnapshot shopNodes[0].key 1 none .outward := by decide
  exact ⟨_, .head _, _, .tail _ (.head _), hout,
    (neighbors_mutual (by decide) (by decide) (.head _) (.tail _ (.head _))).mp hout⟩

end OrbitalMesh.InfraGraph
