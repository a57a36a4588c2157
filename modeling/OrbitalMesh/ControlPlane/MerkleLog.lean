import OrbitalMesh.ControlPlane.LiveRun

/-!
# What the Merkle root of a run says about its log

The tree has a proof for every event (`merkle_proof_complete`) and a root that no
other list of events shares (`merkle_root_binds`).  A leaf is the hash stored in
the record of the event, so a proof speaks about the event's content exactly when
that hash is fresh (`merkle_proofs_speak_iff`).  The root kept in the session is the
root of the log along every run in which no given event stays behind the cursor
and no old copy of the session brings back its root (`stored_root_describes_log`).
-/

namespace OrbitalMesh

open Atomic FileStateStore RunStore

section

variable {config : StoreConfig} {hash : MerkleHash} {s t : RunStore} {runId : String}

theorem FileStateStore.proof_completes {eventId : String} {proof : Option MerkleProof} :
    Completes (storeStep config hash) (getMerkleProof hash runId eventId) s proof t ↔
      proof = buildMerkleProof hash runId (s.diskEvents runId) eventId ∧
        t = s.refreshed runId := by
  simp only [getMerkleProof, Prog.bind_eq, Prog.pure_eq, completes_bind,
    load_completes, completes_ret]
  constructor
  · rintro ⟨_, _, ⟨rfl, rfl⟩, rfl, rfl⟩
    exact ⟨rfl, rfl⟩
  · rintro ⟨rfl, rfl⟩
    exact ⟨_, _, ⟨rfl, rfl⟩, rfl, rfl⟩

def RunStore.HashesFresh (hash : MerkleHash) (s : RunStore) (runId : String) : Prop :=
  ∀ event ∈ s.diskEvents runId, event.HashFresh hash

def RunStore.contents (s : RunStore) (runId : String) : List Json :=
  (s.diskEvents runId).map fun event => event.canonicalPayload.canon

/-- **Valid proofs speak about their events** exactly when the stored hashes are fresh. -/
theorem merkle_proofs_speak_iff (config : StoreConfig) (hash : MerkleHash) (s : RunStore)
    (runId : String) :
    ((∀ eventId proof t,
        Completes (storeStep config hash) (getMerkleProof hash runId eventId) s
          (some proof) t → proof.valid = true →
        ∀ event ∈ s.diskEvents runId, event.eventId = eventId →
          proof.leafHash = leafHashForPayload hash event.canonicalPayload) ↔
      s.HashesFresh hash runId) ∧
    (s.HashesFresh hash runId → ∀ t : RunStore, t.HashesFresh hash runId →
      s.diskEvents runId ≠ [] → t.diskEvents runId ≠ [] →
      CollisionFreeTrees hash (s.diskEvents runId) (t.diskEvents runId) →
      s.contents runId ≠ t.contents runId →
      ∀ before after s' t',
        Completes (storeStep config hash) (getMerkleSnapshot hash runId) s
          before s' →
        Completes (storeStep config hash) (getMerkleSnapshot hash runId) t after t' →
        before.rootHash ≠ after.rootHash) := by
  have hids := nodup_loadEvents (s.records runId)
  refine ⟨⟨?_, ?_⟩, ?_⟩
  · -- every event has a proof, and that proof is valid
    intro hspeak event hevent
    obtain ⟨proof, hproof⟩ := buildMerkleProof_isSome hash runId hevent
    obtain ⟨found, hfound, hid, hleaf, -, hvalid⟩ := buildMerkleProof_spec hproof
    have hsame : found = event := List.inj_on_of_nodup_map hids hfound hevent hid
    rw [hsame] at hleaf
    refine RunEvent.leaf_eq_iff.mp (hleaf.symm.trans ?_)
    exact hspeak _ proof _ (proof_completes.mpr ⟨hproof.symm, rfl⟩) hvalid event
      hevent rfl
  · intro hfresh eventId proof t hrun _ event hevent hid
    obtain ⟨hproof, -⟩ := proof_completes.mp hrun
    obtain ⟨found, hfound, hfoundId, hleaf, -⟩ := buildMerkleProof_spec hproof.symm
    have hsame : found = event :=
      List.inj_on_of_nodup_map hids hfound hevent (hfoundId.trans hid.symm)
    rw [hleaf, hsame]
    exact RunEvent.leaf_eq_iff.mpr (hfresh event hevent)
  · intro hfresh t hfresh' hne hne' hfree hchanged before after s' t' hbefore hafter hroot
    obtain ⟨rfl, -⟩ := snapshot_completes.mp hbefore
    obtain ⟨rfl, -⟩ := snapshot_completes.mp hafter
    exact hchanged (root_determines_content hne hne' hids (nodup_loadEvents (t.records runId))
      hfresh hfresh' hfree hroot)

end

section

variable {hash : MerkleHash} {events left right : List RunEvent}

/-- **Proofs are complete**: each event of a log with distinct ids has a valid proof of its leaf. -/
theorem merkle_proof_complete (hash : MerkleHash) (runId : String) {event : RunEvent}
    (hids : (events.map RunEvent.eventId).Nodup) (hmem : event ∈ events) :
    ∃ proof, buildMerkleProofLoop hash runId events event.eventId = some (some proof) ∧
      proof.valid = true ∧
      proof.rootHash = computeMerkleRoot hash (merkleLeaves hash events) ∧
      proof.rootHash = (buildMerkleSnapshot hash runId events).rootHash ∧
      proof.leafHash = event.leaf hash ∧
      proof.proof.length = Nat.clog 2 events.length := by
  obtain ⟨proof, hproof⟩ := buildMerkleProof_isSome hash runId hmem
  obtain ⟨found, hfound, hid, hleaf, hroot, hvalid⟩ := buildMerkleProof_spec hproof
  have hsame : found = event := List.inj_on_of_nodup_map hids hfound hmem hid
  refine ⟨proof, ?_, hvalid, hroot, hroot, hsame ▸ hleaf, length_buildMerkleProof hproof⟩
  rw [buildMerkleProofLoop_eq, hproof]

/-- In a tree over three leaves the last event is paired with itself. -/
theorem merkle_proof_complete_three :
    ∃ proof, buildMerkleProofLoop plainHash "run"
        [givenEvent "evt_a" 1, givenEvent "evt_b" 2, givenEvent "evt_c" 3] "evt_c" =
          some (some proof) ∧
      proof.valid = true ∧ proof.proof.length = 2 := by
  obtain ⟨proof, hproof, hvalid, -, -, -, hlen⟩ := @merkle_proof_complete
    [givenEvent "evt_a" 1, givenEvent "evt_b" 2, givenEvent "evt_c" 3] plainHash "run"
    (givenEvent "evt_c" 3) (by decide) (by simp)
  exact ⟨proof, hproof, hvalid, hlen.trans (by decide)⟩

/-- Among the texts hashed for the trees of two logs no two collide, `empty` among them. -/
structure CollisionFreeLogs (hash : MerkleHash) (left right : List RunEvent) : Prop
    extends CollisionFreeTrees hash left right where
  empty_ne_leaf : ∀ event ∈ left ++ right, hash.ofEmpty ≠ event.leaf hash
  empty_ne_node : ∀ pair ∈
    Merkle.hashed hash.ofNode (merkleLeaves hash left).length (merkleLeaves hash left) ++
      Merkle.hashed hash.ofNode (merkleLeaves hash right).length (merkleLeaves hash right),
    hash.ofEmpty ≠ hash.ofNode pair.1 pair.2

theorem computeMerkleRoot_ne_empty (hne : events ≠ [])
    (hleaf : ∀ event ∈ events, hash.ofEmpty ≠ event.leaf hash)
    (hnode : ∀ pair ∈
      Merkle.hashed hash.ofNode (merkleLeaves hash events).length (merkleLeaves hash events),
      hash.ofEmpty ≠ hash.ofNode pair.1 pair.2) :
    computeMerkleRoot hash (merkleLeaves hash events) ≠ hash.ofEmpty := by
  intro hroot
  have hcollapse := @collapse_eq_root hash (merkleLeaves hash events)
    (by simpa [merkleLeaves] using hne)
  have hmem : hash.ofEmpty ∈ Merkle.collapse hash.ofNode (merkleLeaves hash events).length
      (merkleLeaves hash events) := by
    rw [hcollapse, hroot]
    exact List.mem_singleton_self _
  have hleaves : ∀ a ∈ merkleLeaves hash events, Merkle.AtHeight hash.ofNode
      (· ∈ merkleLeaves hash events) (· ∈ Merkle.hashed hash.ofNode
        (merkleLeaves hash events).length (merkleLeaves hash events)) 0 a := fun _ ha => ha
  obtain ⟨top, -, htop⟩ := Merkle.atHeight_collapse hleaves (fun _ hpair => hpair) _ hmem
  cases top with
  | zero =>
    obtain ⟨event, hevent, heq⟩ := List.mem_map.mp htop
    exact hleaf event hevent heq.symm
  | succ top =>
    obtain ⟨pair, hpair, -, heq⟩ := htop
    exact hnode pair hpair heq

/-- **The root binds the list of events**, the empty list too. -/
theorem merkle_root_binds (hlids : (left.map RunEvent.eventId).Nodup)
    (hrids : (right.map RunEvent.eventId).Nodup)
    (hleft : ∀ event ∈ left,
      event.leaf hash = leafHashForPayload hash event.canonicalPayload)
    (hright : ∀ event ∈ right,
      event.leaf hash = leafHashForPayload hash event.canonicalPayload)
    (hfree : CollisionFreeLogs hash left right)
    (hroot : computeMerkleRoot hash (merkleLeaves hash left) =
      computeMerkleRoot hash (merkleLeaves hash right)) :
    left.map (fun event => event.canonicalPayload.canon) =
      right.map (fun event => event.canonicalPayload.canon) := by
  by_cases hlnil : left = []
  · by_cases hrnil : right = []
    · rw [hlnil, hrnil]
    · refine absurd (hroot.symm.trans (by rw [hlnil]; rfl)) (computeMerkleRoot_ne_empty hrnil
        (fun event hevent => hfree.empty_ne_leaf event (by simp [hevent]))
        (fun pair hpair => hfree.empty_ne_node pair (List.mem_append_right _ hpair)))
  · by_cases hrnil : right = []
    · refine absurd (hroot.trans (by rw [hrnil]; rfl)) (computeMerkleRoot_ne_empty hlnil
        (fun event hevent => hfree.empty_ne_leaf event (by simp [hevent]))
        (fun pair hpair => hfree.empty_ne_node pair (List.mem_append_left _ hpair)))
    · exact @root_determines_content hash "" left right hlnil hrnil hlids hrids
        (fun event hevent => RunEvent.leaf_eq_iff.mp (hleft event hevent))
        (fun event hevent => RunEvent.leaf_eq_iff.mp (hright event hevent))
        hfree.toCollisionFreeTrees hroot

def twoEvents : List RunEvent := [givenEvent "evt_a" 1, givenEvent "evt_b" 2]

def hashedEvents : List RunEvent := twoEvents.map (RunEvent.withLeafHash plainHash)

theorem merkle_root_binds_two :
    twoEvents.map (fun event => event.canonicalPayload.canon) =
      hashedEvents.map fun event => event.canonicalPayload.canon := by
  have hleaf : ∀ pair ∈ Merkle.hashed plainHash.ofNode 2 (merkleLeaves plainHash twoEvents) ++
      Merkle.hashed plainHash.ofNode 2 (merkleLeaves plainHash hashedEvents),
      ∀ a ∈ merkleLeaves plainHash twoEvents ++ merkleLeaves plainHash hashedEvents,
        a ≠ plainHash.ofNode pair.1 pair.2 := by decide +kernel
  have hnode : ∀ pair ∈ Merkle.hashed plainHash.ofNode 2 (merkleLeaves plainHash twoEvents) ++
      Merkle.hashed plainHash.ofNode 2 (merkleLeaves plainHash hashedEvents),
      ∀ other ∈ Merkle.hashed plainHash.ofNode 2 (merkleLeaves plainHash twoEvents) ++
        Merkle.hashed plainHash.ofNode 2 (merkleLeaves plainHash hashedEvents),
      pair = other := by decide +kernel
  exact merkle_root_binds (by decide +kernel) (by decide +kernel) (by decide +kernel)
    (by decide +kernel)
    ⟨⟨by decide +kernel, fun ha hpair => hleaf _ hpair _ ha,
      fun hpair hother _ => hnode _ hpair _ hother⟩, by decide +kernel, by decide +kernel⟩
    (by decide +kernel)

/-- Among the texts hashed for a log, and for a payload and a proof of it, no two collide. -/
structure CollisionFreeProof (hash : MerkleHash) (events : List RunEvent) (payload : Json)
    (proof : List (Merkle.Step String)) : Prop where
  leaf_inj : ∀ event ∈ events, leafHashForPayload hash event.canonicalPayload =
    leafHashForPayload hash payload → event.canonicalPayload.canon = payload.canon
  tree : Merkle.Separated hash.ofNode
    (· ∈ leafHashForPayload hash payload :: merkleLeaves hash events)
    (· ∈ Merkle.hashed hash.ofNode (merkleLeaves hash events).length (merkleLeaves hash events) ++
      Merkle.climbed hash.ofNode (leafHashForPayload hash payload) proof)

/-- **Proofs are sound**: whatever list of steps leads from a payload to the root of a log, the
payload is that of an event of the log, and the proof is as long as its tree is high. -/
theorem merkle_proof_sound {payload : Json} {proof : List (Merkle.Step String)}
    (hne : events ≠ [])
    (hfresh : ∀ event ∈ events,
      event.leaf hash = leafHashForPayload hash event.canonicalPayload)
    (hfree : CollisionFreeProof hash events payload proof)
    (hverified : verifyMerkleProof hash (leafHashForPayload hash payload)
      (computeMerkleRoot hash (merkleLeaves hash events)) proof = true) :
    (∃ event ∈ events, event.canonicalPayload.canon = payload.canon) ∧
      proof.length = Nat.clog 2 events.length := by
  have hroot := @collapse_eq_root hash (merkleLeaves hash events)
    (by simpa [merkleLeaves] using hne)
  rw [← of_decide_eq_true hverified] at hroot
  obtain ⟨hmem, hlen⟩ := Merkle.mem_of_climb hfree.tree (Nat.le_refl _)
    (fun _ => List.mem_cons_of_mem _) List.mem_cons_self (fun _ => List.mem_append_left _)
    (fun _ => List.mem_append_right _) hroot
  obtain ⟨event, hevent, hleaf⟩ := List.mem_map.mp hmem
  refine ⟨⟨event, hevent, hfree.leaf_inj event hevent ?_⟩, by simpa [merkleLeaves] using hlen⟩
  rw [← hfresh event hevent, hleaf]

theorem merkle_proof_sound_two :
    ∃ event ∈ twoEvents,
      event.canonicalPayload.canon = (givenEvent "evt_b" 2).canonicalPayload.canon := by
  exact (@merkle_proof_sound plainHash twoEvents (givenEvent "evt_b" 2).canonicalPayload
    [⟨.left, (givenEvent "evt_a" 1).leaf plainHash⟩] (by decide) (by decide +kernel)
    ⟨by decide +kernel, .of_lists _ (by decide +kernel) (by decide +kernel)⟩ (by decide +kernel)).1

end
variable (hash : MerkleHash)

theorem RunEvent.HashFresh.withLeafHash {hash : MerkleHash} {event : RunEvent}
    (h : event.HashFresh hash) : (event.withLeafHash hash).HashFresh hash :=
  .inr (.inr (congrArg some (RunEvent.leaf_eq_iff.mpr h)))

theorem merkle_proofs_speak_iff_sample :
    ∃ s : RunStore, s.diskEvents "run" ≠ [] ∧
      ∀ eventId proof t,
        Completes (storeStep ⟨100⟩ plainHash) (getMerkleProof plainHash "run" eventId)
          s (some proof) t → proof.valid = true →
        ∀ event ∈ s.diskEvents "run", event.eventId = eventId →
          proof.leafHash = leafHashForPayload plainHash event.canonicalPayload := by
  obtain ⟨event, s, happend⟩ := @exists_appendEvent ⟨100⟩ plainHash (givenEvent "evt_a" 5) {}
  obtain ⟨hevent, hrecords⟩ := records_of_appendEvent happend
  have hdisk : s.diskEvents "run" = [event] := by
    rw [diskEvents, show s.records "run" = _ from hrecords]
    exact loadEvents_singleton event
  have hfresh : s.HashesFresh plainHash "run" := by
    rw [RunStore.HashesFresh, hdisk]
    simp only [List.mem_singleton, forall_eq, hevent]
    exact RunEvent.HashFresh.withLeafHash (.inl rfl)
  refine ⟨s, by simp [hdisk], ?_⟩
  exact (merkle_proofs_speak_iff ⟨100⟩ plainHash s "run").1.mpr hfresh

/-- An event is given with a hash that is not its own: its proof is valid and
says nothing about it. -/
theorem given_hash_vouches :
    ¬ ∀ (config : StoreConfig) (hash : MerkleHash) (given event : RunEvent) (s : RunStore),
      Completes (storeStep config hash) (FileStateStore.appendEvent hash given.runId given) {}
        (.ok event) s →
      ∀ eventId proof t,
        Completes (storeStep config hash)
          (getMerkleProof hash given.runId eventId) s (some proof) t →
        proof.valid = true → ∀ event ∈ s.diskEvents given.runId, event.eventId = eventId →
          proof.leafHash = leafHashForPayload hash event.canonicalPayload := by
  intro hclaim
  obtain ⟨event, s, happend⟩ :=
    @exists_appendEvent ⟨100⟩ plainHash (givenEvent "evt_a" 5 (some "beef")) {}
  obtain ⟨hevent, hrecords⟩ := records_of_appendEvent happend
  have hdisk : s.diskEvents "run" = [event] := by
    rw [diskEvents, show s.records "run" = _ from hrecords]
    exact loadEvents_singleton event
  have hmem : event ∈ s.diskEvents "run" := by simp [hdisk]
  obtain ⟨proof, hproof⟩ := buildMerkleProof_isSome plainHash "run" hmem
  obtain ⟨found, hfound, -, hleaf, -, hvalid⟩ := buildMerkleProof_spec hproof
  have hsame : found = event := by simpa [hdisk] using hfound
  have hspeaks := hclaim _ _ _ event s happend event.eventId proof _
    (proof_completes.mpr ⟨hproof.symm, rfl⟩) hvalid event hmem rfl
  rw [hleaf, hsame, hevent] at hspeaks
  revert hspeaks
  decide +kernel

/-- The calls that write to a run, and the one that hands out its session. -/
inductive LogCall where
  | appendRunEvent (draft : EventDraft)
  | appendEvent (event : RunEvent)
  | saveRunSession (session : RunSession)
  | getRunSession

/-- The store, and the sessions of the run that it has handed out so far. -/
structure Conversation where
  store : RunStore
  returned : List RunSession := []

namespace LogCall

/-- The call, made by the only thread, takes `c` to `d`.  Only sessions that
were handed out are saved. -/
def Serves (config : StoreConfig) (hash : MerkleHash) (runId : String) :
    LogCall → Conversation → Conversation → Prop
  | .appendRunEvent draft, c, d =>
    draft.runId = runId ∧ d.returned = c.returned ∧
      ∃ event, Completes (storeStep config hash) (FileStateStore.appendRunEvent hash draft)
        c.store event d.store
  | .appendEvent event, c, d =>
    d.returned = c.returned ∧
      ∃ result, Completes (storeStep config hash)
        (FileStateStore.appendEvent hash runId event) c.store result d.store
  | .saveRunSession session, c, d =>
    session ∈ c.returned ∧ ∃ stored, d.returned = stored :: c.returned ∧
      Completes (storeStep config hash) (FileStateStore.saveRunSession session)
        c.store stored d.store
  | .getRunSession, c, d =>
    ∃ found, d.returned = found.toList ++ c.returned ∧
      Completes (storeStep config hash) (FileStateStore.getRunSession runId) c.store found d.store

/-- A given event is not behind the cursor, unless the log has it already, and a saved copy with
the stored cursor has the stored root. -/
def KeepsRoot (hash : MerkleHash) (runId : String) (call : LogCall) (s : RunStore) : Prop :=
  match call with
  | .appendRunEvent _ => True
  | .appendEvent event =>
    event.sequence ≤ 0 ∨
      (∀ session, s.getRunSession runId = some session →
        session.latestEventSequence ≤ event.sequence) ∨
      event.withLeafHash hash ∈ s.diskEvents runId
  | .saveRunSession session =>
    ∀ current, s.getRunSession runId = some current →
      session.latestEventSequence = current.latestEventSequence →
      session.latestMerkleRoot = current.latestMerkleRoot
  | .getRunSession => True

end LogCall

variable (config : StoreConfig)

/-- Any number of calls that meet a condition on the state before them. -/
def LogRun (hash : MerkleHash) (runId : String)
    (allowed : LogCall → RunStore → Prop) : Conversation → Conversation → Prop :=
  Relation.ReflTransGen fun c d =>
    ∃ call : LogCall, allowed call c.store ∧ call.Serves config hash runId c d

structure RunStore.Created (s : RunStore) (runId : String) : Prop where
  roomy : s.Roomy config
  session : ∃ session, s.getRunSession runId = some session ∧ session.latestEventSequence = 0
  records : s.records runId = []

structure RunStore.Described (s : RunStore) (runId : String)
    (session : RunSession) : Prop where
  root : session.latestMerkleRoot =
    some (buildMerkleSnapshot hash runId (s.diskEvents runId)).rootHash
  reached : ∃ event ∈ s.diskEvents runId, event.sequence = session.latestEventSequence
  greatest : ∀ event ∈ s.diskEvents runId, event.sequence ≤ session.latestEventSequence

/-- The session is live, new or describing the log, and not behind any session
that was handed out. -/
structure Conversation.Coherent (hash : MerkleHash) (runId : String)
    (c : Conversation) : Prop where
  roomy : c.store.Roomy config
  session : ∃ session, c.store.getRunSession runId = some session ∧
    (∀ old ∈ c.returned, old.runId = runId ∧
      old.latestEventSequence ≤ session.latestEventSequence) ∧
    ((session.latestEventSequence = 0 ∧ c.store.records runId = []) ∨
      (0 < session.latestEventSequence ∧ c.store.Described hash runId session))

section

variable {config : StoreConfig} {hash : MerkleHash} {runId : String} {s t : RunStore}
  {session : RunSession} {event : RunEvent} {u v : RunStore}

theorem RunStore.nextEventSequence_eq (hget : s.getRunSession runId = some session)
    (hstate : (session.latestEventSequence = 0 ∧ s.records runId = []) ∨
      0 < session.latestEventSequence) :
    (s.nextEventSequence runId).1 = session.latestEventSequence + 1 := by
  unfold nextEventSequence
  rw [hget]
  rcases hstate with ⟨hzero, hempty⟩ | hpos
  · simp [hzero, sequenceFromLog, diskEvents, hempty, loadEvents, dedupeEvents,
      bySequence]
  · have hne : session.latestEventSequence ≠ 0 := by omega
    simp [hne]

/-- **An event that is not behind the cursor** is logged, and the session then
describes the log. -/
theorem described_of_append (hroomy : s.Roomy config)
    (hget : s.getRunSession runId = some session) (hlogs : RunStore.Logs runId event s u)
    (hsame : u.SameFiles v) (hcursor : session.latestEventSequence ≤ event.sequence)
    (hgreatest : ∀ x ∈ s.diskEvents runId, x.sequence ≤ event.sequence)
    (h : Completes (storeStep config hash) (advanceSessionEventCursor hash runId event) v () t) :
    t.Roomy config ∧ ∃ later, t.getRunSession runId = some later ∧
      later.latestEventSequence = event.sequence ∧ t.Described hash runId later := by
  have hruns : v.runs = s.runs := hsame.1.trans hlogs.runs
  have hgetv : v.getRunSession runId = some session := by
    rw [RunStore.getRunSession, hruns]
    exact hget
  have hdisk : v.diskEvents runId = loadEvents (s.records runId ++ [event]) := by
    rw [diskEvents, hsame.records, hlogs.records]
  have hid := (getRunSession_spec hget).2
  obtain ⟨hnone, -⟩ | ⟨other, hother, hlt, -⟩ | ⟨current, now, stored, w, hcurrent, -, hsave, hw⟩ :=
    advance_completes h
  · rw [hgetv] at hnone
    cases hnone
  · rw [hgetv] at hother
    cases hother
    omega
  · rw [hgetv] at hcurrent
    cases hcurrent
    set moved := advanced hash v session event now
    have hroomyv : (v.refreshed runId).Roomy config := hroomy.of_runs_eq hruns
    have hmovedId : moved.runId = runId := hid
    obtain ⟨w', hsave', hroomyw, hgetw, -, -, hrecords, -⟩ :=
      saveSession_live hroomyv (show (v.refreshed runId).getRunSession moved.runId =
        some session from hmovedId ▸ hgetv)
    rw [hsave', Prod.mk.injEq] at hsave
    obtain ⟨rfl, rfl⟩ := hsave
    have hfiles : w'.SameFiles t := by
      rcases hw with rfl | rfl
      · exact .refl _
      · exact sameFiles_storeCache ..
    have htdisk : t.diskEvents runId = loadEvents (s.records runId ++ [event]) := by
      rw [hfiles.diskEvents, diskEvents, hrecords, ← hdisk]
      rfl
    have hlater : (mergeSessionSnapshot moved session).latestEventSequence = event.sequence := by
      rw [mergeSessionSnapshot_cursor]
      exact max_eq_left hcursor
    refine ⟨hroomyw.of_runs_eq hfiles.1, mergeSessionSnapshot moved session, ?_, hlater, ?_⟩
    · rw [hfiles.getRunSession, ← hmovedId]
      exact hgetw
    · constructor
      · rw [mergeSessionSnapshot_root, if_pos (show session.latestEventSequence ≤
          moved.latestEventSequence from hcursor), htdisk, ← hdisk]
        show some (buildMerkleSnapshot hash session.runId (v.diskEvents session.runId)).rootHash = _
        rw [hid]
      · rw [htdisk, hlater]
        exact ⟨event, self_mem_loadEvents _ _, rfl⟩
      · rw [htdisk, hlater]
        intro x hx
        rcases mem_loadEvents_concat hx with rfl | hx
        · exact Int.le_refl _
        · exact hgreatest x hx

variable {c d : Conversation}

theorem Conversation.Coherent.append (h : c.Coherent config hash runId)
    (hreturned : d.returned = c.returned) (hlogs : RunStore.Logs runId event c.store u)
    (hsame : u.SameFiles v)
    (hcursor : ∀ session, c.store.getRunSession runId = some session →
      session.latestEventSequence ≤ event.sequence ∧ 0 < event.sequence)
    (hadvance : Completes (storeStep config hash)
      (advanceSessionEventCursor hash runId event) v () d.store) :
    d.Coherent config hash runId := by
  obtain ⟨session, hget, hold, hstate⟩ := h.session
  obtain ⟨hle, hpos⟩ := hcursor session hget
  have hgreatest : ∀ x ∈ c.store.diskEvents runId, x.sequence ≤ event.sequence := by
    intro x hx
    rcases hstate with ⟨-, hempty⟩ | ⟨-, hdescribed⟩
    · rw [diskEvents, hempty] at hx
      cases hx
    · exact Int.le_trans (hdescribed.greatest x hx) hle
  obtain ⟨hroomy, later, hlater, hseq, hdescribed⟩ :=
    described_of_append h.roomy hget hlogs hsame hle hgreatest hadvance
  refine ⟨hroomy, later, hlater, ?_, .inr ⟨by omega, hdescribed⟩⟩
  rw [hreturned]
  intro old hmem
  have hbound := (hold old hmem).2
  exact ⟨(hold old hmem).1, by omega⟩

theorem Conversation.Coherent.next {c : Conversation} (h : c.Coherent config hash runId)
    {session : RunSession} (hget : c.store.getRunSession runId = some session) :
    (c.store.nextEventSequence runId).1 = session.latestEventSequence + 1 ∧
      0 ≤ session.latestEventSequence := by
  obtain ⟨found, hfound, -, hstate⟩ := h.session
  obtain rfl := Option.some.inj (hfound.symm.trans hget)
  rcases hstate with hnew | ⟨hpos, -⟩
  · exact ⟨nextEventSequence_eq hget (.inl hnew), by omega⟩
  · exact ⟨nextEventSequence_eq hget (.inr hpos), by omega⟩

theorem Conversation.Coherent.save {c d : Conversation} (h : c.Coherent config hash runId)
    {session stored : RunSession} (hmem : session ∈ c.returned)
    (hkeeps : (LogCall.saveRunSession session).KeepsRoot hash runId c.store)
    (hreturned : d.returned = stored :: c.returned)
    (hsave : Completes (storeStep config hash) (saveRunSession session)
      c.store stored d.store) : d.Coherent config hash runId := by
  obtain ⟨current, hget, hold, hstate⟩ := h.session
  obtain ⟨hid, hle⟩ := hold session hmem
  obtain ⟨w, hw, hcache⟩ := save_completes hsave
  obtain ⟨w', hsave', hroomy, hgetw, -, -, hrecords, -⟩ :=
    saveSession_live h.roomy (hid.symm ▸ hget)
  rw [hsave', Prod.mk.injEq] at hw
  obtain ⟨rfl, rfl⟩ := hw
  set merged := mergeSessionSnapshot session current
  have hfiles : w'.SameFiles d.store := by
    rcases hcache with heq | heq
    · rw [heq]
      exact .refl _
    · rw [heq]
      exact sameFiles_storeCache ..
  have hcursor : merged.latestEventSequence = current.latestEventSequence := by
    rw [mergeSessionSnapshot_cursor]
    exact max_eq_right hle
  have hroot : merged.latestMerkleRoot = current.latestMerkleRoot := by
    rw [mergeSessionSnapshot_root]
    split
    · exact hkeeps current hget (by omega)
    · rfl
  have hdrecords : d.store.records runId = c.store.records runId := by
    rw [hfiles.records, hrecords]
  have hdisk : d.store.diskEvents runId = c.store.diskEvents runId := by
    rw [diskEvents, hdrecords, diskEvents]
  refine ⟨hroomy.of_runs_eq hfiles.1, merged, ?_, ?_, ?_⟩
  · rw [hfiles.getRunSession, ← hid]
    exact hgetw
  · rw [hreturned, hcursor]
    intro old hmem
    rcases List.mem_cons.mp hmem with rfl | hmem
    · exact ⟨(mergeSessionSnapshot_runId _ _).trans hid, by omega⟩
    · exact hold old hmem
  · rw [hcursor, hdrecords]
    refine hstate.imp id (And.imp_right fun hdescribed => ?_)
    constructor
    · rw [hroot, hdisk]
      exact hdescribed.root
    · rw [hcursor, hdisk]
      exact hdescribed.reached
    · rw [hcursor, hdisk]
      exact hdescribed.greatest

theorem Conversation.Coherent.appendGiven (h : c.Coherent config hash runId) {given : RunEvent}
    {result : Except PyError RunEvent}
    (hkeeps : (LogCall.appendEvent given).KeepsRoot hash runId c.store)
    (hreturned : d.returned = c.returned)
    (hcall : Completes (storeStep config hash) (FileStateStore.appendEvent hash runId given)
      c.store result d.store) : d.Coherent config hash runId := by
  obtain ⟨-, hstore⟩ | ⟨rfl, event, u, hlog, -, hadvance⟩ :=
    appendEvent_completes hcall
  · obtain ⟨hroomy, hsession⟩ := h
    exact ⟨hstore ▸ hroomy, by rw [hstore, hreturned]; exact hsession⟩
  · obtain ⟨hevent, hlogs, -⟩ := logGivenEvent_spec hlog
    have hsame : u.SameFiles (u.cacheEvent given.runId event) := sameFiles_storeCache ..
    obtain ⟨session, hget, hold, hstate⟩ := h.session
    have hsequence : event.sequence = c.store.givenSequence given := by
      rw [hevent]
      rfl
    by_cases hahead : session.latestEventSequence ≤ event.sequence ∧ 0 < event.sequence
    · refine h.append hreturned hlogs hsame (fun other hother => ?_) hadvance
      obtain rfl := Option.some.inj (hget.symm.trans hother)
      exact hahead
    · -- the event is behind the cursor, so it must be in the log
      obtain ⟨hnext, hnonneg⟩ := h.next hget
      have hgiven : c.store.givenSequence given = given.sequence ∧ 0 < given.sequence := by
        unfold givenSequence at hsequence ⊢
        split at hsequence
        · omega
        · next hpos => exact ⟨if_neg hpos, by omega⟩
      have hmem : event ∈ c.store.diskEvents given.runId := by
        have hstamped : event = given.withLeafHash hash := by
          rw [hevent, stamped, hgiven.1]
        rcases hkeeps with hzero | hcursor | hmem
        · omega
        · have := hcursor session hget
          omega
        · exact hstamped ▸ hmem
      have hstore : d.store = u.cacheEvent given.runId event := by
        have hruns : (u.cacheEvent given.runId event).getRunSession given.runId = some session := by
          rw [hsame.getRunSession, RunStore.getRunSession, hlogs.runs]
          exact hget
        obtain ⟨hnone, -⟩ | ⟨_, _, _, heq⟩ | ⟨current, _, _, _, hcurrent, hle, -⟩ :=
          advance_completes hadvance
        · rw [hruns] at hnone
          cases hnone
        · exact heq
        · rw [hruns] at hcurrent
          cases hcurrent
          omega
      have hdisk : d.store.diskEvents given.runId = c.store.diskEvents given.runId := by
        rw [hstore, hsame.diskEvents, diskEvents, hlogs.records]
        exact loadEvents_concat_of_mem hmem
      refine ⟨h.roomy.of_runs_eq (by rw [hstore]; exact hlogs.runs), session, ?_, ?_, ?_⟩
      · rw [hstore, hsame.getRunSession, RunStore.getRunSession, hlogs.runs]
        exact hget
      · rw [hreturned]
        exact hold
      · rcases hstate with ⟨hzero, -⟩ | ⟨hpos, hdescribed⟩
        · omega
        · refine .inr ⟨hpos, ?_, ?_, ?_⟩
          · rw [hdisk]
            exact hdescribed.root
          · rw [hdisk]
            exact hdescribed.reached
          · rw [hdisk]
            exact hdescribed.greatest

theorem LogCall.Serves.coherent {call : LogCall} (h : call.Serves config hash runId c d)
    (hkeeps : call.KeepsRoot hash runId c.store) (hcoherent : c.Coherent config hash runId) :
    d.Coherent config hash runId := by
  cases call with
  | appendRunEvent draft =>
    obtain ⟨rfl, hreturned, event, hcall⟩ := h
    obtain ⟨uuid, now, u, hlog, hadvance⟩ := FileStateStore.appendRunEvent_completes hcall
    obtain ⟨hevent, hlogs, -⟩ := logNewEvent_spec hlog
    refine hcoherent.append hreturned hlogs (sameFiles_storeCache ..)
      (fun session hget => ?_) hadvance
    obtain ⟨hnext, hnonneg⟩ := hcoherent.next hget
    have hsequence : event.sequence = session.latestEventSequence + 1 := by
      rw [hevent, ← hnext]
      rfl
    omega
  | appendEvent given =>
    obtain ⟨hreturned, result, hcall⟩ := h
    exact hcoherent.appendGiven hkeeps hreturned hcall
  | saveRunSession session =>
    obtain ⟨hmem, stored, hreturned, hsave⟩ := h
    exact hcoherent.save hmem hkeeps hreturned hsave
  | getRunSession =>
    obtain ⟨found, hreturned, hcall⟩ := h
    obtain ⟨hfound, hstore⟩ := FileStateStore.getRunSession_completes.mp hcall
    obtain ⟨session, hget, hold, hstate⟩ := hcoherent.session
    refine ⟨hstore ▸ hcoherent.roomy, session, hstore ▸ hget, ?_, hstore ▸ hstate⟩
    rw [hreturned, hfound, hget]
    intro old hmem
    rcases List.mem_cons.mp hmem with rfl | hmem
    · exact ⟨(getRunSession_spec hget).2, Int.le_refl _⟩
    · exact hold old hmem

theorem LogRun.coherent (h : LogRun config hash runId (LogCall.KeepsRoot hash runId) c d)
    (hcoherent : c.Coherent config hash runId) : d.Coherent config hash runId := by
  induction h with
  | refl => exact hcoherent
  | tail _ hstep ih =>
    obtain ⟨call, hkeeps, hserves⟩ := hstep
    exact hserves.coherent hkeeps ih

theorem RunStore.Created.coherent (hcreated : s.Created config runId) :
    Conversation.Coherent config hash runId ⟨s, []⟩ := by
  obtain ⟨session, hget, hzero⟩ := hcreated.session
  exact ⟨hcreated.roomy, session, hget, by simp, .inl ⟨hzero, hcreated.records⟩⟩

/-- **The stored root describes the stored log** from a new run on, as long as every call keeps
the root. -/
theorem stored_root_describes_log (hcreated : s.Created config runId) {d : Conversation}
    (h : LogRun config hash runId (LogCall.KeepsRoot hash runId) ⟨s, []⟩ d)
    (hevents : d.store.records runId ≠ []) :
    ∃ session, d.store.getRunSession runId = some session ∧
      d.store.Described hash runId session := by
  have hcoherent := h.coherent hcreated.coherent
  obtain ⟨session, hget, -, hstate⟩ := hcoherent.session
  rcases hstate with ⟨-, hempty⟩ | ⟨-, hdescribed⟩
  · exact absurd hempty hevents
  · exact ⟨session, hget, hdescribed⟩

end

theorem storeWithRun_created : storeWithRun.Created config "run" := by
  refine ⟨⟨by simp [storeWithRun], ?_⟩, ⟨queuedSession "run" "0", rfl, rfl⟩, ?_⟩
  · have hmax := config.le_maxRecords
    simp only [storeWithRun, List.length_cons, List.length_nil]
    omega
  · simp [records, storeWithRun]

theorem stored_root_describes_log_sample :
    ∃ d, LogRun ⟨100⟩ plainHash "run" (LogCall.KeepsRoot plainHash "run") ⟨storeWithRun, []⟩ d ∧
      d.store.records "run" ≠ [] ∧ ∃ session, d.store.getRunSession "run" = some session ∧
        d.store.Described plainHash "run" session := by
  obtain ⟨event, t, happend⟩ :=
    @exists_appendEvent ⟨100⟩ plainHash (givenEvent "evt_a" 5) storeWithRun
  obtain ⟨-, hrecords⟩ := FileStateStore.records_of_appendEvent happend
  have hkeeps : (LogCall.appendEvent (givenEvent "evt_a" 5)).KeepsRoot plainHash "run"
      storeWithRun := by
    refine .inr (.inl fun session hget => ?_)
    obtain rfl := Option.some.inj hget
    decide
  have hrun : LogRun ⟨100⟩ plainHash "run" (LogCall.KeepsRoot plainHash "run") ⟨storeWithRun, []⟩
      ⟨t, []⟩ := .single ⟨.appendEvent (givenEvent "evt_a" 5), hkeeps, rfl, _, happend⟩
  have hevents : t.records "run" ≠ [] := by
    rw [show t.records "run" = _ from hrecords]
    simp
  exact ⟨⟨t, []⟩, hrun, hevents,
    stored_root_describes_log (storeWithRun_created ⟨100⟩) hrun hevents⟩

/-- An event that is behind the cursor is logged, and the session keeps the root
of the log without it. -/
theorem late_event_leaves_root :
    ¬ ∀ (config : StoreConfig) (hash : MerkleHash) (runId : String) (s : RunStore)
      (d : Conversation), s.Created config runId →
      LogRun config hash runId (fun _ _ => True) ⟨s, []⟩ d → d.store.records runId ≠ [] →
      ∃ session, d.store.getRunSession runId = some session ∧
        d.store.Described hash runId session := by
  intro hclaim
  have hcreated := storeWithRun_created ⟨100⟩
  obtain ⟨first, t, hfirst⟩ :=
    @exists_appendEvent ⟨100⟩ plainHash (givenEvent "evt_a" 5) storeWithRun
  obtain ⟨second, u, hsecond⟩ := @exists_appendEvent ⟨100⟩ plainHash (givenEvent "evt_b" 3) t
  have hrun : LogRun ⟨100⟩ plainHash "run" (fun _ _ => True) ⟨storeWithRun, []⟩ ⟨t, []⟩ :=
    .single ⟨.appendEvent (givenEvent "evt_a" 5), trivial, rfl, _, hfirst⟩
  have hrun' : LogRun ⟨100⟩ plainHash "run" (fun _ _ => True) ⟨storeWithRun, []⟩ ⟨u, []⟩ :=
    hrun.tail ⟨.appendEvent (givenEvent "evt_b" 3), trivial, rfl, _, hsecond⟩
  obtain ⟨hfirstEvent, hfirstRecords⟩ := FileStateStore.records_of_appendEvent hfirst
  obtain ⟨hsecondEvent, hsecondRecords⟩ := FileStateStore.records_of_appendEvent hsecond
  have htrecords : t.records "run" = [first] := by
    rw [show t.records "run" = _ from hfirstRecords,
      show storeWithRun.records (givenEvent "evt_a" 5).runId = [] from hcreated.records]
    rfl
  have hurecords : u.records "run" = [first, second] := by
    rw [show u.records "run" = _ from hsecondRecords,
      show t.records (givenEvent "evt_b" 3).runId = _ from htrecords]
    rfl
  replace hfirstEvent : first = (givenEvent "evt_a" 5).withLeafHash plainHash := hfirstEvent
  replace hsecondEvent : second = (givenEvent "evt_b" 3).withLeafHash plainHash := hsecondEvent
  obtain ⟨before, hbefore, hdescribed⟩ :=
    hclaim ⟨100⟩ plainHash "run" _ ⟨t, []⟩ hcreated hrun (by simp [htrecords])
  obtain ⟨after, hafter, hdescribed'⟩ :=
    hclaim ⟨100⟩ plainHash "run" _ ⟨u, []⟩ hcreated hrun' (by simp [hurecords])
  have hcursor : before.latestEventSequence = 5 := by
    obtain ⟨event, hevent, hsequence⟩ := hdescribed.reached
    rw [diskEvents, htrecords, loadEvents_singleton, List.mem_singleton] at hevent
    rw [← hsequence, hevent, hfirstEvent]
    rfl
  have hsame : u.getRunSession "run" = t.getRunSession "run" := by
    obtain ⟨hne, -⟩ | ⟨-, event, v, hlog, hresult, hadvance⟩ :=
      FileStateStore.appendEvent_completes hsecond
    · exact absurd rfl hne
    · cases hresult
      obtain ⟨-, hlogs, -⟩ := logGivenEvent_spec hlog
      have hget : (v.cacheEvent "run" second).getRunSession "run" = some before := by
        rw [← hbefore, RunStore.getRunSession, RunStore.getRunSession, ← hlogs.runs]
        rfl
      obtain ⟨hnone, -⟩ | ⟨_, _, _, heq⟩ | ⟨current, _, _, _, hcurrent, hle, -⟩ :=
        FileStateStore.advance_completes hadvance
      · exact absurd (hget.symm.trans hnone) (by simp)
      · rw [heq, hbefore]
        exact hget
      · obtain rfl := Option.some.inj (hget.symm.trans hcurrent)
        rw [hcursor, hsecondEvent] at hle
        exact absurd hle (by decide)
  obtain rfl := Option.some.inj (hbefore.symm.trans (hsame.symm.trans hafter))
  have hroots := hdescribed.root.symm.trans hdescribed'.root
  simp only [diskEvents, htrecords, hurecords, hfirstEvent, hsecondEvent] at hroots
  revert hroots
  decide +kernel

end OrbitalMesh
