import Mathlib.Data.List.Flatten
import OrbitalMesh.Runtime
import OrbitalMesh.Base.SortedTail
import OrbitalMesh.Base.Greatest

/-!
# The store of webhook alerts

Every alert is appended to a log of its source on disk and to a bounded tail of it
in memory.  A tail is made by the first append after a start, by the first read,
whose limit also bounds what is kept, and by the reads and appends after these;
later reads of the source are answered from it.

The lines of all logs are one list, each with the place of its file.  A source id is
joined to the directory of the store as a path is; symbolic links are left out.
-/

namespace OrbitalMesh.Alerts

open SortedTail Ranking

structure AlertEvent where
  alertId : String
  sourceId : String
  action : String
  timestamp : String
  receivedAt : String
  title : Option String := none
  description : Option String := none
  severity : Option String := none
  service : Option String := none
  environment : Option String := none
  labels : Dict := []
  rawPayload : Dict := []
  templateSourceType : Option String := none
deriving DecidableEq

namespace AlertEvent

/-- A text or `None`. -/
def textOrNull (value : Option String) : Json := (value.map Json.str).getD .null

def toDict (event : AlertEvent) : Dict :=
  [("alert_id", .str event.alertId), ("source_id", .str event.sourceId),
    ("action", .str event.action), ("timestamp", .str event.timestamp),
    ("received_at", .str event.receivedAt), ("title", textOrNull event.title),
    ("description", textOrNull event.description), ("severity", textOrNull event.severity),
    ("service", textOrNull event.service), ("environment", textOrNull event.environment),
    ("labels", .obj event.labels), ("raw_payload", .obj event.rawPayload),
    ("template_source_type", textOrNull event.templateSourceType)]

variable (payload : Dict)

/-- `payload[key]`, where `to_dict` writes a text. -/
def textAt (key : String) : Except PyError String :=
  match payload.get? key with
  | some (.str value) => .ok value
  | some _ => .error ⟨.typeError, pyRepr key⟩
  | none => .error ⟨.keyError, pyRepr key⟩

/-- `payload.get(key)`, where `to_dict` writes a text or `None`. -/
def optionalAt (key : String) : Option String :=
  match payload.get? key with
  | some (.str value) => some value
  | _ => none

/-- `dict(payload.get(key) or {})`. -/
def membersAt (key : String) : Dict :=
  match payload.get? key with
  | some (.obj members) => members
  | _ => []

def fromDict : Except PyError AlertEvent := do
  let alertId ← textAt payload "alert_id"
  let sourceId ← textAt payload "source_id"
  let action ← textAt payload "action"
  let timestamp ← textAt payload "timestamp"
  let receivedAt ← textAt payload "received_at"
  pure {
    alertId, sourceId, action, timestamp, receivedAt
    title := optionalAt payload "title"
    description := optionalAt payload "description"
    severity := optionalAt payload "severity"
    service := optionalAt payload "service"
    environment := optionalAt payload "environment"
    labels := membersAt payload "labels"
    rawPayload := membersAt payload "raw_payload"
    templateSourceType := optionalAt payload "template_source_type" }

/-- An event is read back as it was written. -/
theorem fromDict_toDict (event : AlertEvent) : fromDict event.toDict = .ok event := by
  obtain ⟨alertId, sourceId, action, timestamp, receivedAt, title, description, severity, service,
    environment, labels, rawPayload, templateSourceType⟩ := event
  cases title <;> cases description <;> cases severity <;> cases service <;>
    cases environment <;> cases templateSourceType <;> rfl

end AlertEvent

def enter (directory : List String) (part : List Char) : List String :=
  if part = [] ∨ part = ['.'] then directory
  else if part = ['.', '.'] then directory.dropLast
  else directory ++ [String.ofList part]

variable (root : List String)

/-- `root / source_id`: an absolute id leaves the root. -/
def placeOf (sourceId : String) : List String :=
  (sourceId.toList.splitOn '/').foldl enter (if sourceId.toList.head? = some '/' then [] else root)

def IsDirectoryName (sourceId : String) : Prop :=
  '/' ∉ sourceId.toList ∧ sourceId ≠ "" ∧ sourceId ≠ "." ∧ sourceId ≠ ".."

instance (sourceId : String) : Decidable (IsDirectoryName sourceId) :=
  inferInstanceAs (Decidable (_ ∧ _))

theorem placeOf_name {sourceId : String} (h : IsDirectoryName sourceId) (root : List String) :
    placeOf root sourceId = root ++ [sourceId] := by
  obtain ⟨hslash, hempty, hdot, hdots⟩ := h
  have hhead : sourceId.toList.head? ≠ some '/' :=
    fun heq => hslash (List.mem_of_mem_head? heq)
  have hofList : ∀ chars : List Char, sourceId ≠ String.ofList chars → sourceId.toList ≠ chars := by
    intro chars hne heq
    exact hne (by rw [← heq, String.ofList_toList])
  have h₀ := hofList [] hempty
  have h₁ := hofList ['.'] hdot
  have h₂ := hofList ['.', '.'] hdots
  rw [placeOf, List.splitOn_eq_singleton hslash, if_neg hhead]
  simp [enter, h₀, h₁, h₂, String.ofList_toList]

/-- `sorted(self.root.iterdir())`, of the directories: the names of the entries
on the way to the logs. -/
def namesIn (places : List (List String)) : List String :=
  (places.filterMap fun place =>
    if root <+: place then place[root.length]? else none).dedup.insertionSort
      fun a b => Json.keyLe a b = true

/-- `AlertStore`: its directory, the lines on disk and the tails in memory. -/
structure AlertStore where
  root : List String
  tailSize : Nat := 500
  lines : List (List String × Dict) := []
  tails : Table (List AlertEvent) := ∅

namespace AlertStore

variable (s : AlertStore)

/-- `deque(events, maxlen=self._tail_size)`. -/
def bounded (events : List AlertEvent) : List AlertEvent :=
  lastOf s.tailSize events

def append (event : AlertEvent) : AlertStore :=
  let tail := (s.tails[event.sourceId]?).getD []
  { s with
    lines := s.lines ++ [(placeOf s.root event.sourceId, event.toDict)]
    tails := s.tails.insert event.sourceId (s.bounded (tail ++ [event])) }

/-- `handle.readlines()` of the log at a place. -/
def linesAt (place : List String) : List Dict :=
  (s.lines.filter fun line => line.1 = place).map Prod.snd

/-- `_read_from_disk`: `lines[-limit:]` are all lines if the limit is zero. -/
def readFromDisk (sourceId : String) (limit : Nat) :
    Except PyError (List AlertEvent) := do
  let lines := s.linesAt (placeOf s.root sourceId)
  let events ← (if limit = 0 then lines else lastOf limit lines).mapM AlertEvent.fromDict
  pure events.reverse

/-- `collected.sort(key=lambda event: event.received_at, reverse=True)`. -/
def NoEarlier (a b : AlertEvent) : Prop := Json.keyLe b.receivedAt a.receivedAt = true

instance : DecidableRel NoEarlier := fun _ _ => inferInstanceAs (Decidable (_ = true))

/-- The part of `list_events` for all sources. -/
def collect (s : AlertStore) (limit : Nat) : List String → Except PyError (List AlertEvent)
  | [] => pure []
  | name :: rest => do
    let events ← s.readFromDisk name limit
    let others ← s.collect limit rest
    pure (events ++ others)

def listEvents (source : Option String) (limit : Int) :
    Except PyError (List AlertEvent × AlertStore) :=
  if limit ≤ 0 then .ok ([], s)
  else
    match source with
    | some sourceId =>
      match s.tails[sourceId]? with
      | some tail => .ok ((lastOf limit.toNat tail).reverse, s)
      | none => do
        let events ← s.readFromDisk sourceId limit.toNat
        pure (events, { s with tails := s.tails.insert sourceId (s.bounded events.reverse) })
    | none => do
      let collected ← s.collect limit.toNat (namesIn s.root (s.lines.map Prod.fst))
      pure ((collected.insertionSort NoEarlier).take limit.toNat, s)

def latestForAlertId (sourceId alertId : String) :
    Except PyError (Option AlertEvent) :=
  let tail := (s.tails[sourceId]?).getD []
  match tail.reverse.find? fun event => event.alertId == alertId with
  | some event => .ok (some event)
  | none => do
    let events ← s.readFromDisk sourceId s.tailSize
    pure (events.find? fun event => event.alertId == alertId)

/-- A new process on the same disk. -/
def restart : AlertStore := { s with tails := ∅ }

end AlertStore

inductive Call where
  | append (event : AlertEvent)
  | listEvents (source : Option String) (limit : Int)
  | latestForAlertId (sourceId alertId : String)
  | restart

inductive Answer where
  | appended (event : AlertEvent)
  | events (events : List AlertEvent)
  | latest (event : Option AlertEvent)
  | restarted

def AlertStore.perform (s : AlertStore) : Call → Except PyError (Answer × AlertStore)
  | .append event => .ok (.appended event, s.append event)
  | .listEvents source limit => do
    let (events, s) ← s.listEvents source limit
    pure (.events events, s)
  | .latestForAlertId sourceId alertId => do
    let event ← s.latestForAlertId sourceId alertId
    pure (.latest event, s)
  | .restart => .ok (.restarted, s.restart)

def AlertStore.performAll (s : AlertStore) : List Call → Except PyError AlertStore
  | [] => .ok s
  | call :: rest => do
    let (_, s) ← s.perform call
    s.performAll rest

def Call.sources : Call → List String
  | .append event => [event.sourceId]
  | .listEvents source _ => source.toList
  | .latestForAlertId sourceId _ => [sourceId]
  | .restart => []

variable (calls : List Call)

def appended : List AlertEvent :=
  calls.filterMap fun call =>
    match call with
    | .append event => some event
    | _ => none

def appendedFor (sourceId : String) : List AlertEvent :=
  (appended calls).filter fun event => event.sourceId = sourceId

/-- The newest events of a source, the greatest of all, the last with an id if not too old. -/
def IsTransparent (tailSize : Nat) (past : List Call) : Call → Answer → Prop
  | .listEvents (some sourceId) limit, .events events =>
    0 < limit → limit ≤ tailSize →
      events = (lastOf limit.toNat (appendedFor past sourceId)).reverse
  | .listEvents none limit, .events events =>
    0 < limit → Greatest AlertStore.NoEarlier limit.toNat (appended past) events
  | .latestForAlertId sourceId alertId, .latest found =>
    ∀ event, (lastOf tailSize (appendedFor past sourceId)).reverse.find?
      (fun event => event.alertId == alertId) = some event → found = some event
  | .append event, .appended returned => returned = event
  | .restart, .restarted => True
  | _, _ => False

def newestOfEach (past : List Call) (limit : Nat) : List AlertEvent :=
  ((appended past).map AlertEvent.sourceId).dedup.flatMap fun sourceId =>
    lastOf limit (appendedFor past sourceId)

/-- What a call needs for its answer to be right: a source is read from disk, or its tail reaches
far enough back. -/
def CanAnswer (s : AlertStore) (past : List Call) : Call → Prop
  | .listEvents (some sourceId) limit =>
    0 < limit → limit ≤ s.tailSize → ∀ tail, s.tails[sourceId]? = some tail →
      min limit.toNat (appendedFor past sourceId).length ≤ tail.length
  | .listEvents none limit =>
    0 < limit → ∀ sourceId, ∀ older ∈ (appendedFor past sourceId).take
      ((appendedFor past sourceId).length - limit.toNat),
      limit.toNat ≤ ((newestOfEach past limit.toNat).filter
        fun newer => decide (AlertStore.NoEarlier newer older)).length
  | _ => True

def lineOf (event : AlertEvent) : List String × Dict :=
  (placeOf root event.sourceId, event.toDict)

/-- The disk holds every event, and each tail is an end of the events of its
source. -/
structure Tracks (past : List Call) (s : AlertStore) : Prop where
  lines : s.lines = (appended past).map (lineOf s.root)
  tails : ∀ sourceId tail, s.tails[sourceId]? = some tail →
    tail <:+ appendedFor past sourceId ∧ tail.length ≤ s.tailSize

def Named : Prop :=
  ∀ call ∈ calls, ∀ sourceId ∈ call.sources, IsDirectoryName sourceId

section

variable {past : List Call} {s : AlertStore} {sourceId : String}

theorem appended_append (past : List Call) (call : Call) :
    appended (past ++ [call]) = appended past ++ appended [call] := List.filterMap_append

theorem appendedFor_append (past : List Call) (call : Call) (sourceId : String) :
    appendedFor (past ++ [call]) sourceId =
      appendedFor past sourceId ++ appendedFor [call] sourceId := by
  rw [appendedFor, appended_append, List.filter_append]
  rfl

theorem Named.event (h : Named past) {event : AlertEvent} (hevent : event ∈ appended past) :
    IsDirectoryName event.sourceId := by
  obtain ⟨call, hcall, hsome⟩ := List.mem_filterMap.mp hevent
  cases call with
  | append other =>
    cases hsome
    exact h _ hcall _ (List.mem_singleton_self _)
  | listEvents | latestForAlertId | restart => cases hsome

theorem Tracks.linesAt (h : Tracks past s) (hnames : Named past)
    (hname : IsDirectoryName sourceId) :
    s.linesAt (placeOf s.root sourceId) =
      (appendedFor past sourceId).map AlertEvent.toDict := by
  rw [AlertStore.linesAt, h.lines, List.filter_map, List.map_map, appendedFor]
  have hsame : (appended past).filter ((fun line => decide (line.1 =
      placeOf s.root sourceId)) ∘ lineOf s.root) =
      (appended past).filter fun event => decide (event.sourceId = sourceId) := by
    refine List.filter_congr fun event hevent => ?_
    have hplace := placeOf_name (hnames.event hevent) s.root
    simp [lineOf, hplace, placeOf_name hname s.root]
  rw [hsame]
  rfl

theorem mapM_fromDict (events : List AlertEvent) :
    (events.map AlertEvent.toDict).mapM AlertEvent.fromDict = .ok events := by
  induction events with
  | nil => rfl
  | cons event rest ih =>
    rw [List.map_cons, List.mapM_cons, AlertEvent.fromDict_toDict, ok_bind, ih]
    rfl

/-- Reading gives the newest events of the source, the newest first. -/
theorem Tracks.readFromDisk (h : Tracks past s) (hnames : Named past)
    (hname : IsDirectoryName sourceId) (limit : Nat) :
    s.readFromDisk sourceId limit =
      .ok (if limit = 0 then appendedFor past sourceId
        else lastOf limit (appendedFor past sourceId)).reverse := by
  rw [AlertStore.readFromDisk, h.linesAt hnames hname]
  split
  · rw [mapM_fromDict]
    rfl
  · rw [lastOf_map, mapM_fromDict]
    rfl

theorem Tracks.mem_names (h : Tracks past s) (hnames : Named past) {name : String} :
    name ∈ namesIn s.root (s.lines.map Prod.fst) ↔
      name ∈ (appended past).map AlertEvent.sourceId := by
  have hplaces : (s.lines.map Prod.fst).filterMap (fun place =>
      if s.root <+: place then place[s.root.length]? else none) =
      (appended past).map AlertEvent.sourceId := by
    rw [h.lines, List.map_map, List.filterMap_map, ← List.filterMap_eq_map]
    refine List.filterMap_congr fun event hevent => ?_
    simp [lineOf, placeOf_name (hnames.event hevent) s.root]
  rw [namesIn, hplaces, List.mem_insertionSort, List.mem_dedup]

theorem nodup_namesIn (root : List String) (places : List (List String)) :
    (namesIn root places).Nodup :=
  ((List.perm_insertionSort _ _).nodup_iff).mpr (List.nodup_dedup _)

/-- What is collected are the newest events of each source. -/
theorem Tracks.collect (h : Tracks past s) (hnames : Named past) {limit : Nat} (hlimit : limit ≠ 0)
    {names : List String} (hdirectories : ∀ name ∈ names, IsDirectoryName name) :
    s.collect limit names =
      .ok (names.flatMap fun name => (lastOf limit (appendedFor past name)).reverse) := by
  induction names with
  | nil => rfl
  | cons name rest ih =>
    rw [AlertStore.collect, h.readFromDisk hnames (hdirectories name (by simp)), ok_bind,
      ih fun other hother => hdirectories other (List.mem_cons_of_mem _ hother), ok_bind,
      if_neg hlimit]
    rfl

end

section

variable {past : List Call} {s : AlertStore} {call : Call} {sourceId : String}

theorem Tracks.of_tails (h : Tracks past s) (hnone : appended [call] = [])
    {tails : Table (List AlertEvent)}
    (htails : ∀ sourceId tail, tails[sourceId]? = some tail →
      tail <:+ appendedFor past sourceId ∧ tail.length ≤ s.tailSize) :
    Tracks (past ++ [call]) { s with tails } := by
  refine ⟨?_, fun sourceId tail hget => ?_⟩
  · rw [appended_append, hnone, List.append_nil]
    exact h.lines
  · have hsame : appendedFor (past ++ [call]) sourceId = appendedFor past sourceId := by
      rw [appendedFor_append, appendedFor.eq_def [call], hnone, List.filter_nil, List.append_nil]
    rw [hsame]
    exact htails sourceId tail hget

theorem Tracks.append (h : Tracks past s) (event : AlertEvent) :
    Tracks (past ++ [.append event]) (s.append event) := by
  refine ⟨?_, fun sourceId tail hget => ?_⟩
  · show s.lines ++ [lineOf s.root event] = _
    rw [appended_append, List.map_append, h.lines]
    rfl
  · rw [AlertStore.append, Table.get_insert] at hget
    rw [appendedFor_append]
    split at hget
    · next heq =>
      subst heq
      obtain rfl := Option.some.inj hget
      have hold : (s.tails[event.sourceId]?).getD [] <:+ appendedFor past event.sourceId := by
        cases htail : s.tails[event.sourceId]? with
        | none => exact List.nil_suffix
        | some tail => exact (h.tails _ _ htail).1
      have hnew : appendedFor [.append event] event.sourceId = [event] := by
        simp [appendedFor, appended]
      rw [hnew, AlertStore.bounded]
      refine ⟨(lastOf_suffix _ _).trans ?_, by rw [length_lastOf]; exact Nat.min_le_left _ _⟩
      obtain ⟨earlier, hearlier⟩ := hold
      exact ⟨earlier, by rw [← hearlier, List.append_assoc]⟩
    · next hne =>
      have hnone : appendedFor [.append event] sourceId = [] := by
        have hne' : event.sourceId ≠ sourceId := fun heq => hne heq.symm
        simp [appendedFor, appended, hne']
      rw [hnone, List.append_nil]
      exact h.tails _ _ hget

/-- **One source.**  The answer is right when the source is read from disk, or
its tail is long enough. -/
theorem Tracks.listSource (h : Tracks past s) (hnames : Named past)
    (hname : IsDirectoryName sourceId) (limit : Int) :
    ∃ events t, s.listEvents (some sourceId) limit = .ok (events, t) ∧
      Tracks (past ++ [.listEvents (some sourceId) limit]) t ∧ t.tailSize = s.tailSize ∧
      (IsTransparent s.tailSize past (.listEvents (some sourceId) limit) (.events events) ↔
        CanAnswer s past (.listEvents (some sourceId) limit)) := by
  by_cases hlimit : limit ≤ 0
  · refine ⟨[], s, by rw [AlertStore.listEvents, if_pos hlimit], h.of_tails rfl h.tails, rfl, ?_⟩
    exact ⟨fun _ hpos => absurd hpos (by omega), fun _ hpos => absurd hpos (by omega)⟩
  · have hpos : 0 < limit := by omega
    have hnat : limit.toNat ≠ 0 := by omega
    cases htail : s.tails[sourceId]? with
    | some tail =>
      refine ⟨(lastOf limit.toNat tail).reverse, s, ?_, h.of_tails rfl h.tails, rfl, ?_⟩
      · rw [AlertStore.listEvents, if_neg hlimit, htail]
      · have hlong := lastOf_eq_iff_of_suffix (n := limit.toNat) (h.tails _ _ htail).1
        simp only [IsTransparent, CanAnswer, List.reverse_inj, htail, Option.some.injEq,
          forall_eq', hlong]
    | none =>
      have hread := h.readFromDisk hnames hname limit.toNat
      rw [if_neg hnat] at hread
      set newest := lastOf limit.toNat (appendedFor past sourceId) with hnewest
      refine ⟨newest.reverse,
        { s with tails := s.tails.insert sourceId (s.bounded newest.reverse.reverse) },
        ?_, ?_, rfl, ?_⟩
      · rw [AlertStore.listEvents, if_neg hlimit, htail, hread, ok_bind]
        rfl
      · refine h.of_tails rfl fun other tail hget => ?_
        rw [Table.get_insert] at hget
        split at hget
        · next heq =>
          subst heq
          obtain rfl := Option.some.inj hget
          rw [List.reverse_reverse, AlertStore.bounded, length_lastOf]
          exact ⟨(lastOf_suffix _ _).trans (lastOf_suffix _ _), Nat.min_le_left _ _⟩
        · exact h.tails _ _ hget
      · simp only [IsTransparent, CanAnswer, htail]
        simp [hnewest]

instance : Std.Total AlertStore.NoEarlier :=
  ⟨fun a b => by
    by_cases h : Json.keyLe b.receivedAt a.receivedAt = true
    · exact .inl h
    · exact .inr (Json.keyLe_total h)⟩

instance : IsTrans AlertEvent AlertStore.NoEarlier :=
  ⟨fun _ _ _ hab hbc => Json.keyLe_trans hbc hab⟩

/-- The first of the newest events of each source are the greatest of all events
exactly when enough of them beat every older one. -/
theorem greatest_parts_iff {names : List String} (hnodup : names.Nodup)
    (hmem : ∀ name, name ∈ names ↔ name ∈ (appended past).map AlertEvent.sourceId) (n : Nat) :
    Greatest AlertStore.NoEarlier n (appended past)
        (((names.flatMap fun name => (lastOf n (appendedFor past name)).reverse).insertionSort
          AlertStore.NoEarlier).take n) ↔
      ∀ sourceId, ∀ older ∈ (appendedFor past sourceId).take
        ((appendedFor past sourceId).length - n),
        n ≤ ((newestOfEach past n).filter
          fun newer => decide (AlertStore.NoEarlier newer older)).length := by
  set kept := names.flatMap fun name => (lastOf n (appendedFor past name)).reverse with hkept
  set dropped := names.flatMap fun name =>
    (appendedFor past name).take ((appendedFor past name).length - n) with hdropped
  have hall : ∀ event ∈ appended past, event.sourceId ∈ names :=
    fun event hevent => (hmem _).mpr (List.mem_map_of_mem hevent)
  have hperm : (kept ++ dropped).Perm (appended past) := by
    refine (List.flatMap_append_perm names _ _).trans ?_
    refine (List.Perm.flatMap_left names fun name _ => ?_).trans
      (perm_flatMap_filter AlertEvent.sourceId hnodup hall)
    refine ((List.reverse_perm _).append_right _).trans ?_
    refine List.perm_append_comm.trans ?_
    rw [take_append_lastOf]
    exact List.Perm.refl _
  have hfull : dropped ≠ [] → n ≤ kept.length := by
    intro hne
    obtain ⟨older, holder⟩ := List.exists_mem_of_ne_nil _ hne
    obtain ⟨name, hname, htake⟩ := List.mem_flatMap.mp holder
    have hlonger : 0 < ((appendedFor past name).take ((appendedFor past name).length - n)).length :=
      List.length_pos_of_mem htake
    rw [List.length_take] at hlonger
    have hpart := ((List.singleton_sublist.mpr hname).flatMap
      fun name => (lastOf n (appendedFor past name)).reverse).length_le
    rw [List.flatMap_singleton, List.length_reverse, length_lastOf, ← hkept] at hpart
    omega
  have hsame : kept.Perm (newestOfEach past n) := by
    have hdedup : names.Perm ((appended past).map AlertEvent.sourceId).dedup := by
      refine (List.perm_ext_iff_of_nodup hnodup (List.nodup_dedup _)).mpr fun name => ?_
      rw [List.mem_dedup]
      exact hmem name
    exact List.Perm.flatMap hdedup fun name _ => List.reverse_perm _
  rw [greatest_take_iff hperm hfull]
  constructor
  · intro hbeaten sourceId older holder
    rw [← ((hsame.filter _).length_eq)]
    refine hbeaten older (List.mem_flatMap.mpr ⟨sourceId, ?_, holder⟩)
    have hevent := List.mem_filter.mp (List.mem_of_mem_take holder)
    rw [← of_decide_eq_true hevent.2]
    exact hall older hevent.1
  · intro hbeaten older holder
    obtain ⟨name, -, htake⟩ := List.mem_flatMap.mp holder
    rw [(hsame.filter _).length_eq]
    exact hbeaten name older htake

/-- **All sources.**  The answer is right when no event too old to be read beats
those that are read. -/
theorem Tracks.listAll (h : Tracks past s) (hnames : Named past) (limit : Int) :
    ∃ events t, s.listEvents none limit = .ok (events, t) ∧
      Tracks (past ++ [.listEvents none limit]) t ∧ t.tailSize = s.tailSize ∧
      (IsTransparent s.tailSize past (.listEvents none limit) (.events events) ↔
        CanAnswer s past (.listEvents none limit)) := by
  by_cases hlimit : limit ≤ 0
  · refine ⟨[], s, by rw [AlertStore.listEvents, if_pos hlimit], h.of_tails rfl h.tails, rfl, ?_⟩
    exact ⟨fun _ hpos => absurd hpos (by omega), fun _ hpos => absurd hpos (by omega)⟩
  · have hpos : 0 < limit := by omega
    have hnat : limit.toNat ≠ 0 := by omega
    set names := namesIn s.root (s.lines.map Prod.fst) with hnamesIn
    have hmem : ∀ name, name ∈ names ↔ name ∈ (appended past).map AlertEvent.sourceId :=
      fun name => h.mem_names hnames
    have hdirectories : ∀ name ∈ names, IsDirectoryName name := by
      intro name hname
      obtain ⟨event, hevent, rfl⟩ := List.mem_map.mp ((hmem name).mp hname)
      exact hnames.event hevent
    set kept := names.flatMap fun name => (lastOf limit.toNat (appendedFor past name)).reverse
      with hkept
    refine ⟨(kept.insertionSort AlertStore.NoEarlier).take limit.toNat, s, ?_,
      h.of_tails rfl h.tails, rfl, ?_⟩
    · rw [AlertStore.listEvents, if_neg hlimit, h.collect hnames hnat hdirectories, ok_bind]
      rfl
    · have hparts := greatest_parts_iff (nodup_namesIn _ _) hmem limit.toNat
      simp only [IsTransparent, CanAnswer, hpos, forall_const]
      exact hparts

/-- **One alert.**  The tail is an end of the log, so the first event found in
it is the last one there is. -/
theorem Tracks.latest (h : Tracks past s) (hnames : Named past) (hname : IsDirectoryName sourceId)
    (alertId : String) :
    ∃ found, s.latestForAlertId sourceId alertId = .ok found ∧
      IsTransparent s.tailSize past (.latestForAlertId sourceId alertId) (.latest found) := by
  have hread := h.readFromDisk hnames hname s.tailSize
  set newest := if s.tailSize = 0 then appendedFor past sourceId
    else lastOf s.tailSize (appendedFor past sourceId) with hnewest
  set wanted : AlertEvent → Bool := fun event => event.alertId == alertId with hwanted
  cases hfind : ((s.tails[sourceId]?).getD []).reverse.find? wanted with
  | some event =>
    refine ⟨some event, ?_, fun last hlast => ?_⟩
    · rw [AlertStore.latestForAlertId, hfind]
    · cases htail : s.tails[sourceId]? with
      | none =>
        rw [htail] at hfind
        cases hfind
      | some tail =>
        rw [htail, Option.getD_some] at hfind
        obtain ⟨hend, hlen⟩ := h.tails _ _ htail
        have hfront :
            tail.reverse <+: (lastOf s.tailSize (appendedFor past sourceId)).reverse :=
          List.reverse_prefix.mpr (suffix_lastOf hend hlen)
        exact (hfront.find?_eq_some hfind).symm.trans hlast
  | none =>
    refine ⟨newest.reverse.find? wanted, ?_, fun last hlast => ?_⟩
    · rw [AlertStore.latestForAlertId, hfind, hread, ok_bind]
      rfl
    · rw [hnewest]
      split
      · next hzero =>
        rw [hzero] at hlast
        simp [lastOf] at hlast
      · exact hlast

theorem Tracks.perform (h : Tracks past s) (hnames : Named (past ++ [call])) :
    ∃ answer t, s.perform call = .ok (answer, t) ∧ Tracks (past ++ [call]) t ∧
      t.tailSize = s.tailSize ∧
      (IsTransparent s.tailSize past call answer ↔ CanAnswer s past call) := by
  have hpast : Named past := fun other hother => hnames other (List.mem_append_left _ hother)
  have hcall := hnames call (List.mem_append_right _ (List.mem_singleton_self _))
  cases call with
  | append event =>
    exact ⟨_, _, rfl, h.append event, rfl, ⟨fun _ => trivial, fun _ => rfl⟩⟩
  | restart =>
    refine ⟨_, _, rfl, h.of_tails rfl fun sourceId tail hget => ?_, rfl, Iff.rfl⟩
    cases hget
  | latestForAlertId sourceId alertId =>
    have hname := hcall sourceId (by simp [Call.sources])
    obtain ⟨found, hfound, hright⟩ := h.latest hpast hname alertId
    refine ⟨.latest found, s, ?_, h.of_tails rfl h.tails, rfl, fun _ => trivial, fun _ => hright⟩
    rw [AlertStore.perform, hfound, ok_bind]
    rfl
  | listEvents source limit =>
    have hlist : ∃ events t, s.listEvents source limit = .ok (events, t) ∧
        Tracks (past ++ [.listEvents source limit]) t ∧ t.tailSize = s.tailSize ∧
        (IsTransparent s.tailSize past (.listEvents source limit) (.events events) ↔
          CanAnswer s past (.listEvents source limit)) := by
      cases source with
      | none => exact h.listAll hpast limit
      | some sourceId =>
        exact h.listSource hpast (hcall sourceId (by simp [Call.sources])) limit
    obtain ⟨events, t, hevents, hrest⟩ := hlist
    refine ⟨.events events, t, ?_, hrest⟩
    rw [AlertStore.perform, hevents, ok_bind]
    rfl

theorem Tracks.performAll (h : Tracks past s) {calls : List Call} (hnames : Named (past ++ calls)) :
    ∃ t, s.performAll calls = .ok t ∧ Tracks (past ++ calls) t ∧ t.tailSize = s.tailSize := by
  induction calls generalizing past s with
  | nil => exact ⟨s, rfl, by rwa [List.append_nil], rfl⟩
  | cons call rest ih =>
    rw [List.append_cons] at hnames ⊢
    have hfirst : Named (past ++ [call]) :=
      fun other hother => hnames other (List.mem_append_left _ hother)
    obtain ⟨answer, u, hperform, htracks, hsize, -⟩ := h.perform hfirst
    obtain ⟨t, hrest, htracks', hsize'⟩ := ih htracks hnames
    refine ⟨t, ?_, htracks', hsize'.trans hsize⟩
    rw [AlertStore.performAll, hperform, ok_bind]
    exact hrest

end

/-- **The alert cache is transparent where the tails reach far enough**: exactly when the call
can be answered from what is read. -/
theorem alert_cache_transparent_iff (tailSize : Nat) {past : List Call}
    {call : Call} (hnames : Named (past ++ [call])) :
    ∃ s answer t, ({ root, tailSize } : AlertStore).performAll past = .ok s ∧
      s.perform call = .ok (answer, t) ∧
      (IsTransparent tailSize past call answer ↔ CanAnswer s past call) := by
  have hempty : Tracks [] ({ root, tailSize } : AlertStore) := by
    refine ⟨rfl, fun sourceId tail hget => ?_⟩
    cases hget
  have hpast : Named ([] ++ past) := fun other hother =>
    hnames other (List.mem_append_left _ hother)
  obtain ⟨s, hrun, htracks, hsize⟩ := hempty.performAll hpast
  obtain ⟨answer, t, hperform, -, -, hright⟩ := htracks.perform hnames
  refine ⟨s, answer, t, hrun, hperform, ?_⟩
  have hsame : s.tailSize = tailSize := hsize
  rwa [hsame] at hright

def pagerAlert (alertId receivedAt : String) : AlertEvent where
  alertId
  sourceId := "pager"
  action := "fire"
  timestamp := receivedAt
  receivedAt

theorem alert_cache_transparent_pager :
    ∃ s answer t, ({ root := ["alerts"], tailSize := 500 } : AlertStore).performAll
        [.append (pagerAlert "a" "1"), .append (pagerAlert "b" "2")] = .ok s ∧
      s.perform (.listEvents (some "pager") 2) = .ok (answer, t) ∧
      (IsTransparent 500 [.append (pagerAlert "a" "1"), .append (pagerAlert "b" "2")]
          (.listEvents (some "pager") 2) answer ↔
        CanAnswer s [.append (pagerAlert "a" "1"), .append (pagerAlert "b" "2")]
          (.listEvents (some "pager") 2)) :=
  alert_cache_transparent_iff ["alerts"] 500 (by
    intro call hcall sourceId hsource
    simp only [List.cons_append, List.nil_append, List.mem_cons, List.not_mem_nil, or_false]
      at hcall
    rcases hcall with rfl | rfl | rfl <;>
      simp only [Call.sources, pagerAlert, Option.toList_some, List.mem_singleton] at hsource <;>
      subst hsource <;> decide)

/-- After a restart the first append makes a tail of one event, and the events
before it are not listed any more. -/
theorem appended_alert_hides_older :
    ¬ ∀ (root : List String) (tailSize : Nat) (past : List Call) (call : Call),
      Named (past ++ [call]) → ∀ s answer t,
      ({ root, tailSize } : AlertStore).performAll past = .ok s →
      s.perform call = .ok (answer, t) → IsTransparent tailSize past call answer := by
  intro hclaim
  set past : List Call :=
    [.append (pagerAlert "a" "1"), .restart, .append (pagerAlert "b" "2")] with hpast
  have hnames : Named (past ++ [.listEvents (some "pager") 2]) := by
    intro call hcall sourceId hsource
    simp only [hpast, List.cons_append, List.nil_append, List.mem_cons, List.not_mem_nil,
      or_false] at hcall
    rcases hcall with rfl | rfl | rfl | rfl <;>
      simp only [Call.sources, pagerAlert, Option.toList_some, List.mem_singleton,
        List.not_mem_nil] at hsource <;>
      subst hsource <;> decide
  set s := ((({ root := [], tailSize := 2 } : AlertStore).append
    (pagerAlert "a" "1")).restart).append (pagerAlert "b" "2") with hs
  have htail : s.tails["pager"]? = some [pagerAlert "b" "2"] := by
    exact Table.get_insert_self _ _ _
  have hanswer : s.perform (.listEvents (some "pager") 2) =
      .ok (.events [pagerAlert "b" "2"], s) := by
    rfl
  have hright := hclaim [] 2 past _ hnames s _ s rfl hanswer (by decide) (by decide)
  exact absurd hright (by decide)

end OrbitalMesh.Alerts
