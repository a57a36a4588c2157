import Mathlib.Data.List.Dedup
import Mathlib.Data.List.Perm.Subperm
import OrbitalMesh.Base.Json
import OrbitalMesh.Base.Recency
import OrbitalMesh.Base.SortedTail

/-!
# The store of signal histories

Every signal of a target is appended to a bounded tail in memory and to a file of
the target; after a restart the tails are replayed from the files.  `add` moves the
target it writes to the end of the order in which targets are evicted;
`hydrate_from_disk` appends to whatever tails there are.

The lines of all files are one list, each with the place of its file.  The clock
counts microseconds; how times are written and read and how a directory is listed
is the environment.
-/

namespace OrbitalMesh.SignalHistory

open SortedTail Recency

/-- A `datetime`: the microseconds that it shows, and its offset from UTC if it has
one. -/
structure DateTime where
  shown : Int
  offset : Option Int
deriving DecidableEq

def DateTime.instant (t : DateTime) : Option Int := t.offset.map (t.shown - ·)

/-- `datetime.isoformat`, and `_parse_iso`. -/
structure Env where
  isoformat : DateTime → String
  parseIso : String → Option DateTime

structure SignalRecord where
  targetId : String
  signalType : String
  observedAt : DateTime
  payload : Dict
  summary : Option Dict := none
deriving DecidableEq

variable (env : Env)

def SignalRecord.toDict (record : SignalRecord) : Dict :=
  [("target_id", .str record.targetId), ("signal_type", .str record.signalType),
    ("observed_at", .str (env.isoformat record.observedAt)), ("payload", .obj record.payload),
    ("summary", (record.summary.map Json.obj).getD .null)]

/-- `raw[key]`, where `to_dict` writes a text. -/
def textAt (raw : Dict) (key : String) : Option String :=
  match raw.get? key with
  | some (.str text) => some text
  | _ => none

/-- `raw.get(key)`, where `to_dict` writes an object. -/
def membersAt (raw : Dict) (key : String) : Dict :=
  match raw.get? key with
  | some (.obj members) => members
  | _ => []

/-- `from_dict`; an empty summary is read as none. -/
def SignalRecord.fromDict (raw : Dict) : Option SignalRecord := do
  let observedAt ← (textAt raw "observed_at").bind env.parseIso
  let targetId ← textAt raw "target_id"
  let signalType ← textAt raw "signal_type"
  let summary := membersAt raw "summary"
  return {
    targetId
    signalType
    observedAt
    payload := membersAt raw "payload"
    summary := if summary = [] then none else some summary }

theorem SignalRecord.fromDict_toDict {env : Env} {record : SignalRecord}
    (hiso : env.parseIso (env.isoformat record.observedAt) = some record.observedAt)
    (hsummary : record.summary ≠ some []) :
    SignalRecord.fromDict env (record.toDict env) = some record := by
  obtain ⟨targetId, signalType, observedAt, payload, summary⟩ := record
  have hread : (textAt (SignalRecord.toDict env
      ⟨targetId, signalType, observedAt, payload, summary⟩) "observed_at").bind env.parseIso =
      some observedAt := hiso
  rw [SignalRecord.fromDict, hread]
  cases summary with
  | none => rfl
  | some members =>
    have hmembers : members ≠ [] := fun heq => hsummary (by rw [heq])
    show some (SignalRecord.mk targetId signalType observedAt payload
      (if members = [] then none else some members)) = _
    rw [if_neg hmembers]

/-- A character that `_safe_dir_name` keeps. -/
def isDirChar (c : Char) : Bool :=
  ('a' ≤ c && c ≤ 'z') || ('A' ≤ c && c ≤ 'Z') || ('0' ≤ c && c ≤ '9') ||
    ['.', '_', '-'].contains c

def safeDirName (targetId : String) : String :=
  String.ofList (targetId.toList.map fun c => if isDirChar c then c else '_')

/-- Where a file `events.jsonl` lies: in the root, above it, or in a directory of the
root. -/
inductive Place where
  | root
  | parent
  | dir (name : String)
deriving DecidableEq

/-- `self.root / name`. -/
def placeOf (name : String) : Place :=
  if name = "" ∨ name = "." then .root else if name = ".." then .parent else .dir name

def placeOfTarget (targetId : String) : Place := placeOf (safeDirName targetId)

/-- The arguments of `SignalHistoryStore`, and the longest name the file system
takes. -/
structure Config where
  recordsPerTarget : Nat := 60
  maxTargets : Nat := 1024
  retentionSeconds : Nat := 3600
  persist : Bool := true
  nameMax : Nat := 255

/-- `SignalHistoryStore`: the tails in memory, and the lines on disk. -/
structure Store where
  tails : List (String × List SignalRecord) := []
  lines : List (Place × Dict) := []

inductive Failure where
  | stopIteration
  | osError
  | typeError

section

variable (config : Config) (env : Env)

/-- `deque(records, maxlen=self.records_per_target)`. -/
def bounded (records : List SignalRecord) : List SignalRecord :=
  lastOf config.recordsPerTarget records

variable (tails : List (String × List SignalRecord))
  (s : Store) (record : SignalRecord) (target : Option String) (now : Int) (listing : List String)

/-- The part of `add` in memory; there is no target to evict when the bound is
zero. -/
def remember : Except Failure (List (String × List SignalRecord)) :=
  match get? tails record.targetId with
  | some tail => .ok (toEnd tails record.targetId (bounded config (tail ++ [record])))
  | none =>
    if config.maxTargets ≤ tails.length then
      match tails with
      | [] => .error .stopIteration
      | _ :: rest => .ok (rest ++ [(record.targetId, bounded config [record])])
    else .ok (tails ++ [(record.targetId, bounded config [record])])

/-- `_persist_record`; in the root, the name of the file may be that of a target's
directory. -/
def persistRecord (lines : List (Place × Dict)) (record : SignalRecord) :
    Except Failure (List (Place × Dict)) :=
  let written := lines ++ [(placeOfTarget record.targetId, record.toDict env)]
  match placeOfTarget record.targetId with
  | .parent => .ok written
  | .root => if lines.any (·.1 = .dir "events.jsonl") then .ok lines else .ok written
  | .dir name =>
    if config.nameMax < name.length then .error .osError
    else if name = "events.jsonl" ∧ lines.any (·.1 = .root) then .error .osError
    else .ok written

/-- `add`, with what it raises. -/
def add : Store × Option Failure :=
  match remember config s.tails record with
  | .error failure => (s, some failure)
  | .ok tails =>
    if config.persist then
      match persistRecord config env s.lines record with
      | .error failure => ({ s with tails }, some failure)
      | .ok lines => ({ tails, lines }, none)
    else ({ s with tails }, none)

/-- `events_path.read_text().splitlines()`. -/
def linesAt (lines : List (Place × Dict)) (place : Place) : List Dict :=
  (lines.filter (·.1 = place)).map Prod.snd

/-- The directories that `hydrate_from_disk` reads, where the root is listed as
given. -/
def placesRead : List Place :=
  match target with
  | some targetId => [placeOfTarget targetId]
  | none => listing.map .dir

def cutoff : Int := now - config.retentionSeconds * 1000000

/-- The records that are loaded; a naive time cannot be compared with the cutoff, and
ends it. -/
def loadable (cutoff : Int) : List Dict → List SignalRecord × Option Failure
  | [] => ([], none)
  | line :: rest =>
    match SignalRecord.fromDict env line with
    | none => loadable cutoff rest
    | some record =>
      match record.observedAt.instant with
      | none => ([], some .typeError)
      | some instant =>
        if instant < cutoff then loadable cutoff rest
        else (record :: (loadable cutoff rest).1, (loadable cutoff rest).2)

/-- `self._tails.setdefault(...).append(record)`. -/
def load : List (String × List SignalRecord) :=
  put tails record.targetId
    (bounded config ((get? tails record.targetId).getD [] ++ [record]))

/-- What `hydrate_from_disk` loads. -/
def loaded : List SignalRecord × Option Failure :=
  if config.persist then
    loadable env (cutoff config now) ((placesRead target listing).flatMap (linesAt s.lines))
  else ([], none)

/-- `hydrate_from_disk`, with what it raises. -/
def hydrate : Store × Option Failure :=
  ({ s with tails := (loaded config env s target now listing).1.foldl (load config) s.tails },
    (loaded config env s target now listing).2)

end

inductive Op where
  | add (record : SignalRecord)
  | hydrate (target : Option String) (now : Int) (listing : List String)
  | restart

variable (config : Config)

def Op.after (env : Env) (s : Store) : Op → Store
  | .add record => (SignalHistory.add config env s record).1
  | .hydrate target now listing => (SignalHistory.hydrate config env s target now listing).1
  | .restart => { s with tails := [] }

/-- The records that were added, and the targets that were written in memory, the
last one first. -/
structure Log where
  added : List SignalRecord := []
  writes : List String := []

def Op.log (config : Config) (env : Env) (s : Store) (log : Log) : Op → Log
  | .add record =>
    match remember config s.tails record with
    | .ok _ => { added := log.added ++ [record], writes := record.targetId :: log.writes }
    | .error _ => log
  | .hydrate target now listing =>
    { log with
      writes := ((loaded config env s target now listing).1.map (·.targetId)).reverse ++
        log.writes }
  | .restart => { log with writes := [] }

/-- Times are read back as they were written, and a listing of the root has every directory once. -/
def Op.Given (s : Store) : Op → Prop
  | .add record => env.parseIso (env.isoformat record.observedAt) = some record.observedAt
  | .hydrate _ _ listing => listing.Nodup ∧
      ∀ name, (∃ line ∈ s.lines, line.1 = .dir name) → name ∈ listing
  | .restart => True

/-- Operations one after the other, each of which meets a condition where it is
made. -/
inductive Reaches (config : Config) (env : Env) (meets : Store → Log → Op → Prop) :
    List Op → Store → Log → Prop
  | start : Reaches config env meets [] {} {}
  | step {ops : List Op} {s : Store} {log : Log} (past : Reaches config env meets ops s log)
      (op : Op) (hmeets : meets s log op) :
      Reaches config env meets (ops ++ [op]) (op.after config env s) (op.log config env s log)

def Inside (now : Int) (record : SignalRecord) : Prop :=
  ∃ instant, record.observedAt.instant = some instant ∧ cutoff config now ≤ instant

instance (config : Config) (now : Int) (record : SignalRecord) :
    Decidable (Inside config now record) :=
  match h : record.observedAt.instant with
  | none => isFalse fun ⟨_, hsome, _⟩ => by rw [h] at hsome; cases hsome
  | some instant =>
    decidable_of_iff (cutoff config now ≤ instant)
      ⟨fun hle => ⟨instant, h, hle⟩, fun ⟨_, hsome, hle⟩ => by
        rw [h] at hsome
        exact Option.some.inj hsome ▸ hle⟩

def tailOf (s : Store) (targetId : String) : List SignalRecord :=
  (get? s.tails targetId).getD []

/-- What holds of the store after the operations. -/
structure Survives (env : Env) (meets : Store → Log → Op → Prop)
    (ops : List Op) (s : Store) (log : Log) : Prop where
  targets : s.tails.length ≤ config.maxTargets
  once : ∀ targetId, (tailOf s targetId).Sublist (log.added.filter (·.targetId = targetId))
  restored : ∀ past now listing, ops = past ++ [.restart, .hydrate none now listing] →
    (∀ targetId, tailOf s targetId = lastOf config.recordsPerTarget
      (log.added.filter fun record => record.targetId = targetId ∧ Inside config now record)) ∧
    ∀ target now' listing', now ≤ now' → meets s log (.hydrate target now' listing') →
      ((Op.hydrate target now' listing').after config env s).tails = s.tails
  evicted : ∀ record evicted, meets s log (.add record) → (get? s.tails evicted).isSome = true →
    get? ((Op.add record).after config env s).tails evicted = none →
    ∀ other ∈ keys s.tails, other ≠ evicted →
      log.writes.idxOf other < log.writes.idxOf evicted

/-- A record that is read back from disk as it was added. -/
structure Readable (record : SignalRecord) : Prop where
  iso : env.parseIso (env.isoformat record.observedAt) = some record.observedAt
  aware : record.observedAt.offset.isSome = true
  summary : record.summary ≠ some []

def readBy (log : Log) (target : Option String) (now : Int)
    (listing : List String) : List SignalRecord :=
  log.added.filter fun record =>
    placeOfTarget record.targetId ∈ placesRead target listing ∧ Inside config now record

/-- A record has an offset and no empty summary, and its target a directory of its own; a
hydration reads targets that are not in memory and for which there is room. -/
def Op.Fits (s : Store) (log : Log) : Op → Prop
  | .add record => config.persist = true ∧ record.observedAt.offset.isSome = true ∧
      record.summary ≠ some [] ∧
      (∃ name, placeOfTarget record.targetId = .dir name ∧ name.length ≤ config.nameMax) ∧
      ∀ other ∈ log.added, placeOfTarget other.targetId = placeOfTarget record.targetId →
        other.targetId = record.targetId
  | .hydrate target now listing =>
    (∀ record ∈ readBy config log target now listing,
      get? s.tails record.targetId = none) ∧
    s.tails.length + ((readBy config log target now listing).map (·.targetId)).dedup.length ≤
      config.maxTargets
  | .restart => True

section

variable {config : Config} {env : Env} {tails : List (String × List SignalRecord)}
variable {records : List SignalRecord} {writes : List String}

theorem loadable_toDict {now : Int} (h : ∀ record ∈ records, Readable env record) :
    loadable env (cutoff config now) (records.map (SignalRecord.toDict env)) =
      (records.filter fun record => Inside config now record, none) := by
  induction records with
  | nil => rfl
  | cons record records ih =>
    obtain ⟨hiso, haware, hsummary⟩ := h record List.mem_cons_self
    have hrest := ih fun other hother => h other (List.mem_cons_of_mem _ hother)
    obtain ⟨offset, hoffset⟩ := Option.isSome_iff_exists.mp haware
    have hinstant : record.observedAt.instant = some (record.observedAt.shown - offset) := by
      rw [DateTime.instant, hoffset]
      rfl
    rw [List.map_cons, loadable, SignalRecord.fromDict_toDict hiso hsummary, List.filter_cons]
    dsimp only
    rw [hinstant, hrest]
    dsimp only
    by_cases hinside : Inside config now record
    · obtain ⟨instant, hsome, hle⟩ := id hinside
      rw [hinstant] at hsome
      obtain rfl := Option.some.inj hsome
      rw [if_neg (by omega), if_pos (by simpa using hinside)]
    · have hlt : record.observedAt.shown - offset < cutoff config now := by
        by_contra hnot
        exact hinside ⟨_, hinstant, by omega⟩
      rw [if_pos hlt, if_neg (by simpa using hinside)]

theorem get?_loads (records : List SignalRecord) (tails : List (String × List SignalRecord))
    (targetId : String) :
    get? (records.foldl (load config) tails) targetId =
      if targetId ∈ records.map (·.targetId) then
        some (lastOf config.recordsPerTarget ((get? tails targetId).getD [] ++
          records.filter (·.targetId = targetId)))
      else get? tails targetId := by
  induction records generalizing tails with
  | nil => simp
  | cons record records ih =>
    rw [List.foldl_cons, ih, load, get?_put, List.filter_cons, List.map_cons]
    by_cases htarget : targetId = record.targetId
    · subst htarget
      rw [if_pos (rfl : record.targetId = record.targetId), if_pos List.mem_cons_self,
        if_pos (decide_eq_true rfl), Option.getD_some, bounded]
      by_cases hmore : record.targetId ∈ records.map (·.targetId)
      · rw [if_pos hmore, lastOf_lastOf_append, List.append_assoc, List.singleton_append]
      · have hempty : records.filter (·.targetId = record.targetId) = [] := by
          refine List.filter_eq_nil_iff.mpr fun other hother heq => hmore ?_
          exact List.mem_map.mpr ⟨other, hother, of_decide_eq_true heq⟩
        rw [if_neg hmore, hempty]
    · have hne : ¬ record.targetId = targetId := fun heq => htarget heq.symm
      simp only [htarget, hne, List.mem_cons, false_or, if_false, decide_false]
      rfl

theorem keys_loads (config : Config) (records : List SignalRecord)
    (tails : List (String × List SignalRecord)) :
    ∃ new, keys (records.foldl (load config) tails) = keys tails ++ new ∧
      new ⊆ records.map (·.targetId) := by
  induction records generalizing tails with
  | nil => exact ⟨[], by simp, by simp⟩
  | cons record records ih =>
    obtain ⟨new, hkeys, hnew⟩ := ih (load config tails record)
    rw [load, keys_put] at hkeys
    rw [List.foldl_cons, List.map_cons]
    split at hkeys
    · exact ⟨new, hkeys, fun key hkey => List.mem_cons_of_mem _ (hnew hkey)⟩
    · refine ⟨record.targetId :: new, by rw [load, hkeys, List.append_assoc]; rfl, ?_⟩
      rintro key hkey
      obtain rfl | hkey := List.mem_cons.mp hkey
      · exact List.mem_cons_self
      · exact List.mem_cons_of_mem _ (hnew hkey)

variable {targetId : String}

theorem byAge_again {front : List String} (h : ByAge writes (keys tails))
    (hkeys : keys tails = front ++ [targetId])
    (hall : ∀ record ∈ records, record.targetId = targetId) :
    ByAge ((records.map (·.targetId)).reverse ++ writes)
        (keys (records.foldl (load config) tails)) ∧
      keys (records.foldl (load config) tails) = keys tails := by
  induction records generalizing tails writes with
  | nil => exact ⟨h, rfl⟩
  | cons record records ih =>
    obtain rfl := hall record List.mem_cons_self
    have hmem : record.targetId ∈ keys tails := by simp [hkeys]
    have hsame : keys (load config tails record) = keys tails := by
      rw [load, keys_put, if_pos hmem]
    have hone : ByAge (record.targetId :: writes) (keys (load config tails record)) := by
      rw [hsame, hkeys]
      exact (hkeys ▸ h).again
    obtain ⟨hage, hrest⟩ := ih hone (hsame.trans hkeys)
      fun other hother => hall other (List.mem_cons_of_mem _ hother)
    rw [List.map_cons, List.reverse_cons, List.append_assoc, List.foldl_cons]
    exact ⟨hage, hrest.trans hsame⟩

theorem byAge_batch (h : ByAge writes (keys tails)) (hnew : targetId ∉ keys tails)
    (hall : ∀ record ∈ records, record.targetId = targetId) :
    ByAge ((records.map (·.targetId)).reverse ++ writes)
      (keys (records.foldl (load config) tails)) := by
  cases records with
  | nil => exact h
  | cons record records =>
    obtain rfl := hall record List.mem_cons_self
    have hkeys : keys (load config tails record) = keys tails ++ [record.targetId] := by
      rw [load, keys_put, if_neg hnew]
    have hone : ByAge (record.targetId :: writes) (keys (load config tails record)) := by
      rw [hkeys]
      exact h.write hnew
    rw [List.map_cons, List.reverse_cons, List.append_assoc, List.foldl_cons]
    exact (byAge_again hone hkeys fun other hother =>
      hall other (List.mem_cons_of_mem _ hother)).1

end

/-- What every operation that fits keeps. -/
structure Good (env : Env) (s : Store) (log : Log) : Prop where
  ages : ByAge log.writes (keys s.tails)
  room : s.tails.length ≤ config.maxTargets
  once : ∀ targetId, (tailOf s targetId).Sublist (log.added.filter (·.targetId = targetId))
  lines : s.lines = log.added.map fun record =>
    (placeOfTarget record.targetId, record.toDict env)
  readable : ∀ record ∈ log.added, Readable env record
  named : ∀ record ∈ log.added, ∃ name, placeOfTarget record.targetId = .dir name
  apart : ∀ record ∈ log.added, ∀ other ∈ log.added,
    placeOfTarget other.targetId = placeOfTarget record.targetId →
    other.targetId = record.targetId
  persist : log.added ≠ [] → config.persist = true

def batch (log : Log) (now : Int) (place : Place) : List SignalRecord :=
  log.added.filter fun record => placeOfTarget record.targetId = place ∧ Inside config now record

section

variable {config : Config} {env : Env} {s : Store} {log : Log}
  {now : Int} {record : SignalRecord} {target : Option String} {listing : List String}

theorem mem_batch {place : Place} :
    record ∈ batch config log now place ↔ record ∈ log.added ∧
      placeOfTarget record.targetId = place ∧ Inside config now record := by
  rw [batch, List.mem_filter, decide_eq_true_iff]

/-- What a hydration loads is what it reads of each place. -/
theorem Good.loaded_eq (h : Good config env s log) (target : Option String) (now : Int)
    (listing : List String) :
    loaded config env s target now listing =
      ((placesRead target listing).flatMap (batch config log now), none) := by
  by_cases hadded : log.added = []
  · have hlines : s.lines = [] := by rw [h.lines, hadded]; rfl
    have hnone : (placesRead target listing).flatMap (linesAt s.lines) = [] := by
      simp [hlines, linesAt]
    have hbatch : (placesRead target listing).flatMap (batch config log now) = [] := by
      simp [batch, hadded]
    rw [loaded, hnone, hbatch]
    split <;> rfl
  · have hat : ∀ place, linesAt s.lines place =
        (log.added.filter fun record => placeOfTarget record.targetId = place).map
          (SignalRecord.toDict env) := by
      intro place
      rw [linesAt, h.lines, List.filter_map, List.map_map]
      rfl
    have hlines : (placesRead target listing).flatMap (linesAt s.lines) =
        ((placesRead target listing).flatMap fun place => log.added.filter fun record =>
          placeOfTarget record.targetId = place).map (SignalRecord.toDict env) := by
      rw [List.map_flatMap]
      exact congrArg (List.flatMap · _) (funext hat)
    have hreadable : ∀ record ∈ (placesRead target listing).flatMap fun place =>
        log.added.filter fun record => placeOfTarget record.targetId = place,
        Readable env record := by
      intro record hrecord
      obtain ⟨place, -, hmem⟩ := List.mem_flatMap.mp hrecord
      exact h.readable record (List.mem_filter.mp hmem).1
    rw [loaded, if_pos (h.persist hadded), hlines, loadable_toDict hreadable, List.filter_flatMap]
    congr 1
    refine congrArg (List.flatMap · _) (funext fun place => ?_)
    rw [batch, List.filter_filter]
    refine List.filter_congr fun record _ => ?_
    rw [Bool.and_comm, ← Bool.decide_and]

theorem mem_loaded :
    record ∈ (placesRead target listing).flatMap (batch config log now) ↔
      record ∈ readBy config log target now listing := by
  rw [List.mem_flatMap, readBy, List.mem_filter, decide_eq_true_iff]
  constructor
  · rintro ⟨place, hplace, hmem⟩
    obtain ⟨hadded, rfl, hinside⟩ := mem_batch.mp hmem
    exact ⟨hadded, hplace, hinside⟩
  · rintro ⟨hadded, hplace, hinside⟩
    exact ⟨_, hplace, mem_batch.mpr ⟨hadded, rfl, hinside⟩⟩

theorem filter_batches {places : List Place} (hnodup : places.Nodup) (now : Int)
    (targetId : String) :
    (places.flatMap (batch config log now)).filter (·.targetId = targetId) =
      if placeOfTarget targetId ∈ places then
        log.added.filter fun record => record.targetId = targetId ∧ Inside config now record
      else [] := by
  have hone : ∀ place, (batch config log now place).filter (·.targetId = targetId) =
      if placeOfTarget targetId = place then
        log.added.filter fun record => record.targetId = targetId ∧ Inside config now record
      else [] := by
    intro place
    rw [batch, List.filter_filter]
    split
    · next heq =>
      refine List.filter_congr fun record _ => ?_
      rw [← Bool.decide_and]
      refine decide_eq_decide.mpr ⟨fun ⟨htarget, _, hinside⟩ => ⟨htarget, hinside⟩, ?_⟩
      rintro ⟨rfl, hinside⟩
      exact ⟨rfl, heq, hinside⟩
    · next hne =>
      refine List.filter_eq_nil_iff.mpr fun record _ hboth => hne ?_
      simp only [Bool.and_eq_true, decide_eq_true_eq] at hboth
      rw [← hboth.1]
      exact hboth.2.1
  induction places with
  | nil => rfl
  | cons place places ih =>
    obtain ⟨hnew, hrest⟩ := List.nodup_cons.mp hnodup
    rw [List.flatMap_cons, List.filter_append, hone, ih hrest]
    by_cases heq : placeOfTarget targetId = place
    · rw [if_pos heq, heq, if_neg hnew, if_pos List.mem_cons_self, List.append_nil]
    · rw [if_neg heq, List.nil_append]
      simp [heq]

theorem nodup_placesRead (target : Option String) (h : listing.Nodup) :
    (placesRead target listing).Nodup := by
  cases target with
  | some targetId => exact List.nodup_singleton _
  | none => exact h.map fun a b heq => Place.dir.inj heq

/-- **Batch by batch** the keys stay in the order of their last writes. -/
theorem Good.byAge_loads (h : Good config env s log) (now : Int) (places : List Place) :
    ∀ {tails : List (String × List SignalRecord)} {writes : List String}, places.Nodup →
      ByAge writes (keys tails) →
      (∀ record ∈ places.flatMap (batch config log now), record.targetId ∉ keys tails) →
      ByAge (((places.flatMap (batch config log now)).map (·.targetId)).reverse ++ writes)
        (keys ((places.flatMap (batch config log now)).foldl (load config) tails)) := by
  induction places with
  | nil => exact fun _ hages _ => hages
  | cons place places ih =>
    intro tails writes hnodup hages hnew
    obtain ⟨hplace, hrest⟩ := List.nodup_cons.mp hnodup
    rw [List.flatMap_cons] at hnew ⊢
    rw [List.map_append, List.reverse_append, List.append_assoc, List.foldl_append]
    refine ih hrest ?_ fun record hrecord hmem => ?_
    · cases hbatch : batch config log now place with
      | nil => exact hages
      | cons first others =>
        rw [← hbatch]
        have hfirst : first ∈ batch config log now place := hbatch ▸ List.mem_cons_self
        obtain ⟨hadded, hat, -⟩ := mem_batch.mp hfirst
        refine byAge_batch hages (hnew first (List.mem_append_left _ hfirst)) ?_
        intro other hother
        obtain ⟨hadded', hat', -⟩ := mem_batch.mp hother
        exact h.apart first hadded other hadded' (hat'.trans hat.symm)
    · obtain ⟨new, hkeys, hsub⟩ := keys_loads config (batch config log now place) tails
      rw [hkeys] at hmem
      obtain hold | hloaded := List.mem_append.mp hmem
      · exact hnew record (List.mem_append_right _ hrecord) hold
      · obtain ⟨other, hother, heq⟩ := List.mem_map.mp (hsub hloaded)
        obtain ⟨place', hplace', hmem'⟩ := List.mem_flatMap.mp hrecord
        obtain ⟨-, hat, -⟩ := mem_batch.mp hother
        obtain ⟨-, hat', -⟩ := mem_batch.mp hmem'
        refine hplace ?_
        rw [← hat, heq, hat']
        exact hplace'

/-- What `add` does in memory. -/
theorem remember_cases {tails tails' : List (String × List SignalRecord)}
    (h : remember config tails record = .ok tails') :
    (get? tails record.targetId ≠ none ∧
      tails' = toEnd tails record.targetId
        (bounded config ((get? tails record.targetId).getD [] ++ [record]))) ∨
    (get? tails record.targetId = none ∧ tails.length < config.maxTargets ∧
      tails' = tails ++ [(record.targetId, bounded config [record])]) ∨
    ∃ oldest rest, get? tails record.targetId = none ∧ tails = oldest :: rest ∧
      tails' = rest ++ [(record.targetId, bounded config [record])] := by
  unfold remember at h
  split at h
  · next tail hget =>
    cases h
    exact .inl ⟨by rw [hget]; exact Option.some_ne_none _, by rw [hget]; rfl⟩
  · next hget =>
    split at h
    · cases tails with
      | nil => cases h
      | cons oldest rest =>
        cases h
        exact .inr (.inr ⟨oldest, rest, hget, rfl, rfl⟩)
    · next hroom =>
      cases h
      exact .inr (.inl ⟨hget, by omega, rfl⟩)

theorem get?_rest {oldest : String × List SignalRecord}
    {rest : List (String × List SignalRecord)} (hnodup : (keys (oldest :: rest)).Nodup)
    (targetId : String) :
    get? rest targetId = if targetId = oldest.1 then none else get? (oldest :: rest) targetId := by
  rw [get?_cons]
  split
  · next heq =>
    rw [get?_eq_none_iff, heq]
    exact (List.nodup_cons.mp hnodup).1
  · next hne => rw [if_neg fun heq => hne heq.symm]

section

variable (h : Good config env s log)

include h

theorem Good.tails_add {tails' : List (String × List SignalRecord)}
    (hremember : remember config s.tails record = .ok tails') :
    ByAge (record.targetId :: log.writes) (keys tails') ∧ tails'.length ≤ config.maxTargets ∧
      get? tails' record.targetId = some (bounded config (tailOf s record.targetId ++ [record])) ∧
      ∀ other, other ≠ record.targetId → get? tails' other = get? s.tails other ∨
        get? tails' other = none ∧
          ∀ key ∈ keys s.tails, key ≠ other → log.writes.idxOf key < log.writes.idxOf other := by
  have hroom := h.room
  obtain ⟨hold, rfl⟩ | ⟨hnew, hless, rfl⟩ | ⟨oldest, rest, hnew, htails, rfl⟩ :=
    remember_cases hremember
  · have hmem := isSome_get?_iff.mp (Option.isSome_iff_ne_none.mpr hold)
    refine ⟨keys_toEnd s.tails _ _ ▸ h.ages.rewrite, ?_, by rw [get?_toEnd, if_pos rfl]; rfl,
      fun other hne => .inl (by rw [get?_toEnd, if_neg hne])⟩
    have hshorter : (s.tails.filter (·.1 ≠ record.targetId)).length < s.tails.length := by
      obtain ⟨entry, hentry, hkey⟩ := List.mem_map.mp hmem
      exact List.length_filter_lt_length_iff_exists.mpr ⟨entry, hentry, by simp [hkey]⟩
    rw [toEnd, List.length_append, List.length_singleton]
    omega
  · have habsent := get?_eq_none_iff.mp hnew
    have hkeys : keys (s.tails ++ [(record.targetId, bounded config [record])]) =
        keys s.tails ++ [record.targetId] := by rw [keys, List.map_append]; rfl
    refine ⟨hkeys ▸ h.ages.write habsent, ?_, ?_, fun other hne => .inl ?_⟩
    · rw [List.length_append, List.length_singleton]
      omega
    · rw [get?_append, hnew, get?_cons, if_pos rfl, tailOf, hnew]
      rfl
    · rw [get?_append, get?_cons, if_neg fun heq => hne heq.symm, get?_nil, Option.or_none]
  · have hages := h.ages
    rw [htails] at hages hnew hroom
    have habsent : record.targetId ∉ keys rest := fun hmem =>
      get?_eq_none_iff.mp hnew (List.mem_cons_of_mem _ hmem)
    have hkeys : keys (rest ++ [(record.targetId, bounded config [record])]) =
        keys rest ++ [record.targetId] := by rw [keys, List.map_append]; rfl
    refine ⟨hkeys ▸ (hages.sublist (List.sublist_cons_self _ _)).write habsent, ?_, ?_,
      fun other hne => ?_⟩
    · rw [List.length_append, List.length_singleton]
      exact hroom
    · rw [get?_append, get?_eq_none_iff.mpr habsent, get?_cons, if_pos rfl, tailOf, htails, hnew]
      rfl
    · rw [get?_append, get?_cons, if_neg fun heq => hne heq.symm, get?_nil, Option.or_none,
        get?_rest hages.nodup, ← htails]
      split
      · next heq =>
        refine .inr ⟨rfl, fun key hkey hother => ?_⟩
        rw [htails] at hkey
        obtain rfl | hrest := List.mem_cons.mp hkey
        · exact absurd heq.symm hother
        · exact heq ▸ hages.head key hrest
      · exact .inl rfl

theorem Good.persistRecord_eq {name : String}
    (hplace : placeOfTarget record.targetId = .dir name) (hname : name.length ≤ config.nameMax) :
    persistRecord config env s.lines record =
      .ok (s.lines ++ [(placeOfTarget record.targetId, record.toDict env)]) := by
  have hroot : s.lines.any (·.1 = .root) = false := by
    rw [h.lines, List.any_map, List.any_eq_false]
    intro other hother hat
    obtain ⟨name', hname'⟩ := h.named other hother
    have heq : placeOfTarget other.targetId = .root := of_decide_eq_true hat
    rw [hname'] at heq
    cases heq
  unfold persistRecord
  rw [hplace]
  dsimp only
  rw [if_neg (by omega), hroot, if_neg (by simp)]

theorem Good.add (hgiven : (Op.add record).Given env s)
    (hfits : (Op.add record).Fits config s log) :
    Good config env ((Op.add record).after config env s)
      ((Op.add record).log config env s log) := by
  obtain ⟨hpersist, haware, hsummary, ⟨name, hplace, hname⟩, hapart⟩ := hfits
  cases hremember : remember config s.tails record with
  | error failure =>
    have hafter : (Op.add record).after config env s = s := by
      show (SignalHistory.add config env s record).1 = s
      rw [SignalHistory.add, hremember]
    have hlog : (Op.add record).log config env s log = log := by rw [Op.log, hremember]
    rw [hafter, hlog]
    exact h
  | ok tails' =>
    have hafter : (Op.add record).after config env s =
        { tails := tails'
          lines := s.lines ++ [(placeOfTarget record.targetId, record.toDict env)] } := by
      show (SignalHistory.add config env s record).1 = _
      rw [SignalHistory.add, hremember]
      dsimp only
      rw [if_pos hpersist, h.persistRecord_eq hplace hname]
    have hlog : (Op.add record).log config env s log =
        { added := log.added ++ [record], writes := record.targetId :: log.writes } := by
      rw [Op.log, hremember]
    obtain ⟨hages, hroom, hself, hothers⟩ := h.tails_add hremember
    rw [hafter, hlog]
    refine ⟨hages, hroom, fun targetId => ?_, ?_, ?_, ?_, ?_, fun _ => hpersist⟩
    · rw [List.filter_append]
      by_cases heq : targetId = record.targetId
      · subst heq
        have htail : tailOf ⟨tails', s.lines ++ [(placeOfTarget record.targetId,
            record.toDict env)]⟩ record.targetId =
            bounded config (tailOf s record.targetId ++ [record]) := by
          rw [tailOf, hself, Option.getD_some]
        rw [htail, List.filter_singleton, decide_eq_true rfl]
        exact (lastOf_suffix _ _).sublist.trans ((h.once _).append (.refl _))
      · refine List.Sublist.trans ?_ (List.sublist_append_left _ _)
        obtain hsame | ⟨hgone, -⟩ := hothers targetId heq
        · rw [tailOf, hsame]
          exact h.once targetId
        · rw [tailOf, hgone]
          exact List.nil_sublist _
    · rw [List.map_append, ← h.lines]
      rfl
    · intro other hother
      obtain hold | hlast := List.mem_append.mp hother
      · exact h.readable other hold
      · exact List.mem_singleton.mp hlast ▸ ⟨hgiven, haware, hsummary⟩
    · intro other hother
      obtain hold | hlast := List.mem_append.mp hother
      · exact h.named other hold
      · exact List.mem_singleton.mp hlast ▸ ⟨name, hplace⟩
    · intro first hfirst other hother hsame
      obtain hold | hlast := List.mem_append.mp hfirst <;>
        obtain hold' | hlast' := List.mem_append.mp hother
      · exact h.apart first hold other hold' hsame
      · obtain rfl := List.mem_singleton.mp hlast'
        exact (hapart first hold hsame.symm).symm
      · obtain rfl := List.mem_singleton.mp hlast
        exact hapart other hold' hsame
      · rw [List.mem_singleton.mp hlast, List.mem_singleton.mp hlast']

theorem Good.hydrate
    (hgiven : (Op.hydrate target now listing).Given env s)
    (hfits : (Op.hydrate target now listing).Fits config s log) :
    Good config env ((Op.hydrate target now listing).after config env s)
      ((Op.hydrate target now listing).log config env s log) := by
  obtain ⟨habsent, hroom⟩ := hfits
  have hloaded := h.loaded_eq target now listing
  have hnodup := nodup_placesRead target hgiven.1
  set records := (placesRead target listing).flatMap (batch config log now) with hrecords
  have hafter : (Op.hydrate target now listing).after config env s =
      { s with tails := records.foldl (load config) s.tails } := by
    show (SignalHistory.hydrate config env s target now listing).1 = _
    rw [SignalHistory.hydrate, hloaded]
  have hlog : (Op.hydrate target now listing).log config env s log =
      { log with writes := (records.map (·.targetId)).reverse ++ log.writes } := by
    rw [Op.log, hloaded]
  have hnew : ∀ record ∈ records, get? s.tails record.targetId = none := fun record hrecord =>
    habsent record (mem_loaded.mp hrecord)
  have hages : ByAge ((records.map (·.targetId)).reverse ++ log.writes)
      (keys (records.foldl (load config) s.tails)) :=
    h.byAge_loads now (placesRead target listing) hnodup h.ages fun record hrecord =>
      get?_eq_none_iff.mp (hnew record hrecord)
  rw [hafter, hlog]
  refine ⟨hages, ?_, fun targetId => ?_, h.lines, h.readable, h.named, h.apart, h.persist⟩
  · obtain ⟨new, hkeys, hsub⟩ := keys_loads config records s.tails
    rw [hkeys] at hages
    have hfew : new.length ≤
        ((readBy config log target now listing).map (·.targetId)).dedup.length := by
      refine (List.subperm_of_subset (List.nodup_append.mp hages.nodup).2.1
        fun key hkey => ?_).length_le
      obtain ⟨record, hrecord, rfl⟩ := List.mem_map.mp (hsub hkey)
      exact List.mem_dedup.mpr (List.mem_map.mpr ⟨record, mem_loaded.mp hrecord, rfl⟩)
    have hlength : (records.foldl (load config) s.tails).length = s.tails.length + new.length := by
      have hlen := congrArg List.length hkeys
      rw [List.length_append, keys, keys, List.length_map, List.length_map] at hlen
      exact hlen
    show (records.foldl (load config) s.tails).length ≤ config.maxTargets
    omega
  · rw [tailOf, get?_loads]
    split
    · next hmem =>
      obtain ⟨record, hrecord, rfl⟩ := List.mem_map.mp hmem
      rw [hnew record hrecord, Option.getD_some, Option.getD_none, List.nil_append, hrecords,
        filter_batches hnodup]
      refine (lastOf_suffix _ _).sublist.trans ?_
      split
      · refine List.monotone_filter_right _ fun other hother => ?_
        exact decide_eq_true (of_decide_eq_true hother).1
      · exact List.nil_sublist _
    · exact h.once targetId

theorem Good.step {op : Op} (hgiven : op.Given env s)
    (hfits : op.Fits config s log) :
    Good config env (op.after config env s) (op.log config env s log) := by
  cases op with
  | add record => exact h.add hgiven hfits
  | hydrate target now listing => exact h.hydrate hgiven hfits
  | restart =>
    exact ⟨.nil [], Nat.zero_le _, fun _ => List.nil_sublist _, h.lines, h.readable, h.named,
      h.apart, h.persist⟩

end

/-- The operations of a run that fit. -/
def Careful (config : Config) (env : Env) (s : Store) (log : Log) (op : Op) : Prop :=
  op.Given env s ∧ op.Fits config s log

variable {ops : List Op}

theorem good_of_reaches (h : Reaches config env (Careful config env) ops s log) :
    Good config env s log := by
  induction h with
  | start =>
    exact ⟨.nil [], Nat.zero_le _, fun _ => .slnil, rfl, by simp, by simp, by simp, by simp⟩
  | step past op hmeets ih => exact ih.step hmeets.1 hmeets.2

theorem Reaches.last {meets : Store → Log → Op → Prop} {op : Op}
    (h : Reaches config env meets (ops ++ [op]) s log) :
    ∃ s₀ log₀, Reaches config env meets ops s₀ log₀ ∧ meets s₀ log₀ op ∧
      s = op.after config env s₀ ∧ log = op.log config env s₀ log₀ := by
  generalize hops : ops ++ [op] = all at h
  cases h with
  | start => simp at hops
  | step past op' hmeets =>
    obtain ⟨rfl, heq⟩ := List.append_inj' hops rfl
    obtain rfl := (List.cons.inj heq).1
    exact ⟨_, _, past, hmeets, rfl, rfl⟩

/-- **A restart and a hydration** restore what was added inside the window. -/
theorem Good.restored (h : Good config env s log) (hempty : s.tails = [])
    (hgiven : (Op.hydrate none now listing).Given env s) (targetId : String) :
    get? ((Op.hydrate none now listing).after config env s).tails targetId =
      if (log.added.filter fun record =>
          record.targetId = targetId ∧ Inside config now record) = [] then none
      else some (lastOf config.recordsPerTarget (log.added.filter fun record =>
        record.targetId = targetId ∧ Inside config now record)) := by
  have hafter : ((Op.hydrate none now listing).after config env s).tails =
      ((placesRead none listing).flatMap (batch config log now)).foldl (load config) [] := by
    show (SignalHistory.hydrate config env s none now listing).1.tails = _
    rw [SignalHistory.hydrate, h.loaded_eq, hempty]
  have hread : ((placesRead none listing).flatMap (batch config log now)).filter
      (·.targetId = targetId) = log.added.filter fun record =>
        record.targetId = targetId ∧ Inside config now record := by
    rw [filter_batches (nodup_placesRead none hgiven.1)]
    split
    · rfl
    · next hnot =>
      refine (List.filter_eq_nil_iff.mpr fun record hrecord hboth => hnot ?_).symm
      obtain ⟨rfl, -⟩ := of_decide_eq_true hboth
      obtain ⟨name, hname⟩ := h.named record hrecord
      rw [hname]
      have hline : (placeOfTarget record.targetId, record.toDict env) ∈ s.lines := by
        rw [h.lines]
        exact List.mem_map.mpr ⟨record, hrecord, rfl⟩
      exact List.mem_map.mpr ⟨name, hgiven.2 name ⟨_, hline, hname⟩, rfl⟩
  rw [hafter, get?_loads, get?_nil, Option.getD_none, List.nil_append, hread]
  by_cases hmem : targetId ∈
      ((placesRead none listing).flatMap (batch config log now)).map (·.targetId)
  · obtain ⟨record, hrecord, heq⟩ := List.mem_map.mp hmem
    have hkept : record ∈ ((placesRead none listing).flatMap (batch config log now)).filter
        (·.targetId = targetId) := List.mem_filter.mpr ⟨hrecord, decide_eq_true heq⟩
    have hsome := List.ne_nil_of_mem hkept
    rw [hread] at hsome
    rw [if_pos hmem, if_neg hsome]
  · have hnone : ((placesRead none listing).flatMap (batch config log now)).filter
        (·.targetId = targetId) = [] := List.filter_eq_nil_iff.mpr fun record hrecord heq =>
      hmem (List.mem_map.mpr ⟨record, hrecord, of_decide_eq_true heq⟩)
    rw [hread] at hnone
    rw [if_neg hmem, if_pos hnone]

theorem Good.nothing_again (h : Good config env s log)
    (hfits : (Op.hydrate target now listing).Fits config s log)
    (hthere : ∀ record ∈ readBy config log target now listing,
      get? s.tails record.targetId ≠ none) :
    ((Op.hydrate target now listing).after config env s).tails = s.tails := by
  have hnone : (placesRead target listing).flatMap (batch config log now) = [] := by
    refine List.eq_nil_iff_forall_not_mem.mpr fun record hrecord => ?_
    have hread := mem_loaded.mp hrecord
    exact hthere record hread (hfits.1 record hread)
  show (SignalHistory.hydrate config env s target now listing).1.tails = s.tails
  rw [SignalHistory.hydrate, h.loaded_eq, hnone]
  rfl

end

/-- **Signal history survives restarts** after operations each of which fits, and what `add`
evicts was written least recently. -/
theorem history_survives (env : Env) (ops : List Op) (s : Store) (log : Log)
    (h : Reaches config env (Careful config env) ops s log) :
    Survives config env (Careful config env) ops s log := by
  have hgood := good_of_reaches h
  refine ⟨hgood.room, hgood.once, fun past now listing hops => ?_,
    fun record evicted hmeets hthere hgone => ?_⟩
  · have hlast : Reaches config env (Careful config env)
        ((past ++ [.restart]) ++ [.hydrate none now listing]) s log := by
      rw [List.append_assoc]
      exact hops ▸ h
    obtain ⟨s₁, log₁, hrestart, hmeets, rfl, rfl⟩ := hlast.last
    obtain ⟨s₀, log₀, hpast, -, rfl, rfl⟩ := hrestart.last
    have hrestored := (good_of_reaches hrestart).restored rfl hmeets.1
    have hadded : ((Op.hydrate none now listing).log config env
        (Op.restart.after config env s₀) (Op.restart.log config env s₀ log₀)).added =
        (Op.restart.log config env s₀ log₀).added := rfl
    refine ⟨fun targetId => ?_, fun target now' listing' hle hagain => ?_⟩
    · rw [tailOf, hrestored, hadded]
      split
      · next hnone =>
        rw [hnone, lastOf]
        exact List.drop_nil.symm
      · rfl
    · -- what would be loaded again was inside the window before, so that it is in memory
      refine hgood.nothing_again hagain.2 fun record hrecord hnone => ?_
      obtain ⟨hmember, hread⟩ := List.mem_filter.mp hrecord
      obtain ⟨-, instant, hinstant, hinside⟩ := of_decide_eq_true hread
      rw [hrestored, if_neg] at hnone
      · cases hnone
      · refine List.ne_nil_of_mem (List.mem_filter.mpr ⟨hmember, decide_eq_true ⟨rfl,
          instant, hinstant, ?_⟩⟩)
        unfold cutoff at hinside ⊢
        omega
  · cases hremember : remember config s.tails record with
    | error failure =>
      have hafter : (Op.add record).after config env s = s := by
        show (SignalHistory.add config env s record).1 = s
        rw [SignalHistory.add, hremember]
      rw [hafter] at hgone
      rw [hgone] at hthere
      cases hthere
    | ok tails' =>
      have hafter : ((Op.add record).after config env s).tails = tails' := by
        show (SignalHistory.add config env s record).1.tails = tails'
        rw [SignalHistory.add, hremember]
        dsimp only
        split
        · split <;> rfl
        · rfl
      rw [hafter] at hgone
      obtain ⟨-, -, hself, hothers⟩ := hgood.tails_add hremember
      have hne : evicted ≠ record.targetId := by
        rintro rfl
        rw [hself] at hgone
        cases hgone
      obtain hsame | ⟨-, hleast⟩ := hothers evicted hne
      · rw [hsame] at hgone
        rw [hgone] at hthere
        cases hthere
      · exact hleast

def sampleEnv : Env where
  isoformat t := if t = ⟨1767607200000000, some 0⟩ then "2026-01-05T10:00:00+00:00" else ""
  parseIso text :=
    if text = "2026-01-05T10:00:00+00:00" then some ⟨1767607200000000, some 0⟩ else none

def sampleRecord : SignalRecord where
  targetId := "reth:el-1"
  signalType := "reth_node"
  observedAt := ⟨1767607200000000, some 0⟩
  payload := [("peer_count", .int 1)]

def sampleHydration : Op := .hydrate none 1767607260000000 ["reth_el-1"]

theorem history_survives_sample :
    ∃ s log, Survives {} sampleEnv (Careful {} sampleEnv)
        [.add sampleRecord, .restart, sampleHydration] s log ∧
      tailOf s "reth:el-1" = [sampleRecord] := by
  have hadd : Careful {} sampleEnv {} {} (.add sampleRecord) :=
    ⟨by show sampleEnv.parseIso _ = _; decide +kernel, rfl, rfl, by decide,
      ⟨"reth_el-1", by decide +kernel, by decide⟩, by simp⟩
  have hone : Reaches {} sampleEnv (Careful {} sampleEnv) _ _ _ := Reaches.start.step _ hadd
  have htwo := hone.step .restart ⟨trivial, trivial⟩
  have hhydrate : Careful {} sampleEnv
      (Op.restart.after {} sampleEnv ((Op.add sampleRecord).after {} sampleEnv {}))
      (Op.restart.log {} sampleEnv ((Op.add sampleRecord).after {} sampleEnv {})
        ((Op.add sampleRecord).log {} sampleEnv {} {})) sampleHydration := by
    refine ⟨⟨List.nodup_singleton _, ?_⟩, fun _ _ => rfl, by decide +kernel⟩
    rintro name ⟨line, hline, hplace⟩
    have hlines : ((Op.restart.after {} sampleEnv
        ((Op.add sampleRecord).after {} sampleEnv {})).lines.map Prod.fst) =
        [.dir "reth_el-1"] := by decide +kernel
    have hmem := List.mem_map_of_mem (f := Prod.fst) hline
    rw [hlines, hplace] at hmem
    exact List.mem_singleton.mpr (Place.dir.inj (List.mem_singleton.mp hmem))
  have hthree := htwo.step sampleHydration hhydrate
  exact ⟨_, _, history_survives {} sampleEnv _ _ _ hthree, by decide +kernel⟩

/-- A record is added, and hydrated into the tail that has it. -/
theorem record_doubled :
    ¬ ∀ (config : Config) (env : Env) (ops : List Op) (s : Store) (log : Log),
      Reaches config env (fun s _ op => op.Given env s) ops s log →
      Survives config env (fun s _ op => op.Given env s) ops s log := by
  intro hclaim
  have hadd : (Op.add sampleRecord).Given sampleEnv {} := by
    show sampleEnv.parseIso _ = _
    decide +kernel
  have hone : Reaches {} sampleEnv (fun s _ op => op.Given sampleEnv s) _ _ _ :=
    Reaches.start.step (.add sampleRecord) hadd
  have hhydrate : sampleHydration.Given sampleEnv
      ((Op.add sampleRecord).after {} sampleEnv {}) := by
    refine ⟨List.nodup_singleton _, ?_⟩
    rintro name ⟨line, hline, hplace⟩
    have hlines : ((Op.add sampleRecord).after {} sampleEnv {}).lines.map Prod.fst =
        [.dir "reth_el-1"] := by decide +kernel
    have hmem := List.mem_map_of_mem (f := Prod.fst) hline
    rw [hlines, hplace] at hmem
    exact List.mem_singleton.mpr (Place.dir.inj (List.mem_singleton.mp hmem))
  have htwo := hone.step sampleHydration hhydrate
  have hlong := ((hclaim {} sampleEnv _ _ _ htwo).once "reth:el-1").length_le
  exact absurd hlong (by decide +kernel)

end OrbitalMesh.SignalHistory
