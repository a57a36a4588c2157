import OrbitalMesh.Signals.WebhookTemplates

/-!
# The webhook service

`WebhookIngestService` keeps one record for each source, in memory and in a file, and makes
alerts of what is posted for a source.  A record may hold a secret, with which the posts for the
source are signed; what the service shows of a record has a mask in its place.
-/

namespace OrbitalMesh.Webhooks

open OrbitalMesh.Decision

/-- A dictionary with the keys that Python takes: JSON values, told apart by `==`. -/
abbrev Registry (α : Type) := List (Json × α)

namespace Registry

variable {α β : Type}

/-- `t.get(key)`. -/
def find (t : Registry α) (key : Json) : Option α :=
  (List.find? (fun entry => Json.pyEq entry.1 key) t).map Prod.snd

/-- `t[key] = value`: an equal key stays as it is. -/
def put (t : Registry α) (key : Json) (value : α) : Registry α :=
  match t with
  | [] => [(key, value)]
  | (k, old) :: rest =>
    if Json.pyEq k key then (k, value) :: rest else (k, old) :: put rest key value

/-- `t.pop(key)`. -/
def drop (t : Registry α) (key : Json) : Registry α :=
  t.filter fun entry => !Json.pyEq entry.1 key

variable (f : α → β)

def withValues (t : Registry α) : Registry β := t.map fun entry => (entry.1, f entry.2)

/-- The key as `json.dump` writes it. -/
def keyText : Json → String
  | .str text => text
  | .null => "null"
  | .bool b => if b then "true" else "false"
  | value => jsonRepr value

/-- `a <= b` for two keys of one kind. -/
def keyBefore (a b : Json) : Bool :=
  match a, b with
  | .str k, .str l => Json.keyLe k l
  | a, b =>
    match asNumber? a, asNumber? b with
    | some n, some m => Binary64.le n.exact m.exact
    | _, _ => true

/-- `sort_keys=True` can order the keys: they are all texts or all numbers, or there is one. -/
def sortable (keys : List Json) : Bool :=
  keys.all (matchesType · .string) || keys.all (fun key => (asNumber? key).isSome) ||
    keys.length ≤ 1

/-- What is read back of a dictionary that is written with sorted keys, if it can be written;
`f` is what becomes of a value. -/
def filed (f : α → α) (t : Registry α) : Option (Registry α) :=
  if sortable (t.map Prod.fst) then
    some ((List.insertionSort (fun a b => keyBefore a.1 b.1 = true) t).map fun entry =>
      (.str (keyText entry.1), f entry.2))
  else none

theorem find_withValues (t : Registry α) (key : Json) :
    find (withValues f t) key = (find t key).map f := by
  unfold find withValues
  rw [List.find?_map, Option.map_map, Option.map_map]
  rfl

theorem put_withValues (t : Registry α) (key : Json) (value : α) :
    put (withValues f t) key (f value) = withValues f (put t key value) := by
  induction t with
  | nil => rfl
  | cons entry rest ih =>
    unfold withValues at ih ⊢
    rw [List.map_cons, put, put]
    split
    · rfl
    · rw [ih]
      rfl

theorem drop_withValues (t : Registry α) (key : Json) :
    drop (withValues f t) key = withValues f (drop t key) := by
  unfold drop withValues
  rw [List.filter_map]
  rfl

theorem filed_withValues {g : α → α} {h : β → β} (hf : ∀ a, f (g a) = h (f a))
    (t : Registry α) : filed h (withValues f t) = (filed g t).map (withValues f) := by
  have hkeys : (withValues f t).map Prod.fst = t.map Prod.fst := by
    unfold withValues
    rw [List.map_map]
    rfl
  unfold filed
  rw [hkeys]
  split
  · have hsort := List.map_insertionSort
      (r := fun a b : Json × α => keyBefore a.1 b.1 = true)
      (s := fun a b : Json × β => keyBefore a.1 b.1 = true)
      (fun entry : Json × α => (entry.1, f entry.2)) t (fun _ _ _ _ => Iff.rfl)
    unfold withValues
    rw [← hsort, Option.map_some, List.map_map, List.map_map]
    refine congrArg some (List.map_congr_left fun entry _ => ?_)
    simp [hf]
  · rfl

variable {t : Registry α} {key : Json} {value : α} {entry : Json × α}

theorem mem_of_find (h : find t key = some value) : ∃ entry ∈ t, entry.2 = value := by
  obtain ⟨entry, hentry, rfl⟩ := Option.map_eq_some_iff.mp h
  exact ⟨entry, List.mem_of_find?_eq_some hentry, rfl⟩

theorem mem_put (h : entry ∈ put t key value) : entry ∈ t ∨ entry.2 = value := by
  induction t with
  | nil =>
    rw [put, List.mem_singleton] at h
    exact .inr (by rw [h])
  | cons first rest ih =>
    rw [put] at h
    split at h
    · rcases List.mem_cons.mp h with rfl | hrest
      · exact .inr rfl
      · exact .inl (.tail _ hrest)
    · rcases List.mem_cons.mp h with rfl | hrest
      · exact .inl (.head _)
      · exact (ih hrest).imp (.tail _) id

theorem mem_drop (h : entry ∈ drop t key) : entry ∈ t := (List.mem_filter.mp h).1

theorem mem_filed {f : α → α} {written : Registry α} (h : filed f t = some written)
    (hentry : entry ∈ written) : ∃ old ∈ t, entry.2 = f old.2 := by
  unfold filed at h
  split at h
  · cases h
    obtain ⟨old, hold, rfl⟩ := List.mem_map.mp hentry
    exact ⟨old, (List.mem_insertionSort _).mp hold, rfl⟩
  · cases h

end Registry

/-- What the service uses to check and to read the bodies of posts. -/
structure Wire where
  /-- `hmac.new(secret.encode("utf-8"), body, hashlib.sha256).hexdigest()` -/
  hexdigest : String → Bytes → String
  /-- the payload that the server reads from a body -/
  decode : Bytes → Option Dict

section

variable (lib : Library) (wire : Wire)

def algorithmPrefix : List Char := "sha256=".toList

def candidateOf (signature : String) : String :=
  let candidate := pyStrip signature
  if algorithmPrefix <+: (lib.lower candidate).toList then
    String.ofList ((candidate.toList.dropWhile (· != '=')).tail)
  else candidate

def isAscii (text : String) : Bool := text.toList.all fun c => c.toNat < 128

/-- `hmac.compare_digest(digest, candidate)`, for a digest in ASCII. -/
def compareDigest (digest candidate : String) : Except PyError Bool :=
  if isAscii candidate then .ok (digest == candidate)
  else typeError "comparing strings with non-ASCII characters is not supported"

def verifySignature (body : Bytes) (signature : Option String) (secret : Json) :
    Except PyError Bool :=
  if truthy secret then
    match signature with
    | none => .ok false
    | some text =>
      if text = "" then .ok false
      else
        match secret with
        | .str key => compareDigest (wire.hexdigest key body) (candidateOf lib text)
        | value => .error ⟨.exception, "'" ++ typeName value ++
            "' object has no attribute 'encode'"⟩
  else .ok true

inductive ServiceFault where
  | webhookIngest (text : String)
  | signatureMismatch (sourceId : String)
  | unknownSource (sourceId : String)
  | raised (fault : Fault)

/-- `to_dict` of a template. -/
def WebhookTemplate.toDict (template : WebhookTemplate) : Dict :=
  [("source_id", template.sourceId), ("source_type", template.sourceType),
    ("fields", .obj template.fields), ("labels_path", template.labelsPath),
    ("display_name", template.displayName), ("signature_header", template.signatureHeader)]

def recordOf (payload : Dict) (template : WebhookTemplate) (now : String) : Dict :=
  template.toDict ++
    [("auto_run", .bool (flagAt payload "auto_run" false)),
      ("goal_id", getOr payload "goal_id" .null),
      ("require_signature", .bool (flagAt payload "require_signature" (truthy template.secret))),
      ("created_at", getOr payload "created_at" (.str now)),
      ("updated_at", .str now)] ++
    if truthy template.secret then [("secret", template.secret)] else []

def mask : Json := .str "***"

def redactSecret (record : Dict) : Dict :=
  if (record.get? "secret").isSome then record.set "secret" mask else record

def hashable : Json → Bool
  | .arr _ | .obj _ => false
  | _ => true

/-- The service: its records, what would be read from their file if that can be read at all, and
the alerts in the store. -/
structure Service where
  sources : Registry Dict := []
  file : Option (Registry Dict) := some []
  alerts : List WebhookAlert := []

variable (s : Service)

/-- `save_sources`: texts and numbers among the keys cannot be sorted, and the file is left
unreadable. -/
def Service.save (sources : Registry Dict) : Except ServiceFault Unit × Service :=
  match Registry.filed Json.canonMembers sources with
  | some written => (.ok (), { s with sources := sources, file := some written })
  | none => (.error (.raised (.other ⟨.typeError, "'<' not supported between instances"⟩)),
      { s with sources := sources, file := none })

def Service.registerSource (payload : Dict) (now : String) :
    Except ServiceFault Dict × Service :=
  match WebhookTemplate.fromDict payload with
  | .error fault => (.error (.raised fault), s)
  | .ok template =>
    if hashable template.sourceId then
      let record := recordOf payload template now
      let (saved, s) := s.save (s.sources.put template.sourceId record)
      (saved.map fun _ => redactSecret record, s)
    else (.error (.raised (.other ⟨.typeError, "unhashable type: '" ++
      typeName template.sourceId ++ "'"⟩)), s)

variable (sourceId : String)

def Service.deleteSource : Except ServiceFault Unit × Service :=
  match s.sources.find (.str sourceId) with
  | none => (.error (.unknownSource sourceId), s)
  | some _ => s.save (s.sources.drop (.str sourceId))

def Service.listSources : List Dict :=
  s.sources.map fun entry => redactSecret entry.2

def Service.getSource : Except ServiceFault Dict :=
  match s.sources.find (.str sourceId) with
  | none => .error (.unknownSource sourceId)
  | some record => .ok (redactSecret record)

def Service.restart : Except ServiceFault Unit × Service :=
  match s.file with
  | some sources => (.ok (), { s with sources := sources })
  | none => (.error (.raised (.other ⟨.valueError,
      "Expecting property name enclosed in double quotes: line 2 column 15 (char 16)"⟩)), s)

def rejected (record : Dict) (secret : Json) (rawBody : Option Bytes)
    (signature : Option String) : Except PyError Bool :=
  if truthyAt record "require_signature" || truthy secret then
    (verifySignature lib wire (rawBody.getD []) signature secret).map not
  else .ok false

/-- The alert that `ingest` appends. -/
def Service.alertOf (payload : Dict) (rawBody : Option Bytes)
    (signature : Option String) (now : String) : Except ServiceFault (WebhookAlert × Dict) :=
  match s.sources.find (.str sourceId) with
  | none => .error (.unknownSource sourceId)
  | some record =>
    match WebhookTemplate.fromDict record with
    | .error fault => .error (.raised fault)
    | .ok template =>
      let secret := getOr record "secret" .null
      match rejected lib wire record secret rawBody signature with
      | .error e => .error (.raised (.other e))
      | .ok true => .error (.signatureMismatch sourceId)
      | .ok false =>
        match applyTemplate lib { template with secret := secret } payload now with
        | .error (.template text) => .error (.webhookIngest text)
        | .error (.other e) => .error (.raised (.other e))
        | .ok alert =>
          match alert.sourceId with
          | .str _ => .ok (alert, record)
          | value => .error (.raised (.other ⟨.typeError,
              "unsupported operand type(s) for /: 'PosixPath' and '" ++ typeName value ++
                "'"⟩))

/-- What `ingest` returns: the alert, and the run that it has spawned or why it has not. -/
structure Ingested where
  alert : WebhookAlert
  spawnedRun : Json := .null
  spawnError : Option String := none

variable (runFactory : Option (WebhookAlert → Dict → Except String Json))

def spawned (alert : WebhookAlert) (record : Dict) : Ingested :=
  match runFactory with
  | none => { alert := alert }
  | some create =>
    if truthyAt record "auto_run" && alert.action == "fire" then
      match create alert record with
      | .ok run => { alert := alert, spawnedRun := run }
      | .error text => { alert := alert, spawnError := some text }
    else { alert := alert }

def Service.ingest (s : Service) (sourceId : String) (payload : Dict) (rawBody : Option Bytes)
    (signature : Option String) (now : String) : Except ServiceFault Ingested × Service :=
  match s.alertOf lib wire sourceId payload rawBody signature now with
  | .error fault => (.error fault, s)
  | .ok (alert, record) =>
    (.ok (spawned runFactory alert record), { s with alerts := s.alerts ++ [alert] })

end

end OrbitalMesh.Webhooks
