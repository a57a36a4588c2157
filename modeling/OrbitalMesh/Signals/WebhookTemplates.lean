import OrbitalMesh.Base.Rounding
import OrbitalMesh.Signals.WebhookPaths

/-!
# Templates of webhooks

A template maps the fields of an alert to specs: a path, or an object with a path, a default, a
table, a format and a separator.  `apply_template` resolves them against the payload of a
webhook and makes one alert of what it finds.  What it cannot make an alert of it refuses with a
`WebhookTemplateError`.
-/

namespace OrbitalMesh.Webhooks

open OrbitalMesh.Decision

/-- `datetime.min` in UTC. -/
def minInstant : Instant := -62135596800000000

/-- A time that a `datetime` can have. -/
def InRange (instant : Instant) : Prop := minInstant ≤ instant ∧ instant ≤ maxInstant

instance (instant : Instant) : Decidable (InRange instant) :=
  inferInstanceAs (Decidable (_ ∧ _))

/-- A `datetime`: what the clock on the wall shows, and how far it is ahead of UTC, in
microseconds, unless it is naive. -/
structure Moment where
  wall : Instant
  offset : Option Int
  inRange : InRange wall

/-- What the templates use of Python's library. -/
structure Library extends Digits where
  float : String → Option Binary64
  lower : String → String
  upper : String → String
  /-- `json.dumps(value, sort_keys=True)` -/
  dumps : Json → String
  /-- `datetime.fromisoformat`, or the text of its `ValueError` -/
  fromIso : String → Except String Moment
  /-- `datetime.strptime` -/
  strptime : String → String → Except PyError Moment
  /-- what `isoformat` writes is read back -/
  reads_back : ∀ instant, InRange instant → ∃ moment, fromIso (formatTime instant) = .ok moment

theorem truthyAt_eq (members : Dict) (key : String) :
    truthyAt members key = truthy (getOr members key .null) := by
  unfold truthyAt getOr
  cases members.get? key <;> rfl

/-- `raise WebhookTemplateError(text)`. -/
def refuse {α : Type} (text : String) : Except Fault α := .error (.template text)

/-- A step of the library, whose exceptions are none of the template's. -/
def foreign {α : Type} : Except PyError α → Except Fault α
  | .ok a => .ok a
  | .error e => .error (.other e)

/-- `parsed.astimezone(timezone.utc)`, where a naive time is one in UTC. -/
def toUtc (moment : Moment) : Except PyError Instant :=
  let instant := moment.wall - moment.offset.getD 0
  if InRange instant then .ok instant else .error ⟨.overflowError, "date value out of range"⟩

def wholeSeconds (seconds : ℚ) : Int := if seconds < 0 then seconds.ceil else seconds.floor

def instantAt (seconds : ℚ) : Instant :=
  wholeSeconds seconds * 1000000 +
    match Binary64.nearest ((seconds - wholeSeconds seconds) * 1000000) with
    | .finite micros => Binary64.nearestInt micros
    | _ => 0

def fromTimestamp : Binary64 → Except PyError Instant
  | .nan => .error ⟨.valueError, "Invalid value NaN (not a number)"⟩
  | .infinite _ => .error ⟨.overflowError, "cannot convert float infinity to integer"⟩
  | .finite seconds =>
    if InRange (instantAt seconds) then .ok (instantAt seconds)
    else if 2 ^ 63 ≤ (wholeSeconds seconds).natAbs then
      .error ⟨.overflowError, "timestamp out of range for platform time_t"⟩
    else .error ⟨.valueError, "year is out of range"⟩

def tsFromUnix (value : Binary64) (milliseconds : Bool) : Except PyError String := do
  let instant ← fromTimestamp (if milliseconds then value.div (.finite 1000) else value)
  return formatTime instant

/-- The text that `_normalize_iso8601` gives to `datetime.fromisoformat`. -/
def isoCandidate (text : String) : String :=
  let candidate := (pyStrip text).toList
  if candidate.getLast? = some 'Z' then String.ofList candidate.dropLast ++ "+00:00"
  else String.ofList candidate

section

variable (lib : Library)

def normalizeIso8601 (text : String) : Except Fault String :=
  match lib.fromIso (isoCandidate text) with
  | .error reason =>
    refuse ("timestamp " ++ pyRepr text ++ " is not valid ISO8601: " ++ reason)
  | .ok moment => do return formatTime (← foreign (toUtc moment))

/-- `float(value)`. -/
def floatOf (value : Json) : Except PyError Binary64 := pyFloat ⟨lib.int, lib.float⟩ value

/-- `text in mapping` for a mapping that is not empty, and what it is mapped to. -/
def mapped (mapping : Json) (text : String) : Except PyError (Option Json) :=
  match mapping with
  | .obj members => .ok (Dict.get? members text)
  | .arr items =>
    if .str text ∈ items then typeError "list indices must be integers or slices, not str"
    else .ok none
  | .str whole =>
    if text.toList <:+: whole.toList then typeError "string indices must be integers, not 'str'"
    else .ok none
  | value => typeError ("argument of type '" ++ typeName value ++ "' is not iterable")

/-- `isinstance(raw, (str, int, float, bool))`. -/
def isScalar : Json → Bool
  | .str _ | .int _ | .float .. | .bool _ => true
  | _ => false

def strftimePrefix : List Char := "strftime:".toList

def applyFormat (value format : Json) : Except Fault Json :=
  match format with
  | .str name =>
    if name = "unix" then do
      return .str (← foreign (do tsFromUnix (← floatOf lib value) false))
    else if name = "unix_ms" then do
      return .str (← foreign (do tsFromUnix (← floatOf lib value) true))
    else if name = "iso8601" then do
      return .str (← normalizeIso8601 lib (pyStr value))
    else if strftimePrefix <+: name.toList then do
      let moment ← foreign (lib.strptime (pyStr value)
        (String.ofList (name.toList.drop strftimePrefix.length)))
      return .str (formatTime (← foreign (toUtc moment)))
    else if name = "lower" then .ok (.str (lib.lower (pyStr value)))
    else if name = "upper" then .ok (.str (lib.upper (pyStr value)))
    else .ok value
  | value => .error (.other ⟨.exception, "'" ++ typeName value ++
      "' object has no attribute 'startswith'"⟩)

def pathOrDefault (spec : Dict) (raw : Json) : Json :=
  if raw = .null then getOr spec "default" .null else raw

def applyMap (spec : Dict) (raw : Json) : Except PyError Json :=
  let mapping := getOr spec "map" .null
  if truthy mapping && isScalar raw then do
    match ← mapped mapping (pyStr raw) with
    | some value => return value
    | none => return (spec.get? "default").getD raw
  else .ok raw

def applyJoin (spec : Dict) (raw : Json) : Json :=
  match getOr spec "join" .null, raw with
  | .null, raw => raw
  | separator, .arr items => .str ((pyStr separator).intercalate (items.map pyStr))
  | _, raw => raw

def resolveField (payload spec : Json) : Except Fault Json :=
  match spec with
  | .str path => extractText lib.toDigits payload path.toList
  | .obj members => do
    let raw ← extractPath lib.toDigits payload (getOr members "path" .null)
    let raw ← foreign (applyMap members (pathOrDefault members raw))
    let format := getOr members "format" .null
    let raw ← if truthy format && raw != .null then applyFormat lib raw format else .ok raw
    return applyJoin members raw
  | value => .ok value

def allowedActions : List String := ["fire", "warn", "resolve"]

def synonyms : List (String × String) :=
  [("triggered", "fire"), ("firing", "fire"), ("open", "fire"), ("alerting", "fire"),
    ("critical", "fire"), ("error", "fire"), ("recovered", "resolve"), ("resolved", "resolve"),
    ("closed", "resolve"), ("ok", "resolve"), ("cleared", "resolve"), ("warning", "warn"),
    ("pending", "warn"), ("no data", "warn")]

def actionOf (token : String) : Option String :=
  if token ∈ allowedActions then some token else synonyms.lookup token

def normalizeAction (value : Json) : Except Fault String :=
  if value = .null then refuse "template did not resolve the 'action' field"
  else
    match actionOf (lib.lower (pyStrip (pyStr value))) with
    | some action => .ok action
    | none => refuse ("action " ++ jsonRepr value ++
        " did not normalize to fire/warn/resolve; add an explicit 'map' in the template")

def hasFormat : Json → Bool
  | .obj members => truthyAt members "format"
  | _ => false

/-- A numeric timestamp counts milliseconds beyond ten to the twelfth. -/
def tsFromNumber (number : Number) : Except PyError String := do
  tsFromUnix (← number.toDouble) (Binary64.lt (.finite 1000000000000) number.exact)

def coerceTimestamp (value spec : Json) : Except Fault String :=
  if hasFormat spec then
    match value with
    | .str text => .ok text
    | value => normalizeIso8601 lib (pyStr value)
  else
    match asNumber? value with
    | some number => foreign (tsFromNumber number)
    | none => normalizeIso8601 lib (pyStr value)

def asStrOrNone : Json → Option String
  | .null => none
  | .str text => some text
  | value => some (lib.dumps value)

structure WebhookTemplate where
  sourceId : Json
  sourceType : Json
  fields : Dict
  labelsPath : Json := .null
  displayName : Json := .null
  secret : Json := .null
  signatureHeader : Json := .null

def WebhookTemplate.fromDict (payload : Dict) : Except Fault WebhookTemplate :=
  match payload.get? "source_id", payload.get? "source_type" with
  | some sourceId, some sourceType =>
    match payload.get? "fields" with
    | some (.obj fields) => .ok {
        sourceId := sourceId
        sourceType := sourceType
        fields := fields
        labelsPath := getOr payload "labels_path" .null
        displayName := getOr payload "display_name" .null
        secret := getOr payload "secret" .null
        signatureHeader := getOr payload "signature_header" .null }
    | _ => refuse "template requires a 'fields' object"
  | _, _ => refuse "template requires source_id and source_type"

/-- `AlertEvent`, with the source as the template gives it. -/
structure WebhookAlert where
  alertId : String
  sourceId : Json
  action : String
  timestamp : String
  receivedAt : String
  title : Option String
  description : Option String
  severity : Option String
  service : Option String
  environment : Option String
  labels : Dict
  rawPayload : Dict
  templateSourceType : Json

def labelsOf (payload labelsPath : Json) : Except Fault Dict :=
  if truthy labelsPath then do
    match ← extractPath lib.toDigits payload labelsPath with
    | .obj labels => return labels
    | _ => return []
  else .ok []

variable (template : WebhookTemplate)

def optionalField (payload : Json) (key : String) :
    Except Fault (Option String) := do
  return asStrOrNone lib (← resolveField lib payload (getOr template.fields key .null))

/-- `fields[key]`, which must be there. -/
def requiredSpec (key : String) : Except Fault Json :=
  match template.fields.get? key with
  | some spec => .ok spec
  | none => refuse ("template is missing required field '" ++ key ++ "'")

def requireValue (key : String) (value : Json) : Except Fault Json :=
  if value = .null then refuse ("template could not resolve " ++ key ++ " from payload")
  else .ok value

/-- `apply_template`, at a given time. -/
def applyTemplate (payload : Dict) (receivedAt : String) :
    Except Fault WebhookAlert := do
  let alertSpec ← requiredSpec template "alert_id"
  let actionSpec ← requiredSpec template "action"
  let timestampSpec ← requiredSpec template "timestamp"
  let alertId ← requireValue "alert_id" (← resolveField lib (.obj payload) alertSpec)
  let action ← normalizeAction lib (← resolveField lib (.obj payload) actionSpec)
  let found ← requireValue "timestamp" (← resolveField lib (.obj payload) timestampSpec)
  let timestamp ← coerceTimestamp lib found timestampSpec
  let labels ← labelsOf lib (.obj payload) template.labelsPath
  let title ← optionalField lib template (.obj payload) "title"
  let description ← optionalField lib template (.obj payload) "description"
  let severity ← optionalField lib template (.obj payload) "severity"
  let service ← optionalField lib template (.obj payload) "service"
  let environment ← optionalField lib template (.obj payload) "environment"
  return {
    alertId := pyStr alertId
    sourceId := template.sourceId
    action := action
    timestamp := timestamp
    receivedAt := receivedAt
    title := title
    description := description
    severity := severity
    service := service
    environment := environment
    labels := labels
    rawPayload := payload
    templateSourceType := template.sourceType }

end

end OrbitalMesh.Webhooks
