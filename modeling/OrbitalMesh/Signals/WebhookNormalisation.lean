import OrbitalMesh.Signals.WebhookTemplates

/-!
# What becomes of a webhook

Every step of `apply_template` ends well, refuses with a `WebhookTemplateError` or breaks with
another exception.  Which of these it is can be told from the template and the payload, step
after step, and so can what becomes of the whole.
-/

namespace OrbitalMesh.Webhooks

open OrbitalMesh.Decision

/-- A step ends well, or with a `WebhookTemplateError`, or with another exception. -/
inductive Verdict where
  | fine
  | refused
  | broken

/-- How a step ends. -/
def outcome {α : Type} : Except Fault α → Verdict
  | .ok _ => .fine
  | .error (.template _) => .refused
  | .error (.other _) => .broken

def Verdict.andThen (first second : Verdict) : Verdict :=
  match first with
  | .fine => second
  | verdict => verdict

def firstTrouble (verdicts : List Verdict) : Verdict := verdicts.foldr Verdict.andThen .fine

/-- The verdict of a condition without which a step breaks. -/
def unlessBroken (reads : Bool) : Verdict := if reads then .fine else .broken

section

variable {α β : Type}

theorem outcome_bind {x : Except Fault α} {f : α → Except Fault β} {verdict : Verdict}
    (h : ∀ a, x = .ok a → outcome (f a) = verdict) :
    outcome (x >>= f) = (outcome x).andThen verdict := by
  cases x with
  | ok a => exact h a rfl
  | error e => cases e <;> rfl

variable {x : Except PyError α} {f : α → β}

theorem outcome_foreign {reads : Bool} (h : reads = true ↔ ∃ a, x = .ok a) :
    outcome (foreign x) = unlessBroken reads := by
  cases x with
  | ok a => rw [h.mpr ⟨a, rfl⟩]; rfl
  | error e =>
    have hreads : reads = false := by
      refine eq_false_of_ne_true fun hcontra => ?_
      obtain ⟨a, ha⟩ := h.mp hcontra
      cases ha
    rw [hreads]
    rfl

theorem outcome_map {x : Except Fault α} : outcome (do return f (← x)) = outcome x := by
  cases x with
  | ok a => rfl
  | error e => cases e <;> rfl

theorem map_ok {ε : Type} {x : Except ε α} {b : β} (h : (do return f (← x)) = .ok b) :
    ∃ a, x = .ok a ∧ b = f a := by
  cases x with
  | error e => cases h
  | ok a => exact ⟨a, rfl, (Except.ok.inj h).symm⟩

theorem foreign_ok {a : α} (h : foreign x = .ok a) : x = .ok a := by
  cases x with
  | error e => cases h
  | ok b => exact congrArg Except.ok (Except.ok.inj h)

end

section

variable (lib : Library) (payload : Json)

/-- A path is a text of whose indices `int` reads those that are reached, or empty. -/
def pathVerdict : Json → Verdict
  | .null => .fine
  | .str path =>
    unlessBroken (indicesRead lib.toDigits payload (segmentsOf lib.toDigits path.toList).1)
  | value => unlessBroken (!truthy value)

def pathValue : Json → Json
  | .null => .null
  | .str path => found lib.toDigits payload (segmentsOf lib.toDigits path.toList)
  | _ => payload

def mapVerdict (spec : Dict) (raw : Json) : Verdict :=
  if truthy (getOr spec "map" .null) && isScalar raw then
    match getOr spec "map" .null with
    | .obj _ => .fine
    | .arr items => unlessBroken (!decide (.str (pyStr raw) ∈ items))
    | .str whole => unlessBroken (!decide ((pyStr raw).toList <:+: whole.toList))
    | _ => .broken
  else .fine

def mapValue (spec : Dict) (raw : Json) : Json :=
  if truthy (getOr spec "map" .null) && isScalar raw then
    match getOr spec "map" .null with
    | .obj members =>
      (Dict.get? members (pyStr raw)).getD ((spec.get? "default").getD raw)
    | _ => (spec.get? "default").getD raw
  else raw

def numberReads : Number → Option Binary64
  | .int n =>
    match Binary64.nearest n with
    | .infinite _ => none
    | x => some x
  | .float x => some x

def readsFloat : Json → Option Binary64
  | .str text => lib.float text
  | value => (asNumber? value).bind numberReads

/-- So many seconds lie between the years 1 and 9999. -/
def secondsRead : Binary64 → Bool
  | .finite seconds => decide (InRange (instantAt seconds))
  | _ => false

variable (value : Json)

def unixReads (milliseconds : Bool) : Bool :=
  match readsFloat lib value with
  | some x => secondsRead (if milliseconds then x.div (.finite 1000) else x)
  | none => false

def utcReads (moment : Moment) : Bool := decide (InRange (moment.wall - moment.offset.getD 0))

def isoVerdict (text : String) : Verdict :=
  match lib.fromIso (isoCandidate text) with
  | .ok moment => unlessBroken (utcReads moment)
  | .error _ => .refused

def patternReads (text pattern : String) : Bool :=
  match lib.strptime text pattern with
  | .ok moment => utcReads moment
  | .error _ => false

/-- A format is a text, and what it converts can be read. -/
def formatVerdict : Json → Verdict
  | .str name =>
    if name = "unix" then unlessBroken (unixReads lib value false)
    else if name = "unix_ms" then unlessBroken (unixReads lib value true)
    else if name = "iso8601" then isoVerdict lib (pyStr value)
    else if strftimePrefix <+: name.toList then
      unlessBroken (patternReads lib (pyStr value)
        (String.ofList (name.toList.drop strftimePrefix.length)))
    else .fine
  | _ => .broken

def unformatted (spec : Dict) : Json :=
  mapValue spec (pathOrDefault spec (pathValue lib payload (getOr spec "path" .null)))

def fieldVerdict : Json → Verdict
  | .str path => pathVerdict lib payload (.str path)
  | .obj spec =>
    firstTrouble
      [pathVerdict lib payload (getOr spec "path" .null),
        mapVerdict spec
          (pathOrDefault spec (pathValue lib payload (getOr spec "path" .null))),
        if truthy (getOr spec "format" .null) && unformatted lib payload spec != .null then
          formatVerdict lib (unformatted lib payload spec) (getOr spec "format" .null)
        else .fine]
  | _ => .fine

def unixText (milliseconds : Bool) : String :=
  match (readsFloat lib value).map fun x => if milliseconds then x.div (.finite 1000) else x with
  | some (.finite seconds) => formatTime (instantAt seconds)
  | _ => ""

def utcText (moment : Moment) : String := formatTime (moment.wall - moment.offset.getD 0)

def formatted : Json → Json
  | .str name =>
    if name = "unix" then .str (unixText lib value false)
    else if name = "unix_ms" then .str (unixText lib value true)
    else if name = "iso8601" then
      .str (((lib.fromIso (isoCandidate (pyStr value))).toOption.map utcText).getD "")
    else if strftimePrefix <+: name.toList then
      .str (((lib.strptime (pyStr value)
        (String.ofList (name.toList.drop strftimePrefix.length))).toOption.map utcText).getD "")
    else if name = "lower" then .str (lib.lower (pyStr value))
    else if name = "upper" then .str (lib.upper (pyStr value))
    else value
  | _ => value

def fieldValue : Json → Json
  | .str path => pathValue lib payload (.str path)
  | .obj spec =>
    let raw := unformatted lib payload spec
    applyJoin spec
      (if truthy (getOr spec "format" .null) && raw != .null then
        formatted lib raw (getOr spec "format" .null)
      else raw)
  | value => value

/-- A format that makes a time of what it is given. -/
def convertsTime : Json → Bool
  | .str name =>
    name = "unix" || name = "unix_ms" || name = "iso8601" ||
      decide (strftimePrefix <+: name.toList)
  | _ => false

def trusts : Json → Bool
  | .obj spec => truthyAt spec "format" && !convertsTime (getOr spec "format" .null)
  | _ => false

def refusedIf (refuses : Bool) : Verdict := if refuses then .refused else .fine

def actionVerdict : Verdict :=
  refusedIf (value == .null || (actionOf (lib.lower (pyStrip (pyStr value)))).isNone)

def numberTimeReads (number : Number) : Bool :=
  match numberReads number with
  | some x =>
    secondsRead (if Binary64.lt (.finite 1000000000000) number.exact then
      x.div (.finite 1000) else x)
  | none => false

/-- With a format, a text is let through; without one, a number is converted; all else is read
as an ISO time. -/
def timestampVerdict (value spec : Json) : Verdict :=
  if hasFormat spec then
    match value with
    | .str _ => .fine
    | value => isoVerdict lib (pyStr value)
  else
    match asNumber? value with
    | some number => unlessBroken (numberTimeReads number)
    | none => isoVerdict lib (pyStr value)

def labelsVerdict (payload labelsPath : Json) : Verdict :=
  if truthy labelsPath then pathVerdict lib payload labelsPath else .fine

variable (template : WebhookTemplate)

def specOf (key : String) : Json := getOr template.fields key .null

def missing (key : String) : Verdict :=
  refusedIf (template.fields.get? key).isNone

/-- How the steps of `apply_template` end, in their order. -/
def stepVerdicts (payload : Dict) : List Verdict :=
  let field := fun key => fieldVerdict lib (.obj payload) (specOf template key)
  let value := fun key => fieldValue lib (.obj payload) (specOf template key)
  [missing template "alert_id", missing template "action", missing template "timestamp",
    field "alert_id", refusedIf (value "alert_id" == .null),
    field "action", actionVerdict lib (value "action"),
    field "timestamp", refusedIf (value "timestamp" == .null),
    timestampVerdict lib (value "timestamp") (specOf template "timestamp"),
    labelsVerdict lib (.obj payload) template.labelsPath,
    field "title", field "description", field "severity", field "service", field "environment"]

def verdictOf (payload : Dict) : Verdict :=
  firstTrouble (stepVerdicts lib template payload)

end

section

variable {lib : Library} {payload : Json}

theorem outcome_extractText (path : List Char) :
    outcome (extractText lib.toDigits payload path) =
      unlessBroken (indicesRead lib.toDigits payload (segmentsOf lib.toDigits path).1) := by
  have hextract := @extractText_eq lib.toDigits payload path
  split at hextract
  · next hread =>
    rw [hextract, hread]
    rfl
  · next hread =>
    obtain ⟨text, htext⟩ := hextract
    rw [htext, eq_false_of_ne_true hread]
    rfl

theorem extractText_value {path : List Char} {value : Json}
    (h : extractText lib.toDigits payload path = .ok value) :
    value = found lib.toDigits payload (segmentsOf lib.toDigits path) := by
  have hextract := @extractText_eq lib.toDigits payload path
  split at hextract
  · rw [h] at hextract
    exact Except.ok.inj hextract
  · obtain ⟨text, htext⟩ := hextract
    rw [h] at htext
    cases htext

theorem outcome_extractPath (path : Json) :
    outcome (extractPath lib.toDigits payload path) = pathVerdict lib payload path := by
  cases path with
  | null => rfl
  | str text => exact outcome_extractText text.toList
  | _ =>
    simp only [extractPath, pathVerdict]
    split
    · next htruthy => rw [htruthy]; rfl
    · next htruthy => rw [eq_false_of_ne_true htruthy]; rfl

theorem extractPath_value {path value : Json}
    (h : extractPath lib.toDigits payload path = .ok value) :
    value = pathValue lib payload path := by
  cases path with
  | null =>
    cases h
    rfl
  | str text => exact extractText_value h
  | _ =>
    simp only [extractPath] at h
    split at h
    · cases h
    · cases h
      rfl

theorem applyMap_eq (spec : Dict) (raw : Json) :
    match mapVerdict spec raw with
    | .fine => applyMap spec raw = .ok (mapValue spec raw)
    | _ => ∃ e, applyMap spec raw = .error e ∧ mapVerdict spec raw = .broken := by
  simp only [mapVerdict, applyMap, mapValue]
  generalize getOr spec "map" .null = mapping
  by_cases hused : (truthy mapping && isScalar raw) = true
  · simp only [hused, if_true]
    cases mapping with
    | obj members =>
      simp only [mapped, ok_bind]
      cases Dict.get? members (pyStr raw) <;> rfl
    | arr items =>
      by_cases hmem : Json.str (pyStr raw) ∈ items
      · simp [mapped, hmem, unlessBroken, typeError]
      · simp [mapped, hmem, unlessBroken]
        rfl
    | str whole =>
      by_cases hinfix : (pyStr raw).toList <:+: whole.toList
      · simp [mapped, hinfix, unlessBroken, typeError]
      · simp [mapped, hinfix, unlessBroken]
        rfl
    | _ => exact ⟨_, rfl, rfl⟩
  · simp only [hused]
    rfl

theorem outcome_applyMap (spec : Dict) (raw : Json) :
    outcome (foreign (applyMap spec raw)) = mapVerdict spec raw := by
  have hmap := applyMap_eq spec raw
  split at hmap
  · next hfine =>
    rw [hmap, hfine]
    rfl
  · obtain ⟨e, he, hbroken⟩ := hmap
    rw [he, hbroken]
    rfl

theorem applyMap_value {spec : Dict} {raw value : Json}
    (h : foreign (applyMap spec raw) = .ok value) : value = mapValue spec raw := by
  have hmap := applyMap_eq spec raw
  split at hmap
  · rw [hmap] at h
    exact (Except.ok.inj h).symm
  · obtain ⟨e, he, -⟩ := hmap
    rw [he] at h
    cases h

variable {x : Binary64} {milliseconds : Bool} {text : String}
  {number : Number} {moment : Moment} {instant : Instant} {written key action : String}
  {members : Dict} {spec found : Json}

theorem toDouble_ok_iff : number.toDouble = .ok x ↔ numberReads number = some x := by
  cases number with
  | int n =>
    simp only [Number.toDouble, numberReads]
    cases Binary64.nearest n <;> simp
  | float y => simp [Number.toDouble, numberReads]

variable {value : Json}

theorem floatOf_ok_iff : floatOf lib value = .ok x ↔ readsFloat lib value = some x := by
  unfold floatOf pyFloat readsFloat
  cases value with
  | str text =>
    simp only []
    cases lib.float text <;> simp [valueError]
  | bool b | int n | float neg mant exp => exact toDouble_ok_iff
  | _ => simp [asNumber?, typeError]

theorem toUtc_ok_iff : utcReads moment = true ↔ ∃ a, toUtc moment = .ok a := by
  simp only [utcReads, toUtc, decide_eq_true_eq]
  split
  · next hrange => exact ⟨fun _ => ⟨_, rfl⟩, fun _ => hrange⟩
  · next hrange => exact ⟨fun h => absurd h hrange, by rintro ⟨a, ha⟩; cases ha⟩

theorem tsFromUnix_ok_iff :
    secondsRead (if milliseconds then x.div (.finite 1000) else x) = true ↔
      ∃ a, tsFromUnix x milliseconds = .ok a := by
  unfold tsFromUnix
  generalize (if milliseconds then x.div (.finite 1000) else x) = seconds
  cases seconds with
  | nan | infinite neg => exact ⟨fun h => (Bool.false_ne_true h).elim, by rintro ⟨a, ha⟩; cases ha⟩
  | finite seconds =>
    simp only [secondsRead, decide_eq_true_eq, fromTimestamp]
    split
    · next hrange => exact ⟨fun _ => ⟨_, rfl⟩, fun _ => hrange⟩
    · next hrange =>
      refine ⟨fun h => absurd h hrange, ?_⟩
      rintro ⟨a, ha⟩
      split at ha <;> cases ha

theorem unix_ok_iff :
    unixReads lib value milliseconds = true ↔
      ∃ a, (do tsFromUnix (← floatOf lib value) milliseconds) = .ok a := by
  unfold unixReads
  cases hread : readsFloat lib value with
  | none =>
    refine ⟨fun h => (Bool.false_ne_true h).elim, ?_⟩
    rintro ⟨a, ha⟩
    cases hfloat : floatOf lib value with
    | error e => rw [hfloat] at ha; cases ha
    | ok x => rw [floatOf_ok_iff.mp hfloat] at hread; cases hread
  | some x =>
    rw [floatOf_ok_iff.mpr hread]
    exact tsFromUnix_ok_iff

theorem outcome_normalizeIso8601 (text : String) :
    outcome (normalizeIso8601 lib text) = isoVerdict lib text := by
  unfold normalizeIso8601 isoVerdict
  cases lib.fromIso (isoCandidate text) with
  | error reason => rfl
  | ok moment => exact outcome_map.trans (outcome_foreign toUtc_ok_iff)

theorem outcome_pattern (text pattern : String) :
    outcome (do
      let moment ← foreign (lib.strptime text pattern)
      return Json.str (formatTime (← foreign (toUtc moment)))) =
      unlessBroken (patternReads lib text pattern) := by
  unfold patternReads
  cases lib.strptime text pattern with
  | error e => rfl
  | ok moment => exact outcome_map.trans (outcome_foreign toUtc_ok_iff)

theorem outcome_applyFormat (value format : Json) :
    outcome (applyFormat lib value format) = formatVerdict lib value format := by
  cases format with
  | str name =>
    simp only [applyFormat, formatVerdict]
    by_cases hunix : name = "unix"
    · rw [if_pos hunix, if_pos hunix]
      exact outcome_map.trans (outcome_foreign unix_ok_iff)
    by_cases hmillis : name = "unix_ms"
    · rw [if_neg hunix, if_neg hunix, if_pos hmillis, if_pos hmillis]
      exact outcome_map.trans (outcome_foreign unix_ok_iff)
    by_cases hiso : name = "iso8601"
    · rw [if_neg hunix, if_neg hunix, if_neg hmillis, if_neg hmillis, if_pos hiso,
        if_pos hiso]
      exact outcome_map.trans (outcome_normalizeIso8601 _)
    rw [if_neg hunix, if_neg hunix, if_neg hmillis, if_neg hmillis, if_neg hiso, if_neg hiso]
    by_cases hpattern : strftimePrefix <+: name.toList
    · rw [if_pos hpattern, if_pos hpattern]
      exact outcome_pattern _ _
    · rw [if_neg hpattern, if_neg hpattern]
      by_cases hlower : name = "lower"
      · rw [if_pos hlower]
        rfl
      · rw [if_neg hlower]
        split <;> rfl
  | _ => rfl

theorem outcome_resolveField (spec : Json) :
    outcome (resolveField lib payload spec) = fieldVerdict lib payload spec := by
  cases spec with
  | str path => exact outcome_extractText path.toList
  | obj members =>
    simp only [resolveField, fieldVerdict, firstTrouble, List.foldr_cons, List.foldr_nil]
    rw [← outcome_extractPath]
    refine outcome_bind fun raw hraw => ?_
    rw [← extractPath_value hraw, ← outcome_applyMap]
    refine outcome_bind fun mapped hmapped => ?_
    have hvalue : unformatted lib payload members = mapped := by
      rw [unformatted, ← extractPath_value hraw, applyMap_value hmapped]
    rw [hvalue]
    by_cases hformat : (truthy (getOr members "format" .null) && mapped != .null) = true
    · simp only [hformat, if_true]
      rw [← outcome_applyFormat]
      exact outcome_bind fun _ _ => rfl
    · simp only [hformat]
      rfl
  | _ => rfl

theorem toUtc_value (h : toUtc moment = .ok instant) :
    formatTime instant = utcText moment ∧ InRange instant := by
  simp only [toUtc] at h
  split at h
  · next hrange =>
    cases h
    exact ⟨rfl, hrange⟩
  · cases h

theorem fromTimestamp_value (h : fromTimestamp x = .ok instant) :
    ∃ seconds, x = .finite seconds ∧ InRange (instantAt seconds) ∧
      instant = instantAt seconds := by
  cases x with
  | nan | infinite neg => cases h
  | finite seconds =>
    simp only [fromTimestamp] at h
    split at h
    · next hrange => exact ⟨seconds, rfl, hrange, (Except.ok.inj h).symm⟩
    · split at h <;> cases h

theorem tsFromUnix_value (h : tsFromUnix x milliseconds = .ok text) :
    ∃ seconds, (if milliseconds then x.div (.finite 1000) else x) = .finite seconds ∧
      InRange (instantAt seconds) ∧ text = formatTime (instantAt seconds) := by
  obtain ⟨instant, hinstant, htext⟩ := map_ok h
  obtain ⟨seconds, hseconds, hrange, rfl⟩ := fromTimestamp_value hinstant
  exact ⟨seconds, hseconds, hrange, htext⟩

theorem unix_value (h : (do tsFromUnix (← floatOf lib value) milliseconds) = .ok text) :
    text = unixText lib value milliseconds ∧
      ∃ instant, InRange instant ∧ text = formatTime instant := by
  cases hfloat : floatOf lib value with
  | error e =>
    rw [hfloat] at h
    cases h
  | ok x =>
    rw [hfloat] at h
    obtain ⟨seconds, hseconds, hrange, htext⟩ := tsFromUnix_value h
    refine ⟨?_, _, hrange, htext⟩
    rw [unixText, floatOf_ok_iff.mp hfloat, Option.map_some, hseconds]
    exact htext

theorem normalizeIso8601_value (h : normalizeIso8601 lib text = .ok written) :
    written = ((lib.fromIso (isoCandidate text)).toOption.map utcText).getD "" ∧
      ∃ instant, InRange instant ∧ written = formatTime instant := by
  unfold normalizeIso8601 at h
  cases hread : lib.fromIso (isoCandidate text) with
  | error reason =>
    rw [hread] at h
    cases h
  | ok moment =>
    rw [hread] at h
    obtain ⟨instant, hinstant, rfl⟩ := map_ok h
    obtain ⟨htext, hrange⟩ := toUtc_value (foreign_ok hinstant)
    exact ⟨htext, instant, hrange, rfl⟩

theorem pattern_value {pattern : String} {value : Json}
    (h : (do
      let moment ← foreign (lib.strptime text pattern)
      return Json.str (formatTime (← foreign (toUtc moment)))) = .ok value) :
    value = .str (((lib.strptime text pattern).toOption.map utcText).getD "") ∧
      ∃ instant, InRange instant ∧ value = .str (formatTime instant) := by
  cases hread : lib.strptime text pattern with
  | error e =>
    rw [hread] at h
    cases h
  | ok moment =>
    rw [hread] at h
    obtain ⟨instant, hinstant, rfl⟩ := map_ok h
    obtain ⟨htext, hrange⟩ := toUtc_value (foreign_ok hinstant)
    exact ⟨congrArg Json.str htext, instant, hrange, rfl⟩

theorem applyFormat_value {value format made : Json}
    (h : applyFormat lib value format = .ok made) :
    made = formatted lib value format ∧
      (convertsTime format = true →
        ∃ instant, InRange instant ∧ made = .str (formatTime instant)) := by
  cases format with
  | str name =>
    simp only [applyFormat] at h
    simp only [formatted]
    by_cases hunix : name = "unix"
    · rw [if_pos hunix] at h ⊢
      obtain ⟨text, htext, rfl⟩ := map_ok h
      obtain ⟨hmade, instant, hrange, hwritten⟩ := unix_value (foreign_ok htext)
      exact ⟨congrArg Json.str hmade, fun _ => ⟨instant, hrange, congrArg Json.str hwritten⟩⟩
    by_cases hmillis : name = "unix_ms"
    · rw [if_neg hunix, if_pos hmillis] at h ⊢
      obtain ⟨text, htext, rfl⟩ := map_ok h
      obtain ⟨hmade, instant, hrange, hwritten⟩ := unix_value (foreign_ok htext)
      exact ⟨congrArg Json.str hmade, fun _ => ⟨instant, hrange, congrArg Json.str hwritten⟩⟩
    by_cases hiso : name = "iso8601"
    · rw [if_neg hunix, if_neg hmillis, if_pos hiso] at h ⊢
      obtain ⟨text, htext, rfl⟩ := map_ok h
      obtain ⟨hmade, instant, hrange, hwritten⟩ := normalizeIso8601_value htext
      exact ⟨congrArg Json.str hmade, fun _ => ⟨instant, hrange, congrArg Json.str hwritten⟩⟩
    rw [if_neg hunix, if_neg hmillis, if_neg hiso] at h ⊢
    by_cases hpattern : strftimePrefix <+: name.toList
    · rw [if_pos hpattern] at h ⊢
      obtain ⟨hmade, hinstant⟩ := pattern_value h
      exact ⟨hmade, fun _ => hinstant⟩
    · have hnone : convertsTime (.str name) = false := by
        simp [convertsTime, hunix, hmillis, hiso, hpattern]
      rw [if_neg hpattern] at h ⊢
      refine ⟨?_, fun htime => absurd htime (by simp [hnone])⟩
      split at h
      · next hlower =>
        rw [if_pos hlower]
        exact (Except.ok.inj h).symm
      · next hlower =>
        rw [if_neg hlower]
        split at h
        · next hupper =>
          rw [if_pos hupper]
          exact (Except.ok.inj h).symm
        · next hupper =>
          rw [if_neg hupper]
          exact (Except.ok.inj h).symm
  | _ => cases h

theorem resolveField_steps {value : Json}
    (h : resolveField lib payload (.obj members) = .ok value) :
    ∃ made, value = applyJoin members made ∧
      if (truthy (getOr members "format" .null) &&
          unformatted lib payload members != .null) = true then
        applyFormat lib (unformatted lib payload members) (getOr members "format" .null) = .ok made
      else made = unformatted lib payload members := by
  obtain ⟨raw, hraw, h⟩ := bind_ok h
  obtain ⟨mapped, hmapped, h⟩ := bind_ok h
  have hvalue : unformatted lib payload members = mapped := by
    rw [unformatted, ← extractPath_value hraw, applyMap_value hmapped]
  rw [hvalue]
  simp only [] at h
  split at h
  · next hformat =>
    obtain ⟨made, hmade, h⟩ := bind_ok h
    refine ⟨made, (Except.ok.inj h).symm, ?_⟩
    rw [if_pos hformat]
    exact hmade
  · next hformat =>
    refine ⟨mapped, (Except.ok.inj h).symm, ?_⟩
    rw [if_neg hformat]

theorem resolveField_value {value : Json} (h : resolveField lib payload spec = .ok value) :
    value = fieldValue lib payload spec := by
  cases spec with
  | str path => exact extractText_value h
  | obj members =>
    obtain ⟨made, rfl, hmade⟩ := resolveField_steps h
    simp only [fieldValue]
    split at hmade
    · next hformat => rw [if_pos hformat, (applyFormat_value hmade).1]
    · next hformat => rw [if_neg hformat, hmade]
  | _ => exact (Except.ok.inj h).symm

/-- A valid time in UTC: what `isoformat` writes for one, or another text that is read as a time
and ends in a `Z`. -/
def IsUtcTime (lib : Library) (text : String) : Prop :=
  text.toList.getLast? = some 'Z' ∧ ∃ moment, lib.fromIso text = .ok moment

theorem isUtcTime_formatTime (h : InRange instant) : IsUtcTime lib (formatTime instant) := by
  refine ⟨?_, lib.reads_back instant h⟩
  simp only [formatTime, String.toList_append, List.getLast?_append]
  rfl

theorem normalizeIso8601_utc (h : normalizeIso8601 lib text = .ok written) :
    IsUtcTime lib written := by
  obtain ⟨-, instant, hrange, rfl⟩ := normalizeIso8601_value h
  exact isUtcTime_formatTime hrange

theorem applyJoin_text {spec : Dict} : applyJoin spec (.str text) = .str text := by
  unfold applyJoin
  cases getOr spec "join" .null <;> rfl

theorem applyJoin_null {spec : Dict} : applyJoin spec .null = .null := by
  unfold applyJoin
  cases getOr spec "join" .null <;> rfl

theorem resolveField_utc (h : resolveField lib payload (.obj members) = .ok (.str text))
    (hformat : truthy (getOr members "format" .null) = true)
    (htime : convertsTime (getOr members "format" .null) = true) : IsUtcTime lib text := by
  obtain ⟨made, hvalue, hmade⟩ := resolveField_steps h
  rw [hformat, Bool.true_and] at hmade
  split at hmade
  · obtain ⟨instant, hrange, rfl⟩ := (applyFormat_value hmade).2 htime
    rw [applyJoin_text] at hvalue
    rw [Json.str.inj hvalue]
    exact isUtcTime_formatTime hrange
  · next hnull =>
    have hraw : unformatted lib payload members = .null := by simpa using hnull
    rw [hmade, hraw, applyJoin_null] at hvalue
    cases hvalue

variable (template : WebhookTemplate)

theorem outcome_requiredSpec (key : String) :
    outcome (requiredSpec template key) = missing template key := by
  unfold requiredSpec missing
  cases template.fields.get? key <;> rfl

theorem requiredSpec_value {template : WebhookTemplate} (h : requiredSpec template key = .ok spec) :
    spec = specOf template key := by
  unfold requiredSpec at h
  unfold specOf getOr
  cases hspec : template.fields.get? key with
  | none =>
    rw [hspec] at h
    cases h
  | some found =>
    rw [hspec] at h
    exact (Except.ok.inj h).symm

theorem outcome_requireValue (key : String) (value : Json) :
    outcome (requireValue key value) = refusedIf (value == .null) := by
  unfold requireValue
  by_cases hnull : value = .null
  · rw [if_pos hnull, beq_iff_eq.mpr hnull]
    rfl
  · rw [if_neg hnull, beq_eq_false_iff_ne.mpr hnull]
    rfl

theorem requireValue_value {value : Json} (h : requireValue key value = .ok found) :
    found = value := by
  unfold requireValue at h
  split at h
  · cases h
  · exact (Except.ok.inj h).symm

theorem outcome_normalizeAction (value : Json) :
    outcome (normalizeAction lib value) = actionVerdict lib value := by
  unfold normalizeAction actionVerdict
  by_cases hnull : value = .null
  · rw [if_pos hnull, beq_iff_eq.mpr hnull]
    rfl
  · rw [if_neg hnull, beq_eq_false_iff_ne.mpr hnull]
    cases actionOf (lib.lower (pyStrip (pyStr value))) <;> rfl

theorem actionOf_allowed {token : String} (h : actionOf token = some action) :
    action ∈ allowedActions := by
  unfold actionOf at h
  split at h
  · next hallowed =>
    cases h
    exact hallowed
  · obtain ⟨before, after, hsynonyms, -⟩ := List.lookup_eq_some_iff.mp h
    have hmem : (token, action) ∈ synonyms := by simp [hsynonyms]
    simp only [synonyms, List.mem_cons, Prod.mk.injEq, List.not_mem_nil, or_false] at hmem
    simp only [allowedActions, List.mem_cons, List.not_mem_nil, or_false]
    tauto

theorem normalizeAction_allowed (h : normalizeAction lib value = .ok action) :
    action ∈ allowedActions := by
  unfold normalizeAction at h
  split at h
  · cases h
  · split at h
    · next haction =>
      cases h
      exact actionOf_allowed haction
    · cases h

theorem numberTime_ok_iff : numberTimeReads number = true ↔ ∃ a, tsFromNumber number = .ok a := by
  unfold numberTimeReads tsFromNumber
  cases hread : numberReads number with
  | none =>
    refine ⟨fun h => (Bool.false_ne_true h).elim, ?_⟩
    rintro ⟨a, ha⟩
    obtain ⟨x, hx, -⟩ := bind_ok ha
    rw [toDouble_ok_iff.mp hx] at hread
    cases hread
  | some x =>
    rw [toDouble_ok_iff.mpr hread]
    exact tsFromUnix_ok_iff

theorem outcome_coerceTimestamp (value spec : Json) :
    outcome (coerceTimestamp lib value spec) = timestampVerdict lib value spec := by
  unfold coerceTimestamp timestampVerdict
  split
  · cases value with
    | str text => rfl
    | _ => exact outcome_normalizeIso8601 _
  · cases asNumber? value with
    | none => exact outcome_normalizeIso8601 _
    | some number => exact outcome_foreign numberTime_ok_iff

theorem outcome_labelsOf (labelsPath : Json) :
    outcome (labelsOf lib payload labelsPath) = labelsVerdict lib payload labelsPath := by
  unfold labelsOf labelsVerdict
  split
  · rw [← outcome_extractPath]
    cases extractPath lib.toDigits payload labelsPath with
    | error e => cases e <;> rfl
    | ok labels => cases labels <;> rfl
  · rfl

theorem outcome_optionalField (key : String) :
    outcome (optionalField lib template payload key) =
      fieldVerdict lib payload (specOf template key) :=
  outcome_map.trans (outcome_resolveField _)

/-- The first step that does not end well tells what becomes of the whole. -/
theorem outcome_applyTemplate (payload : Dict)
    (receivedAt : String) :
    outcome (applyTemplate lib template payload receivedAt) = verdictOf lib template payload := by
  unfold applyTemplate verdictOf stepVerdicts
  simp only [firstTrouble, List.foldr_cons, List.foldr_nil]
  rw [← outcome_requiredSpec]
  refine outcome_bind fun alertSpec halert => ?_
  rw [← outcome_requiredSpec]
  refine outcome_bind fun actionSpec haction => ?_
  rw [← outcome_requiredSpec]
  refine outcome_bind fun timestampSpec htimestamp => ?_
  rw [← requiredSpec_value halert, ← requiredSpec_value haction, ← requiredSpec_value htimestamp]
  rw [← outcome_resolveField]
  refine outcome_bind fun alertId halertId => ?_
  rw [← resolveField_value halertId, ← outcome_requireValue "alert_id"]
  refine outcome_bind fun _ _ => ?_
  rw [← outcome_resolveField]
  refine outcome_bind fun token htoken => ?_
  rw [← resolveField_value htoken, ← outcome_normalizeAction]
  refine outcome_bind fun _ _ => ?_
  rw [← outcome_resolveField]
  refine outcome_bind fun time htime => ?_
  rw [← resolveField_value htime, ← outcome_requireValue "timestamp"]
  refine outcome_bind fun found hfound => ?_
  rw [← requireValue_value hfound, ← outcome_coerceTimestamp]
  refine outcome_bind fun _ _ => ?_
  rw [← outcome_labelsOf]
  refine outcome_bind fun _ _ => ?_
  rw [← outcome_optionalField]
  refine outcome_bind fun _ _ => ?_
  rw [← outcome_optionalField]
  refine outcome_bind fun _ _ => ?_
  rw [← outcome_optionalField]
  refine outcome_bind fun _ _ => ?_
  rw [← outcome_optionalField]
  refine outcome_bind fun _ _ => ?_
  rw [← outcome_optionalField]
  exact outcome_bind fun _ _ => rfl

theorem applyTemplate_value {template : WebhookTemplate} {payload : Dict} {receivedAt : String}
    {alert : WebhookAlert} (h : applyTemplate lib template payload receivedAt = .ok alert) :
    alert.action ∈ allowedActions ∧
    ∃ found, resolveField lib (.obj payload) (specOf template "timestamp") = .ok found ∧
      coerceTimestamp lib found (specOf template "timestamp") = .ok alert.timestamp := by
  obtain ⟨alertSpec, -, h⟩ := bind_ok h
  obtain ⟨actionSpec, -, h⟩ := bind_ok h
  obtain ⟨timestampSpec, hspec, h⟩ := bind_ok h
  obtain ⟨alertId, -, h⟩ := bind_ok h
  obtain ⟨_, -, h⟩ := bind_ok h
  obtain ⟨token, -, h⟩ := bind_ok h
  obtain ⟨action, haction, h⟩ := bind_ok h
  obtain ⟨time, htime, h⟩ := bind_ok h
  obtain ⟨found, hfound, h⟩ := bind_ok h
  obtain ⟨timestamp, htimestamp, h⟩ := bind_ok h
  obtain ⟨labels, -, h⟩ := bind_ok h
  obtain ⟨title, -, h⟩ := bind_ok h
  obtain ⟨description, -, h⟩ := bind_ok h
  obtain ⟨severity, -, h⟩ := bind_ok h
  obtain ⟨service, -, h⟩ := bind_ok h
  obtain ⟨environment, -, h⟩ := bind_ok h
  cases h
  rw [requiredSpec_value hspec] at htime htimestamp
  rw [requireValue_value hfound] at htimestamp
  exact ⟨normalizeAction_allowed haction, time, htime, htimestamp⟩

theorem coerceTimestamp_utc {timestamp : String}
    (hresolved : resolveField lib payload spec = .ok found)
    (h : coerceTimestamp lib found spec = .ok timestamp)
    (htrusts : ¬(trusts spec = true ∧ found = .str timestamp)) : IsUtcTime lib timestamp := by
  unfold coerceTimestamp at h
  split at h
  · next hformat =>
    cases found with
    | str text =>
      have htext : text = timestamp := Except.ok.inj h
      subst htext
      cases spec with
      | obj members =>
        have htruthy : truthy (getOr members "format" .null) = true := by
          rw [← truthyAt_eq]
          exact hformat
        refine resolveField_utc hresolved htruthy ?_
        by_contra hconverts
        refine htrusts ⟨?_, rfl⟩
        have hfalse := eq_false_of_ne_true hconverts
        simp only [trusts, hfalse, Bool.not_false, Bool.and_true]
        exact hformat
      | _ => cases hformat
    | _ => exact normalizeIso8601_utc h
  · split at h
    · obtain ⟨x, -, hx⟩ := bind_ok (foreign_ok h)
      obtain ⟨seconds, -, hrange, rfl⟩ := tsFromUnix_value hx
      exact isUtcTime_formatTime hrange
    · exact normalizeIso8601_utc h

/-- The alert that a template makes has an allowed action and a time in UTC, and a template that
makes none says so itself. -/
def Normalises (lib : Library) (template : WebhookTemplate) (payload : Dict)
    (receivedAt : String) : Prop :=
  match applyTemplate lib template payload receivedAt with
  | .ok alert => alert.action ∈ allowedActions ∧ IsUtcTime lib alert.timestamp
  | .error (.template _) => True
  | .error (.other _) => False

/-- No step breaks, and a timestamp that is let through as it is found is a time in UTC. -/
structure InOrder (lib : Library) (template : WebhookTemplate) (payload : Dict) : Prop where
  unbroken : verdictOf lib template payload ≠ .broken
  trusted : verdictOf lib template payload = .fine →
    trusts (specOf template "timestamp") = true →
    ∀ text, fieldValue lib (.obj payload) (specOf template "timestamp") = .str text →
      IsUtcTime lib text

theorem coerceTimestamp_trusts (h : trusts spec = true) :
    coerceTimestamp lib (.str text) spec = .ok text := by
  cases spec with
  | obj members =>
    have hformat : hasFormat (.obj members) = true := (Bool.and_eq_true_iff.mp h).1
    unfold coerceTimestamp
    rw [if_pos hformat]
  | _ => cases h

theorem normalises_iff (payload : Dict) (receivedAt : String) :
    Normalises lib template payload receivedAt ↔ InOrder lib template payload := by
  have hverdict := @outcome_applyTemplate lib template payload receivedAt
  unfold Normalises
  cases halert : applyTemplate lib template payload receivedAt with
  | error e =>
    rw [halert] at hverdict
    cases e with
    | template text =>
      refine ⟨fun _ => ⟨?_, ?_⟩, fun _ => trivial⟩
      · rw [← hverdict]
        exact Verdict.noConfusion
      · rw [← hverdict]
        exact Verdict.noConfusion
    | other e => exact ⟨False.elim, fun h => h.unbroken hverdict.symm⟩
  | ok alert =>
    rw [halert] at hverdict
    obtain ⟨hallowed, found, hfound, hcoerced⟩ := applyTemplate_value halert
    refine ⟨?_, fun h => ⟨hallowed, ?_⟩⟩
    · rintro ⟨-, hutc⟩
      refine ⟨?_, ?_⟩
      · rw [← hverdict]
        exact Verdict.noConfusion
      · intro _ htrusts text htext
        have hvalue : found = .str text := (resolveField_value hfound).trans htext
        rw [hvalue, coerceTimestamp_trusts htrusts] at hcoerced
        rw [Except.ok.inj hcoerced]
        exact hutc
    · by_cases htrusts : trusts (specOf template "timestamp") = true ∧
          found = .str alert.timestamp
      · obtain ⟨htrusts, hvalue⟩ := htrusts
        exact h.trusted hverdict.symm htrusts _ ((resolveField_value hfound).symm.trans hvalue)
      · exact coerceTimestamp_utc hfound hcoerced htrusts

end

def plainInt (text : String) : Option Int :=
  let read := fun ds : List Char =>
    if ds ≠ [] ∧ ds.all Char.isDigit then
      some (ds.foldl (fun n c => n * 10 + ((c.toNat : Int) - 48)) 0)
    else none
  match text.toList with
  | '-' :: ds => (read ds).map Neg.neg
  | ds => read ds

def plainLibrary : Library where
  decimal := Char.isDigit
  int := plainInt
  decimal_ne := by
    intro c hc
    constructor <;> rintro rfl <;> exact absurd hc (by decide)
  float := fun text => (plainInt text).map fun n => .finite n
  lower := fun text => String.ofList (text.toList.map Char.toLower)
  upper := fun text => String.ofList (text.toList.map Char.toUpper)
  dumps := jsonRepr
  fromIso := fun _ => .ok ⟨0, some 0, by decide⟩
  strptime := fun _ _ => .ok ⟨0, some 0, by decide⟩
  reads_back := fun _ _ => ⟨_, rfl⟩

def secondsTemplate : WebhookTemplate where
  sourceId := .str "probe"
  sourceType := .str "custom"
  fields := [("alert_id", .str "$.id"), ("action", .str "$.status"),
    ("timestamp", .obj [("path", .str "$.time"), ("format", .str "unix")])]

theorem two_dots_lead :
    ¬FindsOnlyDocumented plainLibrary.toDigits (.obj [("id", .int 1)]) "$..id".toList := by
  intro hfinds
  have hfound : extractText plainLibrary.toDigits (.obj [("id", .int 1)]) "$..id".toList =
      .ok (.int 1) := by rfl
  obtain ⟨segments, hdocumented, -⟩ := hfinds _ hfound (by decide)
  have hsegments : segments = [.name "id"] := by
    have hread := segmentsOf_documented hdocumented
    have hself : segmentsOf plainLibrary.toDigits "$..id".toList = ([.name "id"], []) := by rfl
    exact (congrArg Prod.fst hread).symm
  subst hsegments
  obtain ⟨-, hroot | hbare | ⟨key, rest, hcons, -, hname⟩⟩ := hdocumented
  · exact absurd hroot (by decide)
  · exact absurd hbare (by decide)
  · cases hcons
    exact absurd hname (by decide)

end OrbitalMesh.Webhooks
