import OrbitalMesh.Decision.Proposals

/-!
# The fallback to a language model

`LlmActionProposer.propose` builds a prompt, runs goose with it, takes the last words of the
assistant out of what goose prints, and reads a proposal out of these.  Four things along that
way may raise: the slice of the related metrics, the scan of the messages, `json.loads` with
something else than a `JSONDecodeError`, and the reading of the confidence and the risk.
-/

namespace OrbitalMesh.Decision

/-- What `json.loads` does with a text. -/
inductive LoadsOutcome where
  | value (loaded : Loaded)
  | decodeError
  /-- Nesting too deep, or an integer too long. -/
  | raised (e : PyError)

/-- How a run of goose ends. -/
inductive GooseRun where
  | timedOut
  | notRunnable
  | finished (returncode : Int) (stdout : String)

/-- The configuration, and what is called. -/
structure LlmActionProposer where
  llmDecisionFallbackEnabled : Bool
  gooseCommand : String
  dumps : Json → String
  goose : String → GooseRun
  loads : List Char → LoadsOutcome
  reading : TextReading

structure LlmProposalResult where
  found : Option RuleMatch
  riskFlags : List String
  rawResponse : Option String

/-- `raise AttributeError`, for `value.get`. -/
def noGet {α : Type} (value : Loaded) : Except PyError α :=
  .error ⟨.exception, "'" ++ value.typeName ++ "' object has no attribute 'get'"⟩

def actionDescriptions : List String :=
  ["Scale a deployment to an absolute replica count.",
   "Rolling-restart a deployment to clear transient state.",
   "Roll back a deployment to the previous revision.",
   "Open an incident for human remediation when the signal is ambiguous."]

def textList (texts : List String) : Json := .arr (texts.map .str)

def allowlistEntry (spec : ActionSpec) (description : String) : Json :=
  .obj
    [("system", .str spec.system),
     ("action", .str spec.action),
     ("required_parameters", textList (sortedSet spec.required)),
     ("optional_parameters", textList (sortedSet spec.optional)),
     ("numeric_bounds", .obj (spec.numericBounds.map fun bound =>
        (bound.1, .arr [.int bound.2.1, .int bound.2.2]))),
     ("description", .str description)]

/-- `related[:10]`. -/
def firstTen : Json → Except PyError Json
  | .arr items => .ok (.arr (items.take 10))
  | .str text => .ok (.str (String.ofList (text.toList.take 10)))
  | value => typeError ("'" ++ OrbitalMesh.typeName value ++ "' object is not subscriptable")

/-- `body`. -/
def promptBody (view : Dict) : Except PyError Json := do
  let related ← firstTen (getOr view "related_metrics" (.arr []))
  return .obj
    [("signal", .obj
        [("service", getOr view "service" .null),
         ("endpoint", getOr view "endpoint" .null),
         ("environment", getOr view "environment" .null),
         ("metric_regression", getOr view "metric_regression" (.obj []))]),
     ("resource_attributes", getOr view "resource_attributes" (.obj [])),
     ("related_metrics", related),
     ("allowlist", .arr ((actionAllowlist.zip actionDescriptions).map fun entry =>
        allowlistEntry entry.1 entry.2))]

def buildPrompt (dumps : Json → String) (view : Dict) : Except PyError String := do
  let body ← promptBody view
  return "A metric regressed on a Mesh-monitored service. No declarative rule matched. " ++
    "Choose ONE bounded action from the allowlist and propose parameters sourced from " ++
    "the signal's resource_attributes or explicit values.\n\n" ++ "Context: " ++ dumps body

/-- `reversed(value)`. -/
def reversedItems : Loaded → Except PyError (List Loaded)
  | .arr items => .ok items.reverse
  | .str text => .ok (text.toList.map fun c => Loaded.str (String.singleton c)).reverse
  | .obj members => .ok (members.map fun member => Loaded.str member.1).reverse
  | value => typeError ("'" ++ value.typeName ++ "' object is not reversible")

/-- `iter(value)`. -/
def iterated : Loaded → Except PyError (List Loaded)
  | .arr items => .ok items
  | .str text => .ok (text.toList.map fun c => Loaded.str (String.singleton c))
  | .obj members => .ok (members.map fun member => Loaded.str member.1)
  | value => typeError ("'" ++ value.typeName ++ "' object is not iterable")

def isText (value : Option Loaded) (text : String) : Bool :=
  match value with
  | some (.str own) => own == text
  | _ => false

def spokenPart : Loaded → Except PyError (List Loaded)
  | .obj members =>
    .ok (if isText (members.lookup "type") "text" then
      [(members.lookup "text").getD (.str "")] else [])
  | value => noGet value

/-- `"".join(items)`. -/
def joinTexts : List Loaded → Except PyError String
  | [] => .ok ""
  | .str text :: rest => do return text ++ (← joinTexts rest)
  | value :: _ =>
    typeError ("sequence item: expected str instance, " ++ value.typeName ++ " found")

variable (members : LoadedDict)

def messageText : Except PyError String := do
  let parts ← iterated ((members.lookup "content").getD (.arr []))
  let spoken ← parts.mapM spokenPart
  return pyStrip (← joinTexts spoken.flatten)

def lastWords : List Loaded → Except PyError String
  | [] => .ok ""
  | .obj members :: rest =>
    if isText (members.lookup "role") "assistant" then do
      let text ← messageText members
      if text ≠ "" then return text else lastWords rest
    else lastWords rest
  | value :: _ => noGet value

variable (loads : List Char → LoadsOutcome)

def extractAssistantText (stdout : String) :
    Except PyError String :=
  match loads stdout.toList with
  | .decodeError => .ok (pyStrip stdout)
  | .raised e => .error e
  | .value (.obj payload) => do
    lastWords (← reversedItems ((payload.lookup "messages").getD (.arr [])))
  | .value value => noGet value

variable (proposer : LlmActionProposer)

/-- `_invoke_goose`: the text, or the flag of the error that is caught. -/
def invokeGoose (prompt : String) :
    Except PyError (Except String String) :=
  match proposer.goose prompt with
  | .timedOut => .ok (.error "llm_timeout")
  | .notRunnable => .ok (.error "goose_unavailable")
  | .finished returncode stdout =>
    if returncode ≠ 0 then .ok (.error "llm_subprocess_error")
    else do
      let text ← extractAssistantText proposer.loads stdout
      return if text = "" then .error "llm_empty_response" else .ok text

/-- An attempt to load, where a text that is not JSON is no answer. -/
def settled : LoadsOutcome → Except PyError (Option Loaded)
  | .value loaded => .ok (some loaded)
  | .decodeError => .ok none
  | .raised e => .error e

/-- `_parse_response`. -/
def parseAnswer (text : String) :
    Except PyError (Option Loaded) :=
  let stripped := (pyStrip text).toList
  match loads stripped with
  | .value loaded => .ok (some loaded)
  | .raised e => .error e
  | .decodeError =>
    match fenced stripped, braced stripped with
    | some inside, _ => settled (loads inside)
    | none, some body => settled (loads body)
    | none, none => .ok none

variable (reading : TextReading)

def judged : Option Loaded → Except PyError ValidationOutcome
  | none | some .null => .ok (refused "llm_invalid_json")
  | some (.obj parsed) => validateAndClamp reading parsed
  | some value => noGet value

def propose (view : Dict) : Except PyError LlmProposalResult :=
  if !proposer.llmDecisionFallbackEnabled then .ok ⟨none, ["llm_fallback_disabled"], none⟩
  else if proposer.gooseCommand = "" then .ok ⟨none, ["goose_unavailable"], none⟩
  else do
    let prompt ← buildPrompt proposer.dumps view
    match ← invokeGoose proposer prompt with
    | .error riskFlag => return ⟨none, [riskFlag], none⟩
    | .ok raw => do
      let parsed ← parseAnswer proposer.loads raw
      let outcome ← judged proposer.reading parsed
      return ⟨outcome.found, outcome.riskFlags, some raw⟩

def viewReads (view : Dict) : Bool :=
  match getOr view "related_metrics" (.arr []) with
  | .arr _ | .str _ => true
  | _ => false

def partReads : Loaded → Bool
  | .obj members =>
    !isText (members.lookup "type") "text" ||
      match (members.lookup "text").getD (.str "") with
      | .str _ => true
      | _ => false
  | _ => false

def contentReads : Bool :=
  match (members.lookup "content").getD (.arr []) with
  | .arr parts => parts.all partReads
  | .str text => text == ""
  | .obj inner => inner.isEmpty
  | _ => false

def wordsOf : String :=
  match messageText members with
  | .ok text => text
  | .error _ => ""

/-- Up to the first assistant that says something, every message is an object, and the content
of an assistant's message reads. -/
def messagesRead : List Loaded → Bool
  | [] => true
  | .obj members :: rest =>
    if isText (members.lookup "role") "assistant" then
      contentReads members && (wordsOf members != "" || messagesRead rest)
    else messagesRead rest
  | _ :: _ => false

def stdoutReads : LoadsOutcome → Bool
  | .decodeError => true
  | .raised _ => false
  | .value (.obj payload) =>
    match (payload.lookup "messages").getD (.arr []) with
    | .arr messages => messagesRead messages.reverse
    | .str text => text == ""
    | .obj inner => inner.isEmpty
    | _ => false
  | .value _ => false

/-- The entry that the answer is checked against, where it gets that far. -/
def Reaches (parsed : LoadedDict) : Prop :=
  ∃ spec ∈ actionAllowlist, parsed.lookup "system" = some (.str spec.system) ∧
    parsed.lookup "action" = some (.str spec.action) ∧
    ∃ parameters, parsed.lookup "parameters" = some (.obj parameters) ∧
      ∀ key ∈ spec.required, (parameters.lookup key).isSome = true

def confidenceReads (parsed : LoadedDict) : Bool :=
  match (parsed.lookup "confidence").getD (.float 0.55) with
  | .float _ | .bool _ => true
  | .int n =>
    match Binary64.nearest n with
    | .infinite _ => false
    | _ => true
  | .str text => (reading.float text).isSome
  | _ => false

def riskReads (parsed : LoadedDict) : Bool :=
  match (parsed.lookup "risk_level").getD (.str "medium") with
  | .arr _ | .obj _ => false
  | _ => true

def AnswerReads (parsed : LoadedDict) : Prop :=
  Reaches parsed → confidenceReads reading parsed = true ∧ riskReads parsed = true

theorem joinTexts_append_ok_iff {first rest : List Loaded} :
    (∃ text, joinTexts (first ++ rest) = .ok text) ↔
      (∀ value ∈ first, ∃ text, value = .str text) ∧ ∃ text, joinTexts rest = .ok text := by
  induction first with
  | nil => simp
  | cons value others ih =>
    rw [List.cons_append, List.forall_mem_cons, and_assoc, ← ih]
    cases value with
    | str own =>
      simp only [joinTexts, Except.bind_ok_iff]
      constructor
      · rintro ⟨-, text, htext, -⟩
        exact ⟨⟨own, rfl⟩, text, htext⟩
      · rintro ⟨-, text, htext⟩
        exact ⟨_, text, htext, rfl⟩
    | _ =>
      constructor
      · rintro ⟨text, htext⟩
        cases htext
      · rintro ⟨⟨text, htext⟩, -⟩
        cases htext

theorem spoken_ok_iff {parts : List Loaded} :
    (∃ spoken text, parts.mapM spokenPart = .ok spoken ∧ joinTexts spoken.flatten = .ok text) ↔
      ∀ part ∈ parts, partReads part = true := by
  induction parts with
  | nil => exact ⟨fun _ _ hmem => absurd hmem List.not_mem_nil, fun _ => ⟨[], "", rfl, rfl⟩⟩
  | cons part rest ih =>
    rw [List.forall_mem_cons, ← ih]
    simp only [List.mapM_cons, Except.bind_ok_iff]
    cases part with
    | obj members =>
      have hpiece : ∀ piece, spokenPart (.obj members) = .ok piece →
          ((∀ value ∈ piece, ∃ text, value = .str text) ↔
            partReads (.obj members) = true) := by
        intro piece hspoken
        obtain rfl := Except.ok.inj hspoken
        by_cases htype : isText (members.lookup "type") "text" = true
        · rw [if_pos htype]
          simp only [List.mem_singleton, forall_eq, partReads, htype, Bool.not_true,
            Bool.false_or]
          cases (members.lookup "text").getD (.str "") <;> simp
        · rw [if_neg htype]
          simp [partReads, htype]
      constructor
      · rintro ⟨spoken, text, ⟨piece, hspoken, others, hothers, hboth⟩, htext⟩
        obtain rfl := Except.ok.inj hboth
        obtain ⟨hall, text', htext'⟩ := joinTexts_append_ok_iff.mp ⟨text, htext⟩
        exact ⟨(hpiece piece hspoken).mp hall, others, text', hothers, htext'⟩
      · rintro ⟨hreads, others, text, hothers, htext⟩
        have hall := (hpiece _ rfl).mpr hreads
        obtain ⟨text', htext'⟩ := joinTexts_append_ok_iff.mpr ⟨hall, text, htext⟩
        exact ⟨_, text', ⟨_, rfl, others, hothers, rfl⟩, htext'⟩
    | _ =>
      constructor
      · rintro ⟨spoken, text, ⟨piece, hspoken, -⟩, -⟩
        cases hspoken
      · rintro ⟨hreads, -⟩
        cases hreads

theorem spoken_texts {texts : List String} {spoken : List (List Loaded)}
    (h : (texts.map Loaded.str).mapM spokenPart = .ok spoken) : texts = [] := by
  cases texts with
  | nil => rfl
  | cons text rest =>
    cases h

variable {text : String} {spec : ActionSpec} {parameters : LoadedDict} {outcome : ValidationOutcome}

theorem string_toList_eq_nil : text.toList = [] ↔ text = "" := by
  rw [← String.toList_inj]
  rfl

theorem messageText_ok_iff {members : LoadedDict} :
    (∃ text, messageText members = .ok text) ↔ contentReads members = true := by
  simp only [messageText, contentReads, Except.bind_ok_iff]
  generalize (members.lookup "content").getD (.arr []) = content
  have hnone : ∀ texts : List String,
      (∃ text, ∃ parts,
        (Except.ok (texts.map Loaded.str) : Except PyError (List Loaded)) = .ok parts ∧
        ∃ spoken, parts.mapM spokenPart = .ok spoken ∧ ∃ joined,
          joinTexts spoken.flatten = .ok joined ∧
            (pure (pyStrip joined) : Except PyError String) = .ok text) ↔ texts = [] := by
    intro texts
    constructor
    · rintro ⟨-, parts, hparts, spoken, hspoken, -⟩
      obtain rfl := Except.ok.inj hparts
      exact spoken_texts hspoken
    · rintro rfl
      exact ⟨_, [], rfl, [], rfl, "", rfl, rfl⟩
  cases content with
  | arr parts =>
    rw [List.all_eq_true, ← spoken_ok_iff]
    constructor
    · rintro ⟨text, parts', hparts, spoken, hspoken, joined, hjoined, -⟩
      obtain rfl := Except.ok.inj hparts
      exact ⟨spoken, joined, hspoken, hjoined⟩
    · rintro ⟨spoken, joined, hspoken, hjoined⟩
      exact ⟨_, parts, rfl, spoken, hspoken, joined, hjoined, rfl⟩
  | str text =>
    have h := hnone (text.toList.map String.singleton)
    rw [List.map_map, List.map_eq_nil_iff, string_toList_eq_nil] at h
    rw [beq_iff_eq]
    exact h
  | obj inner =>
    have h := hnone (inner.map Prod.fst)
    rw [List.map_map, List.map_eq_nil_iff] at h
    rw [List.isEmpty_iff]
    exact h
  | _ =>
    constructor
    · rintro ⟨text, parts, hparts, -⟩
      cases hparts
    · intro hfalse
      cases hfalse

theorem lastWords_ok_iff {messages : List Loaded} :
    (∃ text, lastWords messages = .ok text) ↔ messagesRead messages = true := by
  induction messages with
  | nil => exact ⟨fun _ => rfl, fun _ => ⟨"", rfl⟩⟩
  | cons message rest ih =>
    cases message with
    | obj members =>
      rw [lastWords, messagesRead]
      by_cases hrole : isText (members.lookup "role") "assistant" = true
      · rw [if_pos hrole, if_pos hrole, Bool.and_eq_true, Bool.or_eq_true, ← ih,
          ← messageText_ok_iff]
        simp only [Except.bind_ok_iff]
        constructor
        · rintro ⟨text, words, hwords, hrest⟩
          have hsame : wordsOf members = words := by rw [wordsOf, hwords]
          refine ⟨⟨words, hwords⟩, ?_⟩
          by_cases hsilent : words = ""
          · rw [if_neg (by simpa using hsilent)] at hrest
            exact .inr ⟨text, hrest⟩
          · exact .inl (by simpa [hsame] using hsilent)
        · rintro ⟨⟨words, hwords⟩, hrest⟩
          have hsame : wordsOf members = words := by rw [wordsOf, hwords]
          by_cases hsilent : words = ""
          · obtain hsaid | ⟨text, htext⟩ := hrest
            · rw [hsame, hsilent] at hsaid
              cases hsaid
            · exact ⟨text, words, hwords, by rw [if_neg (by simpa using hsilent)]; exact htext⟩
          · exact ⟨words, words, hwords, if_pos hsilent⟩
      · rw [if_neg hrole, if_neg hrole]
        exact ih
    | _ =>
      constructor
      · rintro ⟨text, htext⟩
        cases htext
      · intro hfalse
        cases hfalse

theorem lastWords_texts (texts : List String) :
    (∃ text, lastWords (texts.map Loaded.str).reverse = .ok text) ↔ texts = [] := by
  rw [lastWords_ok_iff, ← List.map_reverse]
  cases hreverse : texts.reverse with
  | nil =>
    rw [List.reverse_eq_nil_iff.mp hreverse]
    exact ⟨fun _ => rfl, fun _ => rfl⟩
  | cons text rest =>
    constructor
    · intro hfalse
      cases hfalse
    · rintro rfl
      cases hreverse

theorem extractAssistantText_ok_iff {loads : List Char → LoadsOutcome} {stdout : String} :
    (∃ text, extractAssistantText loads stdout = .ok text) ↔
      stdoutReads (loads stdout.toList) = true := by
  unfold extractAssistantText
  cases loads stdout.toList with
  | decodeError => exact ⟨fun _ => rfl, fun _ => ⟨_, rfl⟩⟩
  | raised e =>
    constructor
    · rintro ⟨text, htext⟩
      cases htext
    · intro hfalse
      cases hfalse
  | value printed =>
    cases printed with
    | obj payload =>
      simp only [stdoutReads, Except.bind_ok_iff]
      generalize (payload.lookup "messages").getD (.arr []) = messages
      cases messages with
      | arr items =>
        rw [← lastWords_ok_iff]
        constructor
        · rintro ⟨text, reversed, hreversed, htext⟩
          obtain rfl := Except.ok.inj hreversed
          exact ⟨text, htext⟩
        · rintro ⟨text, htext⟩
          exact ⟨text, _, rfl, htext⟩
      | str text =>
        have h := lastWords_texts (text.toList.map String.singleton)
        rw [List.map_map, List.map_eq_nil_iff, string_toList_eq_nil] at h
        rw [beq_iff_eq, ← h]
        constructor
        · rintro ⟨text', reversed, hreversed, htext⟩
          obtain rfl := Except.ok.inj hreversed
          exact ⟨text', htext⟩
        · rintro ⟨text', htext⟩
          exact ⟨text', _, rfl, htext⟩
      | obj inner =>
        have h := lastWords_texts (inner.map Prod.fst)
        rw [List.map_map, List.map_eq_nil_iff] at h
        rw [List.isEmpty_iff, ← h]
        constructor
        · rintro ⟨text, reversed, hreversed, htext⟩
          obtain rfl := Except.ok.inj hreversed
          exact ⟨text, htext⟩
        · rintro ⟨text, htext⟩
          exact ⟨text, _, rfl, htext⟩
      | _ =>
        constructor
        · rintro ⟨text, reversed, hreversed, -⟩
          cases hreversed
        · intro hfalse
          cases hfalse
    | _ =>
      constructor
      · rintro ⟨text, htext⟩
        cases htext
      · intro hfalse
        cases hfalse

variable {parsed : LoadedDict}

theorem proposedConfidence_ok_iff {reading : TextReading} :
    (∃ confidence, proposedConfidence reading parsed = .ok confidence) ↔
      confidenceReads reading parsed = true := by
  unfold proposedConfidence confidenceReads
  cases (parsed.lookup "confidence").getD (.float 0.55) with
  | int n =>
    simp only [Number.toDouble]
    cases Binary64.nearest n <;> simp
  | str text => cases h : reading.float text <;> simp [h, valueError]
  | _ => simp [typeError]

theorem proposedRisk_ok_iff :
    (∃ riskLevel, proposedRisk parsed = .ok riskLevel) ↔ riskReads parsed = true := by
  unfold proposedRisk riskReads
  cases (parsed.lookup "risk_level").getD (.str "medium") <;> simp [typeError]

theorem validateAndClamp_cases (parsed : LoadedDict) :
    (∃ spec ∈ actionAllowlist, ∃ parameters,
      (∀ key ∈ spec.required, (parameters.lookup key).isSome = true) ∧ Reaches parsed ∧
        validateAndClamp reading parsed = matchOf reading spec parsed parameters) ∨
      ¬ Reaches parsed ∧
        ∃ riskFlag, validateAndClamp reading parsed = .ok (refused riskFlag) := by
  by_cases hreaches : Reaches parsed
  · obtain ⟨spec, hspec, hsystem, haction, parameters, hparameters, hrequired⟩ := hreaches
    refine .inl ⟨spec, hspec, parameters, hrequired,
      ⟨spec, hspec, hsystem, haction, parameters, hparameters, hrequired⟩, ?_⟩
    have hlisted : (actionAllowlist.find? fun other =>
        other.system == spec.system && other.action == spec.action) = some spec := by
      have hall : ∀ each ∈ actionAllowlist, (actionAllowlist.find? fun other =>
          other.system == each.system && other.action == each.action) = some each := by decide
      exact hall spec hspec
    have hgiven : (spec.required.all fun key => (parameters.lookup key).isSome) = true :=
      List.all_eq_true.mpr hrequired
    simp only [validateAndClamp, hsystem, haction, hlisted, hparameters, hgiven, if_true]
  · refine .inr ⟨hreaches, ?_⟩
    unfold validateAndClamp
    split
    · next system action hsystem haction =>
      split
      · exact ⟨_, rfl⟩
      · next spec hlisted =>
        split
        · next parameters hparameters =>
          split
          · next hrequired =>
            have hsame := List.find?_some hlisted
            simp only [Bool.and_eq_true, beq_iff_eq] at hsame
            exact absurd ⟨spec, List.mem_of_find?_eq_some hlisted, by rw [hsame.1]; exact hsystem,
              by rw [hsame.2]; exact haction, parameters, hparameters,
              List.all_eq_true.mp hrequired⟩ hreaches
          · exact ⟨_, rfl⟩
        · exact ⟨_, rfl⟩
    · exact ⟨_, rfl⟩

theorem matchOf_ok_iff {reading : TextReading} :
    (∃ outcome, matchOf reading spec parsed parameters = .ok outcome) ↔
      confidenceReads reading parsed = true ∧ riskReads parsed = true := by
  rw [← proposedConfidence_ok_iff, ← proposedRisk_ok_iff]
  simp only [matchOf, Except.bind_ok_iff]
  constructor
  · rintro ⟨outcome, confidence, hconfidence, riskLevel, hrisk, -⟩
    exact ⟨⟨confidence, hconfidence⟩, riskLevel, hrisk⟩
  · rintro ⟨⟨confidence, hconfidence⟩, riskLevel, hrisk⟩
    exact ⟨_, confidence, hconfidence, riskLevel, hrisk, rfl⟩

theorem validateAndClamp_ok_iff {reading : TextReading} :
    (∃ outcome, validateAndClamp reading parsed = .ok outcome) ↔ AnswerReads reading parsed := by
  obtain ⟨spec, -, parameters, -, hreaches, heq⟩ | ⟨hreaches, riskFlag, heq⟩ :=
    validateAndClamp_cases reading parsed
  · rw [heq, matchOf_ok_iff]
    exact ⟨fun h _ => h, fun h => h hreaches⟩
  · rw [heq]
    exact ⟨fun _ h => absurd h hreaches, fun _ => ⟨_, rfl⟩⟩

theorem isSome_lookup_clampAll {key : String} (hknown : key ∈ spec.required)
    (h : (parameters.lookup key).isSome = true) :
    ((clampAll spec.numericBounds (spec.known parameters)).lookup key).isSome = true := by
  rw [List.lookup_isSome_iff] at h ⊢
  obtain ⟨given, hgiven, hkey⟩ := h
  obtain rfl := eq_of_beq hkey
  have hkept : given ∈ spec.known parameters :=
    List.mem_filter.mpr ⟨hgiven, by simp [hknown]⟩
  refine ⟨_, List.mem_map_of_mem hkept, ?_⟩
  split <;> exact beq_self_eq_true _

/-- A result names a match that the allowlist knows, with all it requires, or a flag. -/
structure Structured (result : LlmProposalResult) : Prop where
  flagged : result.found = none → result.riskFlags ≠ []
  contract : ∀ ruleMatch, result.found = some ruleMatch →
    ∃ spec ∈ actionAllowlist, ruleMatch.system = spec.system ∧ ruleMatch.action = spec.action ∧
      ∀ key ∈ spec.required, (ruleMatch.parameters.lookup key).isSome = true

theorem structured_flag (riskFlag : String) (raw : Option String) :
    Structured ⟨none, [riskFlag], raw⟩ := by
  refine ⟨fun _ => List.cons_ne_nil _ _, ?_⟩
  intro ruleMatch hfound
  cases hfound

theorem structured_of_validated {reading : TextReading}
    (h : validateAndClamp reading parsed = .ok outcome) (raw : Option String) :
    Structured ⟨outcome.found, outcome.riskFlags, raw⟩ := by
  obtain ⟨spec, hspec, parameters, hrequired, -, heq⟩ | ⟨-, riskFlag, heq⟩ :=
    validateAndClamp_cases reading parsed
  · rw [heq] at h
    simp only [matchOf, Except.bind_ok_iff] at h
    obtain ⟨confidence, -, riskLevel, -, houtcome⟩ := h
    obtain rfl := Except.ok.inj houtcome
    refine ⟨fun hnone => absurd hnone (Option.some_ne_none _), ?_⟩
    intro ruleMatch hfound
    obtain rfl := Option.some.inj hfound
    exact ⟨spec, hspec, rfl, rfl, fun key hkey =>
      isSome_lookup_clampAll hkey (hrequired key hkey)⟩
  · rw [heq] at h
    obtain rfl := Except.ok.inj h
    exact structured_flag riskFlag raw

/-- Loading raises nothing but a `JSONDecodeError`. -/
def quiet : LoadsOutcome → Bool
  | .raised _ => false
  | _ => true

def answerLoads (text : String) : Bool :=
  let stripped := (pyStrip text).toList
  match loads stripped with
  | .value _ => true
  | .raised _ => false
  | .decodeError =>
    match fenced stripped, braced stripped with
    | some inside, _ => quiet (loads inside)
    | none, some body => quiet (loads body)
    | none, none => true

theorem settled_ok_iff {outcome : LoadsOutcome} :
    (∃ parsed, settled outcome = .ok parsed) ↔ quiet outcome = true := by
  cases outcome <;> simp [settled, quiet]

theorem parseAnswer_ok_iff {loads : List Char → LoadsOutcome} :
    (∃ parsed, parseAnswer loads text = .ok parsed) ↔ answerLoads loads text = true := by
  simp only [parseAnswer, answerLoads]
  generalize (pyStrip text).toList = stripped
  cases hloads : loads stripped with
  | value loaded | raised e => simp
  | decodeError =>
    cases hfenced : fenced stripped with
    | some inside => exact settled_ok_iff
    | none =>
      cases hbraced : braced stripped with
      | some body => exact settled_ok_iff
      | none => simp

def Judgeable : Option Loaded → Prop
  | none | some .null => True
  | some (.obj parsed) => AnswerReads reading parsed
  | some _ => False

theorem judged_ok_iff {reading : TextReading} {parsed : Option Loaded} :
    (∃ outcome, judged reading parsed = .ok outcome) ↔ Judgeable reading parsed := by
  cases parsed with
  | none => exact ⟨fun _ => trivial, fun _ => ⟨_, rfl⟩⟩
  | some value =>
    cases value with
    | null => exact ⟨fun _ => trivial, fun _ => ⟨_, rfl⟩⟩
    | obj members => exact validateAndClamp_ok_iff
    | _ =>
      constructor
      · rintro ⟨outcome, houtcome⟩
        cases houtcome
      · exact False.elim

theorem structured_of_judged {reading : TextReading} {parsed : Option Loaded}
    (h : judged reading parsed = .ok outcome) (raw : Option String) :
    Structured ⟨outcome.found, outcome.riskFlags, raw⟩ := by
  cases parsed with
  | none =>
    obtain rfl := Except.ok.inj h
    exact structured_flag _ _
  | some value =>
    cases value with
    | null =>
      obtain rfl := Except.ok.inj h
      exact structured_flag _ _
    | obj members => exact structured_of_validated h raw
    | _ => cases h

theorem buildPrompt_ok_iff {dumps : Json → String} {view : Dict} :
    (∃ prompt, buildPrompt dumps view = .ok prompt) ↔ viewReads view = true := by
  simp only [buildPrompt, promptBody, Except.bind_ok_iff, viewReads]
  cases getOr view "related_metrics" (.arr []) <;> simp [firstTen, typeError, pure, Except.pure]

/-- Everything that is read on the way to a result reads. -/
def WayReads (view : Dict) : Prop :=
  proposer.llmDecisionFallbackEnabled = true → proposer.gooseCommand ≠ "" →
    viewReads view = true ∧
      ∀ prompt stdout, buildPrompt proposer.dumps view = .ok prompt →
        proposer.goose prompt = .finished 0 stdout →
        stdoutReads (proposer.loads stdout.toList) = true ∧
          ∀ raw, extractAssistantText proposer.loads stdout = .ok raw → raw ≠ "" →
            answerLoads proposer.loads raw = true ∧
              ∀ parsed, parseAnswer proposer.loads raw = .ok parsed →
                Judgeable proposer.reading parsed

theorem answered_iff {proposer : LlmActionProposer} {raw : String} :
    (∃ result, (do
        let parsed ← parseAnswer proposer.loads raw
        let outcome ← judged proposer.reading parsed
        return (⟨outcome.found, outcome.riskFlags, some raw⟩ : LlmProposalResult)) = .ok result ∧
      Structured result) ↔
      answerLoads proposer.loads raw = true ∧
        ∀ parsed, parseAnswer proposer.loads raw = .ok parsed →
          Judgeable proposer.reading parsed := by
  rw [← parseAnswer_ok_iff]
  simp only [Except.bind_ok_iff, ← judged_ok_iff]
  constructor
  · rintro ⟨result, ⟨parsed, hparsed, outcome, houtcome, -⟩, -⟩
    refine ⟨⟨parsed, hparsed⟩, ?_⟩
    intro other hother
    rw [hparsed] at hother
    obtain rfl := Except.ok.inj hother
    exact ⟨outcome, houtcome⟩
  · rintro ⟨⟨parsed, hparsed⟩, hjudged⟩
    obtain ⟨outcome, houtcome⟩ := hjudged parsed hparsed
    exact ⟨_, ⟨parsed, hparsed, outcome, houtcome, rfl⟩, structured_of_judged houtcome (some raw)⟩

theorem invokeGoose_cases (prompt : String) :
    (∃ riskFlag, invokeGoose proposer prompt = .ok (.error riskFlag) ∧
      ∀ stdout, proposer.goose prompt ≠ .finished 0 stdout) ∨
    ∃ stdout, proposer.goose prompt = .finished 0 stdout ∧
      invokeGoose proposer prompt = (do
        let text ← extractAssistantText proposer.loads stdout
        return if text = "" then .error "llm_empty_response" else .ok text) := by
  unfold invokeGoose
  cases hgoose : proposer.goose prompt with
  | timedOut | notRunnable => exact .inl ⟨_, rfl, fun stdout hfinished => by cases hfinished⟩
  | finished returncode stdout =>
    by_cases hcode : returncode = 0
    · subst hcode
      exact .inr ⟨stdout, rfl, rfl⟩
    · refine .inl ⟨"llm_subprocess_error", if_pos hcode, ?_⟩
      intro other hfinished
      cases hfinished
      exact hcode rfl

/-- **When the fallback answers.**  The proposer returns a structured result exactly where
everything reads that is read on the way to it. -/
theorem propose_answers_iff (view : Dict) :
    (∃ result, propose proposer view = .ok result ∧ Structured result) ↔
      WayReads proposer view := by
  unfold propose WayReads
  by_cases henabled : proposer.llmDecisionFallbackEnabled = true
  · by_cases hcommand : proposer.gooseCommand = ""
    · rw [if_neg (by simp [henabled]), if_pos hcommand]
      exact ⟨fun _ _ hne => absurd hcommand hne, fun _ => ⟨_, rfl, structured_flag _ _⟩⟩
    · rw [if_neg (by simp [henabled]), if_neg hcommand, ← buildPrompt_ok_iff]
      simp only [henabled, ne_eq, hcommand, not_false_eq_true, forall_const]
      cases buildPrompt proposer.dumps view with
      | error e =>
        constructor
        · rintro ⟨result, hresult, -⟩
          cases hresult
        · rintro ⟨⟨prompt, hprompt⟩, -⟩
          cases hprompt
      | ok prompt =>
        obtain ⟨riskFlag, hinvoke, hnone⟩ | ⟨stdout, hgoose, hinvoke⟩ :=
          invokeGoose_cases proposer prompt
        · simp only [ok_bind, hinvoke]
          refine ⟨fun _ => ⟨⟨prompt, rfl⟩, ?_⟩, fun _ => ⟨_, rfl, structured_flag _ _⟩⟩
          intro other stdout hother hfinished
          obtain rfl := Except.ok.inj hother
          exact absurd hfinished (hnone stdout)
        · simp only [ok_bind, hinvoke]
          have hway : ((∃ built, (Except.ok prompt : Except PyError String) = .ok built) ∧
              ∀ built printed, (Except.ok prompt : Except PyError String) = .ok built →
                proposer.goose built = .finished 0 printed →
                stdoutReads (proposer.loads printed.toList) = true ∧
                  ∀ raw, extractAssistantText proposer.loads printed = .ok raw → ¬ raw = "" →
                    answerLoads proposer.loads raw = true ∧
                      ∀ parsed, parseAnswer proposer.loads raw = .ok parsed →
                        Judgeable proposer.reading parsed) ↔
              (∃ text, extractAssistantText proposer.loads stdout = .ok text) ∧
                ∀ raw, extractAssistantText proposer.loads stdout = .ok raw → ¬ raw = "" →
                  answerLoads proposer.loads raw = true ∧
                    ∀ parsed, parseAnswer proposer.loads raw = .ok parsed →
                      Judgeable proposer.reading parsed := by
            rw [extractAssistantText_ok_iff]
            constructor
            · rintro ⟨-, hall⟩
              exact hall prompt stdout rfl hgoose
            · intro hall
              refine ⟨⟨prompt, rfl⟩, ?_⟩
              intro built printed hbuilt hprinted
              obtain rfl := Except.ok.inj hbuilt
              rw [hgoose] at hprinted
              cases hprinted
              exact hall
          rw [hway]
          cases hextract : extractAssistantText proposer.loads stdout with
          | error e =>
            constructor
            · rintro ⟨result, hresult, -⟩
              cases hresult
            · rintro ⟨⟨text, htext⟩, -⟩
              cases htext
          | ok raw =>
            simp only [ok_bind, Except.ok.injEq, exists_eq', true_and, forall_eq']
            by_cases hempty : raw = ""
            · simp only [hempty, if_true]
              exact ⟨fun _ hne => absurd trivial hne, fun _ => ⟨_, rfl, structured_flag _ _⟩⟩
            · simp only [hempty, if_false, not_false_eq_true, forall_const]
              exact answered_iff
  · rw [if_pos (by simp [henabled])]
    exact ⟨fun _ h => absurd h henabled, fun _ => ⟨_, rfl, structured_flag _ _⟩⟩

def listPrinting : LlmActionProposer where
  llmDecisionFallbackEnabled := true
  gooseCommand := "goose"
  dumps := fun _ => ""
  goose := fun _ => .finished 0 "[]"
  loads := fun text => if text = ['[', ']'] then .value (.arr []) else .decodeError
  reading := ⟨fun _ => none, fun _ => none⟩

/-- The proposer raises where goose prints a list. -/
theorem printed_list_raises :
    propose listPrinting [] = noGet (.arr []) ∧
      ¬ ∃ result, propose listPrinting [] = .ok result ∧ Structured result := by
  have hraises : propose listPrinting [] = noGet (.arr []) := rfl
  refine ⟨hraises, ?_⟩
  rintro ⟨result, hresult, -⟩
  cases hresult

end OrbitalMesh.Decision
