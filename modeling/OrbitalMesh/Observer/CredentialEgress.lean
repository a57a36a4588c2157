import OrbitalMesh.Decision.Trigger
import OrbitalMesh.Observer.Redaction
import Mathlib.Data.List.Sort

/-!
# The verifier of credential egress

`verify_credential_egress_policy` looks for raw secrets in what agents put out.  Outputs,
exports and the environment of the sandbox are searched in one JSON text, in which characters
are escaped; what is not of the expected type is left out of it.
-/

namespace OrbitalMesh.CredentialEgress

open OrbitalMesh.Decision

/-- The escape of a UTF-16 code unit. -/
def unicodeEscape (unit : Nat) : List Char :=
  '\\' :: 'u' :: [unit / 4096, unit / 256 % 16, unit / 16 % 16, unit % 16].map Nat.digitChar

def escapeChar (c : Char) : List Char :=
  let n := c.toNat
  if c = '"' ∨ c = '\\' then ['\\', c]
  else if c = '\n' then ['\\', 'n']
  else if c = '\r' then ['\\', 'r']
  else if c = '\t' then ['\\', 't']
  else if n = 0x0C then ['\\', 'f']
  else if n = 0x08 then ['\\', 'b']
  else if 0x20 ≤ n ∧ n < 0x7F then [c]
  else if n < 0x10000 then unicodeEscape n
  else unicodeEscape (0xD800 + (n - 0x10000) / 0x400) ++
    unicodeEscape (0xDC00 + (n - 0x10000) % 0x400)

def escapeText (text : String) : List Char := text.toList.flatMap escapeChar

def quoted (text : String) : List Char := '"' :: escapeText text ++ ['"']

mutual

/-- `json.dumps(value, sort_keys=True)`. -/
def dumps : Json → List Char
  | .null => "null".toList
  | .bool b => (if b then "true" else "false").toList
  | .int n => (toString n).toList
  | .float neg mant exp => (floatRepr neg mant exp).toList
  | .str text => quoted text
  | .arr items => '[' :: [',', ' '].intercalate (dumpsItems items) ++ [']']
  | .obj members =>
    let sorted := (dumpsMembers members).insertionSort fun a b => Json.keyLe a.1 b.1 = true
    "\x7b".toList ++
      [',', ' '].intercalate (sorted.map fun member => quoted member.1 ++ [':', ' '] ++ member.2) ++
      "\x7d".toList

def dumpsItems : List Json → List (List Char)
  | [] => []
  | item :: rest => dumps item :: dumpsItems rest

def dumpsMembers : List (String × Json) → List (String × List Char)
  | [] => []
  | (key, value) :: rest => (key, dumps value) :: dumpsMembers rest

end

structure EgressCall where
  policy : Json
  agentAttemptOutputs : Json := .null
  sandboxLogs : Json := .null
  exportedArtifacts : Json := .null
  rawSecretValues : List String := []
  proxyRuntime : Json := .null
  egressAuditEvents : Json := .null
  requireProxyRuntime : Bool := false

def dictList : Json → List Dict
  | .arr items => items.filterMap Json.asObj?
  | _ => []

def textList : Json → List String
  | .arr items => items.filterMap fun item => match item with
    | .str text => some text
    | _ => none
  | _ => []

def nonEmptyStringList (value : Json) : Bool := (textList value).any fun text => !isBlank text

section

variable (call : EgressCall)

def EgressCall.policyDict : Dict := call.policy.asObj?.getD []

def EgressCall.records : List Dict := dictList (getOr call.policyDict "records" .null)

def EgressCall.proof : Dict := (getOr call.policyDict "proof" .null).asObj?.getD []

/-- An argument, or what the proof of the policy has in its place. -/
def EgressCall.given (argument : Json) (key : String) : Json :=
  if argument = .null then getOr call.proof key .null else argument

def EgressCall.outputs : Json := call.given call.agentAttemptOutputs "agent_attempt_outputs"

def EgressCall.logs : Json := call.given call.sandboxLogs "sandbox_logs"

def EgressCall.exports : Json := call.given call.exportedArtifacts "exported_artifacts"

def EgressCall.runtime : Json := call.given call.proxyRuntime "proxy_runtime"

def EgressCall.runtimeDict : Dict := call.runtime.asObj?.getD []

def EgressCall.sandboxEnv : Json := getOr call.runtimeDict "sandbox_env" .null

/-- `list(raw_secret_values or proof.get("raw_secret_fixture_values") or [])`. -/
def EgressCall.rawSecrets : Except PyError (List Json) :=
  if call.rawSecretValues ≠ [] then .ok (call.rawSecretValues.map .str)
  else
    match getOr call.proof "raw_secret_fixture_values" .null with
    | .arr items => .ok items
    | .obj members => .ok (members.map fun member => .str member.1)
    | .str text => .ok (text.toList.map fun c => .str (String.ofList [c]))
    | value => if truthy value then typeError ("'" ++ typeName value ++ "' object is not iterable")
      else .ok []

end

/-- `any(secret and secret in text for secret in secrets)`. -/
def anyFound (text : List Char) : List Json → Except PyError Bool
  | [] => .ok false
  | .str secret :: rest =>
    if secret ≠ "" ∧ secret.toList <:+: text then .ok true else anyFound text rest
  | value :: rest =>
    if truthy value then
      typeError ("'in <string>' requires string as left operand, not " ++ typeName value)
    else anyFound text rest

def allowedLocationPresent (record : Dict) : Bool :=
  ["header", "query", "path"].any fun key =>
    nonEmptyStringList (getOr ((getOr record "allowed_locations" .null).asObj?.getD []) key .null)

def proxyRuntimePresent (runtime : Dict) : Bool :=
  ["iron-proxy", "credential-egress-proxy"].contains
    (textOrEmpty runtime (if truthyAt runtime "runtime" then "runtime" else "type"))

def proxyRuntimeLiveAuditProven (runtime : Dict) : Bool :=
  runtime.get? "proof_mode" == some (.str "live_proxy_audit") &&
    !isBlank (textOrEmpty runtime "proxy_instance_id") &&
    !isBlank (textOrEmpty runtime "last_audit_event_id")

def proxyRuntimeHostBound (runtime : Dict) : Bool :=
  runtime.get? "sandbox_placeholder_only" == some (.bool true) &&
    runtime.get? "host_bound_substitution" == some (.bool true) &&
    nonEmptyStringList (getOr runtime "allowed_hosts" .null)

def egressAuditEventsCoverPolicy (records auditEvents : List Dict) : Bool :=
  let required := (records.map (textOrEmpty · "egress_audit_event_id")).filter (· ≠ "")
  !required.isEmpty && required.all (auditEvents.map (textOrEmpty · "event_id")).contains

variable (call : EgressCall)

/-- The environment is searched where the runtime is required and has one. -/
def EgressCall.searchEnv (secrets : List Json) : Except PyError Bool :=
  if call.requireProxyRuntime ∧ call.sandboxEnv.asObj?.isSome then
    anyFound (dumps call.sandboxEnv) secrets
  else .ok false

/-- The text that outputs and exports are searched in. -/
def searchedText (value : Json) : List Char := dumps (.arr ((dictList value).map .obj))

structure EgressVerification where
  status : String
  checks : List (String × Bool)
  recordCount : Nat

def verifyCredentialEgressPolicy : Except PyError EgressVerification := do
  let records := call.records
  let secrets ← call.rawSecrets
  let inOutputs ← anyFound (searchedText call.outputs) secrets
  let inLogs ← anyFound (['\n'].intercalate ((textList call.logs).map String.toList)) secrets
  let inExports ← anyFound (searchedText call.exports) secrets
  let unlessRequired (check : Dict → Bool) : Bool :=
    !call.requireProxyRuntime || (call.runtime.asObj?.map check).getD false
  let inEnv ← call.searchEnv secrets
  let checks := [
    ("policy_present", call.policy.asObj?.isSome),
    ("schema_version_matches", call.policyDict.get? "schema_version" ==
      some (.str "mesh.credential_egress_policy.v1")),
    ("records_present", !records.isEmpty),
    ("secret_name_present", records.all fun record => !isBlank (textOrEmpty record "secret_name")),
    ("allowed_hosts_present",
      records.all fun record => nonEmptyStringList (getOr record "allowed_hosts" .null)),
    ("allowed_location_present", records.all allowedLocationPresent),
    ("sandbox_placeholder_only",
      records.all fun record => record.get? "sandbox_placeholder_only" == some (.bool true)),
    ("egress_audit_event_id_present",
      records.all fun record => !isBlank (textOrEmpty record "egress_audit_event_id")),
    ("no_raw_secret_in_attempt_output", !inOutputs),
    ("no_raw_secret_in_sandbox_logs", !inLogs),
    ("no_raw_secret_in_exports", !inExports),
    ("proxy_runtime_present", unlessRequired proxyRuntimePresent),
    ("proxy_runtime_live_audit_proven", unlessRequired proxyRuntimeLiveAuditProven),
    ("proxy_runtime_host_bound", unlessRequired proxyRuntimeHostBound),
    ("proxy_runtime_forbids_raw_secret_env", unlessRequired fun _ => !inEnv),
    ("egress_audit_events_present", !call.requireProxyRuntime ||
      egressAuditEventsCoverPolicy records
        (dictList (call.given call.egressAuditEvents "egress_audit_events")))]
  return {
    status := if checks.all Prod.snd then "pass" else "fail"
    checks
    recordCount := records.length }

/-- The text is a key or a value in the value. -/
inductive Says : Json → String → Prop
  | text (text : String) : Says (.str text) text
  | item {items : List Json} {item : Json} {text : String} (hitem : item ∈ items)
      (h : Says item text) : Says (.arr items) text
  | key {members : Dict} {member : String × Json} (hmember : member ∈ members) :
      Says (.obj members) member.1
  | member {members : Dict} {member : String × Json} {text : String} (hmember : member ∈ members)
      (h : Says member.2 text) : Says (.obj members) text

variable (secret : String)

/-- The secret is inside a key or a value. -/
def Leaks (value : Json) : Prop :=
  ∃ text, Says value text ∧ secret.toList <:+: text.toList

/-- The secret is inside the escape of a key or a value. -/
def Shows (value : Json) : Prop :=
  ∃ text, Says value text ∧ secret.toList <:+: escapeText text

def HostsBound : Prop :=
  call.requireProxyRuntime = true → ∀ record ∈ call.records,
    ∀ host ∈ textList (getOr record "allowed_hosts" .null),
      host ∈ textList (getOr call.runtimeDict "allowed_hosts" .null)

/-- What a pass stands for. -/
def Sealed : Prop :=
  (∀ secret ∈ call.rawSecretValues,
    ∀ value ∈ [call.outputs, call.logs, call.exports, call.sandboxEnv], ¬ Leaks secret value) ∧
  HostsBound call

/-- A secret is where it is looked for, and as it is looked for. -/
structure Exposed : Prop where
  outputs : Leaks secret call.outputs → Shows secret (.arr ((dictList call.outputs).map .obj))
  logs : Leaks secret call.logs → ∃ text ∈ textList call.logs, secret.toList <:+: text.toList
  exports : Leaks secret call.exports → Shows secret (.arr ((dictList call.exports).map .obj))
  env : Leaks secret call.sandboxEnv → call.requireProxyRuntime = true ∧
    call.sandboxEnv.asObj?.isSome = true ∧ Shows secret call.sandboxEnv

theorem dumpsItems_eq_map (items : List Json) : dumpsItems items = items.map dumps := by
  induction items with
  | nil => rfl
  | cons item rest ih => rw [dumpsItems, ih, List.map_cons]

theorem dumpsMembers_eq_map (members : Dict) :
    dumpsMembers members = members.map fun member => (member.1, dumps member.2) := by
  induction members with
  | nil => rfl
  | cons member rest ih => rw [dumpsMembers, ih, List.map_cons]

theorem infix_intercalate {α : Type} {separator piece : List α} {pieces : List (List α)}
    (h : piece ∈ pieces) : piece <:+: separator.intercalate pieces := by
  induction pieces with
  | nil => cases h
  | cons first rest ih =>
    cases rest with
    | nil =>
      rw [List.mem_singleton.mp h]
      simp [List.intercalate]
    | cons second rest =>
      have hcons : separator.intercalate (first :: second :: rest) =
          first ++ separator ++ separator.intercalate (second :: rest) := by
        simp [List.intercalate, List.intersperse]
      rw [hcons]
      rcases List.mem_cons.mp h with rfl | hrest
      · exact ((List.prefix_append _ _).trans (List.prefix_append _ _)).isInfix
      · exact (ih hrest).trans (List.suffix_append _ _).isInfix

/-- What a value says is, escaped, in its dump. -/
theorem Says.infix_dumps {value : Json} {text : String} (h : Says value text) :
    escapeText text <:+: dumps value := by
  have hquoted (text : String) : escapeText text <:+: quoted text := ⟨['"'], ['"'], rfl⟩
  have hmember {members : Dict} {member : String × Json} (hmember : member ∈ members) :
      quoted member.1 ++ [':', ' '] ++ dumps member.2 <:+: dumps (.obj members) := by
    rw [dumps, dumpsMembers_eq_map]
    refine List.IsInfix.trans ?_ (List.infix_append _ _ _)
    refine infix_intercalate (List.mem_map.mpr ⟨(member.1, dumps member.2), ?_, rfl⟩)
    exact (List.mem_insertionSort _).mpr (List.mem_map.mpr ⟨member, hmember, rfl⟩)
  induction h with
  | text text => exact hquoted text
  | item hitem _ ih =>
    rw [dumps, dumpsItems_eq_map]
    exact (ih.trans (infix_intercalate (List.mem_map_of_mem hitem))).trans ⟨['['], [']'], rfl⟩
  | key h =>
    refine (hquoted _).trans (List.IsInfix.trans ?_ (hmember h))
    exact ((List.prefix_append _ _).trans (List.prefix_append _ _)).isInfix
  | member h _ ih => exact ih.trans ((List.suffix_append _ _).isInfix.trans (hmember h))

theorem not_infix_of_anyFound {text : List Char} {secrets : List Json} {secret : String}
    (h : anyFound text secrets = .ok false) (hmem : .str secret ∈ secrets) (hne : secret ≠ "") :
    ¬ secret.toList <:+: text := by
  fun_induction anyFound text secrets with
  | case1 => cases hmem
  | case2 => cases h
  | case3 other rest hother ih =>
    rcases List.mem_cons.mp hmem with heq | hrest
    · cases heq
      exact fun hfound => hother ⟨hne, hfound⟩
    · exact ih h hrest
  | case4 => cases h
  | case5 value rest hvalue _ ih =>
    refine ih h ((List.mem_cons.mp hmem).resolve_left ?_)
    rintro rfl
    exact hvalue _ rfl

section

variable {call : EgressCall} {v : EgressVerification}

theorem searched_of_pass (h : verifyCredentialEgressPolicy call = .ok v)
    (hpass : v.status = "pass") :
    ∃ secrets, call.rawSecrets = .ok secrets ∧
      anyFound (searchedText call.outputs) secrets = .ok false ∧
      anyFound (['\n'].intercalate ((textList call.logs).map String.toList)) secrets = .ok false ∧
      anyFound (searchedText call.exports) secrets = .ok false ∧
      (call.requireProxyRuntime = true → call.sandboxEnv.asObj?.isSome = true →
        anyFound (dumps call.sandboxEnv) secrets = .ok false) := by
  obtain ⟨secrets, hsecrets, h⟩ := bind_ok h
  obtain ⟨inOutputs, houtputs, h⟩ := bind_ok h
  obtain ⟨inLogs, hlogs, h⟩ := bind_ok h
  obtain ⟨inExports, hexports, h⟩ := bind_ok h
  obtain ⟨inEnv, henv, h⟩ := bind_ok h
  cases h
  have hchecks := of_not_not fun hfailed => absurd ((if_neg hfailed).symm.trans hpass) (by decide)
  simp only [List.all_cons, List.all_nil, Bool.and_eq_true, Bool.not_eq_true', Bool.or_eq_true]
    at hchecks
  obtain ⟨-, -, -, -, -, -, -, -, rfl, rfl, rfl, -, -, -, hsandbox, -⟩ := hchecks
  refine ⟨secrets, hsecrets, houtputs, hlogs, hexports, fun hrequired hdict => ?_⟩
  rw [EgressCall.searchEnv, if_pos ⟨hrequired, hdict⟩] at henv
  cases hruntime : call.runtime.asObj? with
  | none => simp [hrequired, hruntime] at hsandbox
  | some runtime =>
    obtain rfl : inEnv = false := by simpa [hrequired, hruntime] using hsandbox
    exact henv

/-- **A pass is a seal** exactly where every secret in the material is inside an escaped text that
is searched, and every host of a record is one of the proxy's. -/
theorem sealed_iff (hsecrets : ∀ secret ∈ call.rawSecretValues, secret ≠ "")
    (h : verifyCredentialEgressPolicy call = .ok v) (hpass : v.status = "pass") :
    Sealed call ↔ (∀ secret ∈ call.rawSecretValues, Exposed call secret) ∧ HostsBound call := by
  refine and_congr_left fun _ => forall₂_congr fun secret hsecret => ?_
  obtain ⟨secrets, hraw, houtputs, hlogs, hexports, henv⟩ := searched_of_pass h hpass
  have hmem : .str secret ∈ secrets := by
    rw [EgressCall.rawSecrets, if_pos (List.ne_nil_of_mem hsecret)] at hraw
    cases hraw
    exact List.mem_map_of_mem hsecret
  have hhidden {text : List Char} (hsearch : anyFound text secrets = .ok false) :
      ¬ secret.toList <:+: text := not_infix_of_anyFound hsearch hmem (hsecrets secret hsecret)
  have hunshown {value : Json} (hsearch : anyFound (dumps value) secrets = .ok false) :
      ¬ Shows secret value := fun ⟨_, hsays, hfound⟩ =>
    hhidden hsearch (hfound.trans hsays.infix_dumps)
  simp only [List.forall_mem_cons, List.not_mem_nil, false_imp_iff, implies_true, and_true]
  constructor
  · rintro ⟨hout, hlog, hexport, hbox⟩
    exact ⟨(absurd · hout), (absurd · hlog), (absurd · hexport), (absurd · hbox)⟩
  · intro hexposed
    refine ⟨fun hleak => hunshown houtputs (hexposed.outputs hleak), fun hleak => ?_,
      fun hleak => hunshown hexports (hexposed.exports hleak), fun hleak => ?_⟩
    · obtain ⟨text, htext, hfound⟩ := hexposed.logs hleak
      exact hhidden hlogs (hfound.trans (infix_intercalate (List.mem_map_of_mem htext)))
    · obtain ⟨hrequired, hdict, hshown⟩ := hexposed.env hleak
      exact hunshown (henv hrequired hdict) hshown

end

def githubRecord : Dict :=
  [("secret_name", .str "GITHUB_TOKEN"), ("allowed_hosts", .arr [.str "api.github.com"]),
    ("allowed_locations", .obj [("header", .arr [.str "Authorization"])]),
    ("sandbox_placeholder_only", .bool true), ("egress_audit_event_id", .str "evt_egress_1")]

/-- The attempt has put out a secret with a quote in it. -/
def quotingAttempt : EgressCall where
  policy := .obj [("schema_version", .str "mesh.credential_egress_policy.v1"),
    ("records", .arr [.obj githubRecord])]
  agentAttemptOutputs := .arr [.obj [("token", .str "ghp\"real")]]
  rawSecretValues := ["ghp\"real"]

theorem quotingAttempt_passes :
    ∃ v, verifyCredentialEgressPolicy quotingAttempt = .ok v ∧ v.status = "pass" := by
  have hstatus : (verifyCredentialEgressPolicy quotingAttempt).toOption.map (·.status) =
      some "pass" := by decide +kernel
  cases hv : verifyCredentialEgressPolicy quotingAttempt with
  | error e => simp [hv, Except.toOption] at hstatus
  | ok v => exact ⟨v, rfl, by simpa [hv, Except.toOption] using hstatus⟩

theorem not_sealed_quotingAttempt : ¬ Sealed quotingAttempt := by
  intro h
  refine h.1 _ List.mem_cons_self _ List.mem_cons_self ⟨"ghp\"real", ?_, List.infix_rfl⟩
  exact .item List.mem_cons_self (.member List.mem_cons_self (.text _))

/-- Escaped, the secret with the quote is not where it is looked for. -/
theorem quoted_secret_not_exposed : ∃ v, verifyCredentialEgressPolicy quotingAttempt = .ok v ∧
    v.status = "pass" ∧
      ¬ ∀ secret ∈ quotingAttempt.rawSecretValues, Exposed quotingAttempt secret := by
  obtain ⟨v, hv, hpass⟩ := quotingAttempt_passes
  refine ⟨v, hv, hpass, fun hexposed => not_sealed_quotingAttempt ?_⟩
  exact (sealed_iff (by decide) hv hpass).mpr ⟨hexposed, by rintro ⟨⟩⟩

theorem quoted_secret_passes : ¬ ∀ (call : EgressCall) (v : EgressVerification),
    (∀ secret ∈ call.rawSecretValues, secret ≠ "") →
    verifyCredentialEgressPolicy call = .ok v → v.status = "pass" → Sealed call := by
  intro hclaim
  obtain ⟨v, hv, hpass⟩ := quotingAttempt_passes
  exact not_sealed_quotingAttempt (hclaim _ v (by decide) hv hpass)

end OrbitalMesh.CredentialEgress
