import OrbitalMesh.Base.ShellWords
import OrbitalMesh.Runtime

/-!
# Live commands on bare-metal hosts

`SystemdSshAdapter` runs `ssh HOST "[sudo] systemctl VERB UNIT"`.  The host and the
unit come from a decision; both are looked up in an allowlist before a command
line is built.  `EvaluationService` looks the same two up once more when it judges
the decision.
-/

namespace OrbitalMesh.SystemdSsh

/-- The members of `RuntimeConfig` that the adapter reads. -/
structure SshConfig where
  sshExecutionEnabled : Bool
  sshCommand : String
  sshIdentityFile : Option String
  sshConnectTimeoutSeconds : Int
  sshServerAliveIntervalSeconds : Int
  sshServerAliveCountMax : Int
  sshAllowedHosts : List String
  sshAllowedServices : List String

def allowedSystemctlVerbs : List String := ["restart", "start", "stop", "status"]

def allowedDiagCommands : List String := ["df", "free", "uptime"]

variable (host : String)

/-- `host.split("@", 1)[-1]`. -/
def afterFirstAt : String :=
  match host.toList.dropWhile (· ≠ '@') with
  | [] => host
  | _ :: rest => String.ofList rest

/-- `host.split("@", 1)[-1].strip()`. -/
def bareHost : String := pyStrip (afterFirstAt host)

/-- `service if service.endswith(".service") else f"{service}.service"`. -/
def canonicalService (service : String) : String :=
  if ".service".toList <:+ service.toList then service else service ++ ".service"

/-- The text of a `SystemdSshError`. -/
abbrev SshError := String

variable (config : SshConfig) (parameters : Dict)

def requireHost : Except SshError String :=
  match parameters.get? "host" with
  | some (.str host) =>
    if host = "" then .error "missing_parameter: host is required"
    else if config.sshAllowedHosts = [] then
      .error "host_allowlist_empty: set MESH_SSH_ALLOWED_HOSTS before enabling SSH execution"
    else if bareHost host ∉ config.sshAllowedHosts then
      .error ("host_not_allowed: host " ++ pyRepr (bareHost host) ++ " is not in the allowlist")
    else .ok host
  | _ => .error "missing_parameter: host is required"

def requireService : Except SshError String :=
  match parameters.get? "service" with
  | some (.str service) =>
    if service = "" then .error "missing_parameter: service is required"
    else if config.sshAllowedServices = [] then
      .error
        "service_allowlist_empty: set MESH_SSH_ALLOWED_SERVICES before enabling SSH execution"
    else if canonicalService service ∉ config.sshAllowedServices ∧
        service ∉ config.sshAllowedServices then
      .error ("service_not_allowed: service " ++ pyRepr service ++ " is not in the allowlist")
    else .ok service
  | _ => .error "missing_parameter: service is required"

/-- `shlex.quote`. -/
def shlexQuote (word : String) : String := String.ofList (Text.quoteWord word.toList)

def sshOptions : List String :=
  ["-o", "BatchMode=yes", "-o", "StrictHostKeyChecking=yes",
    "-o", "ConnectTimeout=" ++ toString config.sshConnectTimeoutSeconds,
    "-o", "ServerAliveInterval=" ++ toString config.sshServerAliveIntervalSeconds,
    "-o", "ServerAliveCountMax=" ++ toString config.sshServerAliveCountMax] ++
    (match config.sshIdentityFile with
    | some file => if file = "" then [] else ["-i", file]
    | none => [])

/-- `remote_parts`, with a `systemctl` verb or else a diagnostic command. -/
def remoteParts (systemctlVerb systemctlService diagnostic : String)
    (diagnosticArgs : List String) (useSudo : Bool) : Except SshError (List String) :=
  if systemctlVerb ≠ "" then
    .ok ((if useSudo then ["sudo"] else []) ++
      ["systemctl", systemctlVerb, shlexQuote systemctlService])
  else if diagnostic ∉ allowedDiagCommands then
    .error ("diagnostic_not_allowed: " ++ pyRepr diagnostic)
  else .ok (diagnostic :: diagnosticArgs.map shlexQuote)

/-- `_build_ssh_command`.  An absent verb, service or diagnostic is the empty
text. -/
def buildSshCommand (host systemctlVerb systemctlService diagnostic : String)
    (diagnosticArgs : List String) (useSudo : Bool) : Except SshError (List String) := do
  if systemctlVerb ≠ "" ∧ diagnostic ≠ "" then
    throw "command_conflict: cannot combine systemctl and diagnostic"
  if systemctlVerb = "" ∧ diagnostic = "" then
    throw "command_empty: neither systemctl nor diagnostic specified"
  let parts ← remoteParts systemctlVerb systemctlService diagnostic diagnosticArgs useSudo
  let ssh := if config.sshCommand = "" then "ssh" else config.sshCommand
  return [ssh] ++ sshOptions config ++ [host, " ".intercalate parts]

/-- A failure with its reason and detail, a success without a command, a command line for `_run`,
or an escaping `SystemdSshError`. -/
inductive Outcome where
  | failed (reason detail : String)
  | mocked (externalRefs : Dict)
  | issued (command : List String) (action host : String) (service : Option String)
  | raised (error : SshError)

/-- `str(exc).split(":", 1)[0]`. -/
def reasonOf (error : SshError) : String :=
  String.ofList ((Text.beforeFirst [':'] error.toList).getD error.toList)

/-- `bool(parameters.get("use_sudo", use_sudo_default))`. -/
def useSudo (useSudoDefault : Bool) : Bool :=
  ((parameters.get? "use_sudo").map truthy).getD useSudoDefault

def systemctlAction (verb : String)
    (useSudoDefault : Bool) : Outcome :=
  if verb ∉ allowedSystemctlVerbs then
    .failed "systemctl_verb_not_allowed" ("verb=" ++ pyRepr verb ++ " not in allowlist")
  else
    match requireHost config parameters, requireService config parameters with
    | .error error, _ => .failed (reasonOf error) error
    | .ok _, .error error => .failed (reasonOf error) error
    | .ok host, .ok service =>
      let useSudo := useSudo parameters useSudoDefault
      if config.sshExecutionEnabled then
        match buildSshCommand config host verb service "" [] useSudo with
        | .ok command => .issued command (verb ++ "_service") host (some service)
        | .error error => .raised error
      else
        .mocked [("mock", .bool true), ("action", .str (verb ++ "_service")),
          ("host", .str host), ("service", .str service), ("verb", .str verb),
          ("use_sudo", .bool useSudo)]

def readDiskUsage : Outcome :=
  match requireHost config parameters with
  | .error error => .raised error
  | .ok host =>
    if config.sshExecutionEnabled then
      match buildSshCommand config host "" "" "df" ["-h"] false with
      | .ok command => .issued command "read_disk_usage" host none
      | .error error => .raised error
    else
      .mocked [("mock", .bool true), ("action", .str "read_disk_usage"), ("host", .str host),
        ("diagnostic_output", .str ("Filesystem Size Used Avail Use% Mounted on\n" ++
          "mock-fs 1.0T 100G 900G 10% /"))]

inductive Method where
  | restartService
  | startService
  | stopService
  | statusService
  | readDiskUsage
deriving DecidableEq

def Method.call : Method → Outcome
  | .restartService => systemctlAction config parameters "restart" true
  | .startService => systemctlAction config parameters "start" true
  | .stopService => systemctlAction config parameters "stop" true
  | .statusService => systemctlAction config parameters "status" false
  | .readDiskUsage => SystemdSsh.readDiskUsage config parameters

/-- `isinstance(value, str)`, with the text. -/
def textAt (key : String) : Option String :=
  match parameters.get? key with
  | some (.str text) => some text
  | _ => none

/-- The note about a host or service that is missing. -/
def missingNotes (what : String) (value : Option String) : List String :=
  if value.getD "" = "" then ["systemd " ++ what ++ " is missing"] else []

def hostAllowlistNotes (host : Option String) : List String :=
  if config.sshAllowedHosts = [] then ["systemd host allowlist is empty"]
  else match host with
    | some host =>
      if bareHost host ∉ config.sshAllowedHosts then ["systemd host is not allowlisted"] else []
    | none => []

def serviceAllowlistNotes (service : Option String) : List String :=
  if config.sshAllowedServices = [] then ["systemd service allowlist is empty"]
  else match service with
    | some service =>
      if service ∉ config.sshAllowedServices ∧
          canonicalService service ∉ config.sshAllowedServices then
        ["systemd service is not allowlisted"]
      else []
    | none => []

/-- The notes of `_systemd_service_ready`. -/
def systemdServiceNotes (system : String) (parameters : Dict) :
    List String :=
  if system ≠ "systemd_service" then []
  else
    let host := textAt parameters "host"
    let service := textAt parameters "service"
    missingNotes "host" host ++ missingNotes "service" service ++
      hostAllowlistNotes config host ++ serviceAllowlistNotes config service

def systemdServiceReady (system : String) (parameters : Dict) : Bool :=
  (systemdServiceNotes config system parameters).isEmpty

section

variable {config : SshConfig} {parameters : Dict} {host service : String}

def UnitListed (config : SshConfig) (service : String) : Prop :=
  canonicalService service ∈ config.sshAllowedServices ∨ service ∈ config.sshAllowedServices

theorem requireHost_ok_iff :
    requireHost config parameters = .ok host ↔
      textAt parameters "host" = some host ∧ host ≠ "" ∧
        bareHost host ∈ config.sshAllowedHosts := by
  unfold requireHost textAt
  split
  · next text _ =>
    simp only [Option.some.injEq]
    constructor
    · intro h
      split_ifs at h with hempty hnone hlisted
      cases h
      exact ⟨rfl, hempty, hlisted⟩
    · rintro ⟨rfl, hempty, hlisted⟩
      have hsome : config.sshAllowedHosts ≠ [] := List.ne_nil_of_mem hlisted
      simp [hempty, hsome, hlisted]
  · simp

theorem requireService_ok_iff :
    requireService config parameters = .ok service ↔
      textAt parameters "service" = some service ∧ service ≠ "" ∧ UnitListed config service := by
  unfold requireService textAt UnitListed
  split
  · next text _ =>
    simp only [Option.some.injEq]
    constructor
    · intro h
      split_ifs at h with hempty hnone hlisted
      cases h
      refine ⟨rfl, hempty, ?_⟩
      by_contra hnot
      exact hlisted (not_or.mp hnot)
    · rintro ⟨rfl, hempty, hlisted⟩
      have hsome : config.sshAllowedServices ≠ [] := by
        rcases hlisted with h | h <;> exact List.ne_nil_of_mem h
      rw [if_neg hempty, if_neg hsome, if_neg fun hnot => hlisted.elim hnot.1 hnot.2]
  · simp

theorem missingNotes_eq_nil_iff {what : String} {value : Option String} :
    missingNotes what value = [] ↔ value.getD "" ≠ "" := by
  unfold missingNotes
  split <;> simp [*]

/-- Nothing is noted about a host if and only if the adapter takes it. -/
theorem hostNotes_eq_nil_iff :
    (missingNotes "host" (textAt parameters "host") = [] ∧
      hostAllowlistNotes config (textAt parameters "host") = []) ↔
      ∃ host, requireHost config parameters = .ok host := by
  simp only [requireHost_ok_iff, missingNotes_eq_nil_iff, hostAllowlistNotes]
  cases textAt parameters "host" with
  | none => simp
  | some host =>
    by_cases hlisted : bareHost host ∈ config.sshAllowedHosts
    · simp [hlisted, List.ne_nil_of_mem hlisted]
    · by_cases hnone : config.sshAllowedHosts = [] <;> simp [hnone, hlisted]

/-- Nothing is noted about a unit if and only if the adapter takes it. -/
theorem serviceNotes_eq_nil_iff :
    (missingNotes "service" (textAt parameters "service") = [] ∧
      serviceAllowlistNotes config (textAt parameters "service") = []) ↔
      ∃ service, requireService config parameters = .ok service := by
  simp only [requireService_ok_iff, UnitListed, missingNotes_eq_nil_iff, serviceAllowlistNotes]
  cases textAt parameters "service" with
  | none => simp
  | some service =>
    by_cases hcanonical : canonicalService service ∈ config.sshAllowedServices
    · simp [hcanonical, List.ne_nil_of_mem hcanonical]
    · by_cases hplain : service ∈ config.sshAllowedServices
      · simp [hplain, List.ne_nil_of_mem hplain]
      · by_cases hnone : config.sshAllowedServices = [] <;> simp [hnone, hcanonical, hplain]

/-- **The evaluation lets through the pairs that the adapter lets through.** -/
theorem systemdServiceReady_iff :
    systemdServiceReady config "systemd_service" parameters = true ↔
      (∃ host, requireHost config parameters = .ok host) ∧
        ∃ service, requireService config parameters = .ok service := by
  rw [← hostNotes_eq_nil_iff, ← serviceNotes_eq_nil_iff]
  simp only [systemdServiceReady, systemdServiceNotes, ne_eq, not_true_eq_false, ↓reduceIte,
    List.isEmpty_iff, List.append_eq_nil_iff]
  exact ⟨fun ⟨⟨⟨h₁, h₂⟩, h₃⟩, h₄⟩ => ⟨⟨h₁, h₃⟩, h₂, h₄⟩,
    fun ⟨⟨h₁, h₃⟩, h₂, h₄⟩ => ⟨⟨⟨h₁, h₂⟩, h₃⟩, h₄⟩⟩

end

/-- What is after the last `@`. -/
def afterLastAt : String :=
  String.ofList (host.toList.reverse.takeWhile (· ≠ '@')).reverse

/-- The words are those of `[sudo] systemctl VERB UNIT`, with an allowed verb and
an allowlisted unit. -/
def SystemctlWords (words : List String) : Prop :=
  ∃ sudoWords verb unit, (sudoWords = [] ∨ sudoWords = ["sudo"]) ∧
    verb ∈ allowedSystemctlVerbs ∧ UnitListed config unit ∧
    words = sudoWords ++ ["systemctl", verb, unit]

/-- The destination is no option and names an allowlisted host, and the remote shell reads an
allowed `systemctl` command. -/
def Targeted (command : List String) : Prop :=
  ∃ options destination remote words, command = options ++ [destination, remote] ∧
    ¬ "-".toList <+: destination.toList ∧ afterLastAt destination ∈ config.sshAllowedHosts ∧
    Text.splitWords remote.toList = .ok (words.map String.toList) ∧ SystemctlWords config words

/-- The host is no option, and after its last `@` there is what was looked up, or
another entry of the allowlist. -/
def Plain (host : String) : Prop :=
  ¬ "-".toList <+: host.toList ∧
    (afterLastAt host = bareHost host ∨ afterLastAt host ∈ config.sshAllowedHosts)

section

variable {config : SshConfig} {parameters : Dict} {host service : String} {command : List String}
  {verb action : String} {options : List String}

/-- Words that need no quotes, and one that may, make a line that is read back. -/
theorem splitWords_systemctl (hverb : verb ∈ allowedSystemctlVerbs) (service : String)
    (useSudo : Bool) :
    Text.splitWords (" ".intercalate ((if useSudo then ["sudo"] else []) ++
        ["systemctl", verb, shlexQuote service])).toList =
      .ok (((if useSudo then ["sudo"] else []) ++ ["systemctl", verb, service]).map
        String.toList) := by
  have hquoted : Text.quoteWord verb.toList = verb.toList := by
    simp only [allowedSystemctlVerbs, List.mem_cons, List.not_mem_nil, or_false] at hverb
    rcases hverb with rfl | rfl | rfl | rfl <;> decide
  have hsystemctl : Text.quoteWord "systemctl".toList = "systemctl".toList := by decide
  have hsudo : Text.quoteWord "sudo".toList = "sudo".toList := by decide
  rw [← Text.splitWords_joinWords, Text.joinWords, String.toList_intercalate]
  cases useSudo <;>
    simp only [Bool.false_eq_true, ↓reduceIte, List.nil_append, List.cons_append, List.map_cons,
      List.map_nil, shlexQuote, String.toList_ofList, hquoted, hsystemctl, hsudo] <;> rfl

def systemctlLine (config : SshConfig) (host verb service : String) (useSudo : Bool) :
    List String :=
  [if config.sshCommand = "" then "ssh" else config.sshCommand] ++ sshOptions config ++
    [host, " ".intercalate ((if useSudo then ["sudo"] else []) ++
      ["systemctl", verb, shlexQuote service])]

theorem systemctlAction_issued {useSudoDefault : Bool} {service : Option String}
    (h : systemctlAction config parameters verb useSudoDefault =
      .issued command action host service) :
    requireHost config parameters = .ok host ∧ verb ∈ allowedSystemctlVerbs ∧
      ∃ unit useSudo, requireService config parameters = .ok unit ∧
        command = systemctlLine config host verb unit useSudo := by
  unfold systemctlAction at h
  split at h
  · cases h
  · next hverb =>
    have hverb : verb ∈ allowedSystemctlVerbs := not_not.mp hverb
    have hsome : verb ≠ "" := by
      rintro rfl
      revert hverb
      decide
    split at h
    · cases h
    · cases h
    · next accepted unit hhost hunit =>
      simp only [buildSshCommand, remoteParts, hsome, ne_eq, not_true_eq_false, and_false,
        not_false_eq_true, ↓reduceIte, false_and, bind, Except.bind, pure,
        Except.pure] at h
      split at h
      · cases h
        exact ⟨hhost, hverb, unit, _, hunit, rfl⟩
      · cases h

theorem readDiskUsage_issued {service : Option String}
    (h : readDiskUsage config parameters = .issued command action host service) :
    requireHost config parameters = .ok host ∧ ∃ options, command = options ++ [host, "df -h"] := by
  have hparts : remoteParts "" "" "df" ["-h"] false = .ok ["df", "-h"] := by decide
  unfold readDiskUsage at h
  split at h
  · cases h
  · next accepted hhost =>
    split at h
    · cases h
      exact ⟨hhost, _, rfl⟩
    · cases h

theorem targeted_append_iff {remote : String} :
    Targeted config (options ++ [host, remote]) ↔
      ¬ "-".toList <+: host.toList ∧ afterLastAt host ∈ config.sshAllowedHosts ∧
        ∃ words, Text.splitWords remote.toList = .ok (words.map String.toList) ∧
          SystemctlWords config words := by
  constructor
  · rintro ⟨others, destination, last, words, hline, hoption, hlisted, hwords⟩
    obtain ⟨-, hlast⟩ := List.append_inj' hline rfl
    obtain ⟨rfl, rfl⟩ := hlast
    exact ⟨hoption, hlisted, words, hwords⟩
  · rintro ⟨hoption, hlisted, words, hwords⟩
    exact ⟨options, host, remote, words, rfl, hoption, hlisted, hwords⟩

theorem systemctlLine_targeted_iff {unit : String} {useSudo : Bool}
    (hverb : verb ∈ allowedSystemctlVerbs) (hunit : UnitListed config unit)
    (hhost : bareHost host ∈ config.sshAllowedHosts) :
    Targeted config (systemctlLine config host verb unit useSudo) ↔ Plain config host := by
  have hwords : SystemctlWords config
      ((if useSudo then ["sudo"] else []) ++ ["systemctl", verb, unit]) := by
    refine ⟨_, verb, unit, ?_, hverb, hunit, rfl⟩
    cases useSudo
    · exact .inl rfl
    · exact .inr rfl
  rw [systemctlLine, targeted_append_iff, Plain]
  refine and_congr_right fun _ => ⟨fun h => .inr h.1, fun h => ⟨?_, _, ?_, hwords⟩⟩
  · rcases h with h | h
    · rw [h]
      exact hhost
    · exact h
  · exact splitWords_systemctl hverb unit useSudo

/-- The disk read is no `systemctl` command. -/
theorem not_targeted_df : ¬ Targeted config (options ++ [host, "df -h"]) := by
  rw [targeted_append_iff]
  rintro ⟨-, -, words, hread, sudoWords, verb, unit, hsudo, -, -, rfl⟩
  have hdf : Text.splitWords "df -h".toList = .ok (["df", "-h"].map String.toList) := by decide
  rw [hdf, Except.ok.injEq] at hread
  have hlength := congrArg List.length hread
  rcases hsudo with rfl | rfl <;> simp at hlength

end

/-- **Where commands go**: to an allowlisted host with an allowed verb, exactly if the line is one
of `systemctl` and the host is plain. -/
theorem commands_targeted_iff :
    (systemdServiceReady config "systemd_service" parameters = true ↔
      (∃ host, requireHost config parameters = .ok host) ∧
        ∃ service, requireService config parameters = .ok service) ∧
    ∀ method command action host service,
      Method.call config parameters method = .issued command action host service →
      (Targeted config command ↔ method ≠ .readDiskUsage ∧ Plain config host) := by
  refine ⟨systemdServiceReady_iff, fun method command action host service h => ?_⟩
  have hsystemctl {verb : String} {useSudoDefault : Bool}
      (h : systemctlAction config parameters verb useSudoDefault =
        .issued command action host service) : Targeted config command ↔ Plain config host := by
    obtain ⟨hhost, hverb, unit, useSudo, hunit, rfl⟩ := systemctlAction_issued h
    exact systemctlLine_targeted_iff hverb (requireService_ok_iff.mp hunit).2.2
      (requireHost_ok_iff.mp hhost).2.2
  cases method with
  | restartService | startService | stopService | statusService => simpa using hsystemctl h
  | readDiskUsage =>
    obtain ⟨-, options, rfl⟩ := readDiskUsage_issued h
    simp [not_targeted_df]

def bareMetalConfig : SshConfig where
  sshExecutionEnabled := true
  sshCommand := "ssh"
  sshIdentityFile := none
  sshConnectTimeoutSeconds := 10
  sshServerAliveIntervalSeconds := 30
  sshServerAliveCountMax := 3
  sshAllowedHosts := ["vault-prod-07"]
  sshAllowedServices := ["solana-validator.service"]

def validatorOn : Dict :=
  [("host", .str host), ("service", .str "solana-validator")]

theorem commands_targeted_login :
    ∃ command, Method.call bareMetalConfig (validatorOn "sre@vault-prod-07") .restartService =
        .issued command "restart_service" "sre@vault-prod-07" (some "solana-validator") ∧
      Targeted bareMetalConfig command := by
  refine ⟨_, rfl, ?_⟩
  refine ((commands_targeted_iff bareMetalConfig (validatorOn "sre@vault-prod-07")).2
    .restartService _ _ _ _ rfl).mpr ?_
  exact ⟨by decide, by decide, .inl (by decide)⟩

/-- An option of `ssh` that ends in `@` and an allowlisted host is let through,
and stands where the destination should. -/
theorem option_taken_for_host :
    ∃ command, Method.call bareMetalConfig (validatorOn "-oProxyCommand=reboot@vault-prod-07")
        .restartService =
          .issued command "restart_service" "-oProxyCommand=reboot@vault-prod-07"
            (some "solana-validator") ∧
      ¬ Targeted bareMetalConfig command :=
  ⟨_, rfl, fun h => (targeted_append_iff.mp h).1 (by decide)⟩

end OrbitalMesh.SystemdSsh
