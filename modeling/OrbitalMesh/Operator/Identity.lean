import OrbitalMesh.Base.Atomic
import OrbitalMesh.Runtime

/-!
# The operator identity store

`OperatorIdentityStore` keeps users, sessions, teams and settings in one JSON
document.  A call reads the document in one locked section, changes its copy (a
`Change`), and writes the copy back in another.  Unicode case mapping, the hashes and
the time formats are the environment; what the `secrets` module draws, and what the
clock reads, are arguments.
-/

namespace OrbitalMesh.Operator

open Atomic

/-- The exceptions that the store tells apart. -/
inductive Failure where
  | value (text : String)
  | permission (text : String)
  | other (text : String)
deriving DecidableEq

/-- `str.lower`, the decimal digits, the hashes, and the two time formats. -/
structure Env where
  lower : String → String
  isDecimal : Char → Bool
  tokenHash : String → String
  hashPassword : (salt password : String) → String
  verifyPassword : (password encoded : String) → Bool
  iso : Rat → Except Failure String
  fromIso : String → Except Failure Rat

/-- A value of `users`. -/
structure User where
  id : String
  email : String
  displayName : String
  passwordHash : String
  createdAt : String
  updatedAt : String

/-- A value of `sessions`. -/
structure Session where
  tokenHash : String
  userId : String
  createdAt : String
  expiresAt : String
deriving DecidableEq

/-- A value of `teams`. -/
structure Team where
  id : String
  name : String
  displayName : String
  slug : String
  createdAt : String
  updatedAt : String

inductive Role where
  | owner
  | admin
  | approver
  | launcher
  | viewer
deriving DecidableEq

inductive MemberStatus where
  | active
  | invited

/-- A value of `memberships[team_id]`. -/
structure Member where
  userId : Option String
  email : String
  role : Role
  roles : List Role
  status : MemberStatus
  createdAt : String

/-- A value of `oauth_states`. -/
structure OauthState where
  provider : String
  createdAt : String
  expiresAt : String
deriving DecidableEq

/-- The captcha of an authentication event. -/
structure CaptchaEvent where
  provider : String
  configured : Bool
  verified : Bool
  devBypass : Bool

/-- The invitation of an authentication event. -/
structure InviteEvent where
  configured : Bool
  allowlistEnabled : Bool
  codeRequired : Bool
  emailHash : String

/-- An entry of `auth_events`. -/
structure AuthEvent where
  eventId : String
  eventType : String
  authMethod : String
  provider : String := ""
  stateSlice : String := "auth-provider-proof.v1"
  userId : String
  sessionTokenHash : String
  recordedAt : String
  captcha : Option CaptchaEvent := none
  invite : Option InviteEvent := none

structure Document where
  users : Table User := ∅
  emailIndex : Table String := ∅
  oauthIndex : Table String := ∅
  sessions : Table Session := ∅
  authEvents : List AuthEvent := []
  teams : Table Team := ∅
  teamSlugIndex : Table String := ∅
  memberships : Table (Table Member) := ∅
  activeTeamByUser : Table (Option String) := ∅
  settings : Table (Table String) := ∅
  oauthStates : Table OauthState := ∅

def authEventLimit : Nat := 500

/-- What a pass does to its copy of the document. -/
inductive Change where
  | addUser (user : User)
  /-- `oauth_index[key] = user_id`, for a user who may be new -/
  | linkUser (oauthKey userId : String) (new : Option User)
  | addSession (session : Session) (event : Option AuthEvent)
  | dropSession (hash : String)
  | expireSession (hash : String)
  | addTeam (team : Team) (owner : String) (members : Table Member)
  | editTeam (previous team : Team)
  | seatMembers (teamId : String) (members : Table Member)
  | activateTeam (userId : String) (teamId : Option String)
  | setSettings (scope : String) (settings : Table String)
  | addState (state : String) (record : OauthState)
  | dropState (state : String)

variable (data : Document)

/-- `data["users"][user_id] = user`, and what goes with it. -/
def Document.withUser (user : User) : Document :=
  { data with
    users := data.users.insert user.id user
    emailIndex := data.emailIndex.insert user.email user.id
    activeTeamByUser := data.activeTeamByUser.insert user.id none }

def appendAuthEvent (events : List AuthEvent) : Option AuthEvent → List AuthEvent
  | some event => (events ++ [event]).drop (events.length + 1 - authEventLimit)
  | none => events

def Change.apply : Change → Document
  | .addUser user => data.withUser user
  | .linkUser oauthKey userId new =>
    let data := new.elim data data.withUser
    { data with oauthIndex := data.oauthIndex.insert oauthKey userId }
  | .addSession session event =>
    { data with
      sessions := data.sessions.insert session.tokenHash session
      authEvents := appendAuthEvent data.authEvents event }
  | .dropSession hash => { data with sessions := data.sessions.erase hash }
  | .expireSession hash => { data with sessions := data.sessions.erase hash }
  | .addTeam team owner members =>
    { data with
      teams := data.teams.insert team.id team
      teamSlugIndex := data.teamSlugIndex.insert team.slug team.id
      memberships := data.memberships.insert team.id members
      activeTeamByUser := data.activeTeamByUser.insert owner (some team.id) }
  | .editTeam previous team =>
    { data with
      teams := data.teams.insert team.id team
      teamSlugIndex :=
        if team.slug = previous.slug then data.teamSlugIndex
        else (data.teamSlugIndex.erase previous.slug).insert team.slug team.id }
  | .seatMembers teamId members =>
    { data with memberships := data.memberships.insert teamId members }
  | .activateTeam userId teamId =>
    { data with activeTeamByUser := data.activeTeamByUser.insert userId teamId }
  | .setSettings scope settings => { data with settings := data.settings.insert scope settings }
  | .addState state record =>
    { data with oauthStates := data.oauthStates.insert state record }
  | .dropState state => { data with oauthStates := data.oauthStates.erase state }

def applyChange : Option Change → Document
  | some change => change.apply data
  | none => data

/-- `_read` and `_write`; what is written is the copy that was read, changed. -/
inductive DocOp where
  | read
  | write (change : Change) (copy : Document)

abbrev DocResp : DocOp → Type
  | .read => Document
  | .write _ _ => Unit

def docStep : (op : DocOp) → Document → DocResp op → Document → Prop
  | .read, data, answer, after => answer = data ∧ after = data
  | .write change copy, _, _, after => after = change.apply copy

abbrev DocProg (α : Type) := Raising DocOp DocResp Failure α

/-- What a pass makes of the document: a change to write and a value to return,
or a failure, which may come after a write. -/
abbrev Pass (α : Type) := Document → Except (Failure × Option Change) (Option Change × α)

/-- `_write`, where there is something to write. -/
def writeBack {α : Type} (change : Option Change) (copy : Document) (result : Except Failure α) :
    DocProg α :=
  match change with
  | some change => .call (.write change copy) fun _ => .ret result
  | none => .ret result

def pass {α : Type} (body : Pass α) : DocProg α :=
  .call .read fun data =>
    match body data with
    | .ok (change, a) => writeBack change data (.ok a)
    | .error (failure, change) => writeBack change data (.error failure)

def check {α : Type} (result : Except Failure α) : Except (Failure × Option Change) α :=
  result.mapError fun failure => (failure, none)

/-- `raise ValueError`. -/
def raiseValue {α : Type} (text : String) : Except (Failure × Option Change) α :=
  .error (.value text, none)

/-- `if condition: raise failure`. -/
def refuse (condition : Bool) (failure : Failure) : Except Failure Unit :=
  if condition then .error failure else .ok ()

/-- `table[key]`. -/
def lookup {α : Type} (table : Table α) (key : String) : Except Failure α :=
  match table[key]? with
  | some value => .ok value
  | none => .error (.other key)

/-- `now or time.time()`. -/
def nowOr (now : Option Rat) (clock : Rat) : Rat :=
  match now with
  | some now => if now = 0 then clock else now
  | none => clock

/-- The parts between the characters that are cut at, but for empty ones. -/
def cutAt (cut : Char → Bool) (text : String) : List String :=
  ((text.toList.splitOnP cut).filter (· ≠ [])).map String.ofList

def cleanDisplayName (value : String) : String :=
  String.ofList ((" ".intercalate (cutAt isPySpace value)).toList.take 80)

def cleanTeamName (value : String) : Except Failure String :=
  let cleaned := cleanDisplayName value
  if cleaned.length < 2 then .error (.value "team name is required") else .ok cleaned

/-- `[a-z0-9]`. -/
def isSlugChar (c : Char) : Bool := ('a' ≤ c && c ≤ 'z') || ('0' ≤ c && c ≤ '9')

/-- `EMAIL_RE`: one at sign, no white space, and a dot inside the domain. -/
def isEmail (text : String) : Bool :=
  match text.toList.splitOnP (· = '@') with
  | [name, domain] =>
    name ≠ [] && !text.toList.any isPySpace && (domain.drop 1).dropLast.contains '.'
  | _ => false

/-- `TEAM_SLUG_RE`. -/
def isTeamSlug (slug : String) : Bool :=
  let text := slug.toList
  3 ≤ text.length && text.length ≤ 63 && text.all (fun c => isSlugChar c || c = '-') &&
    text.head?.all isSlugChar && text.getLast?.all isSlugChar

section

variable (env : Env)

/-- `_slug`: the runs of slug characters, joined by hyphens. -/
def slugOf (value : String) : String :=
  String.ofList (("-".intercalate (cutAt (!isSlugChar ·) (env.lower value))).toList.take 63)

def validateEmail (email : String) : Except Failure String :=
  let normalized := env.lower (pyStrip email)
  if isEmail normalized then .ok normalized else .error (.value "valid email is required")

def validatePassword (password : String) : Except Failure Unit :=
  let letter (c : Char) : Bool := ('a' ≤ c && c ≤ 'z') || ('A' ≤ c && c ≤ 'Z')
  if password.length < 12 then .error (.value "password must be at least 12 characters")
  else if !password.toList.any letter || !password.toList.any env.isDecimal then
    .error (.value "password must include letters and numbers")
  else .ok ()

def normalizeMemberRole (value : String) : Except Failure Role :=
  match env.lower (pyStrip value) with
  | "viewer" => .ok .viewer
  | "launcher" => .ok .launcher
  | "approver" => .ok .approver
  | "admin" => .ok .admin
  | _ => .error (.value "member role must be viewer, launcher, approver, or admin")

def rolesForMember : Role → List Role
  | .admin => [.admin, .approver, .launcher, .viewer]
  | .approver => [.approver, .launcher, .viewer]
  | .launcher => [.launcher, .viewer]
  | _ => [.viewer]

def emailAllowed (email : String) (allowlist : List String) : Bool :=
  let normalized := env.lower (pyStrip email)
  let domain := String.ofList ((normalized.toList.dropWhile (· ≠ '@')).drop 1)
  allowlist.any fun raw =>
    let entry := env.lower (pyStrip raw)
    entry ≠ "" && (entry = normalized || (entry.toList.head? = some '@' &&
      domain = String.ofList (entry.toList.drop 1)) ||
      (!entry.toList.contains '@' && domain = entry))

def verifyInviteGate (email inviteCode : String) (allowlist codes : List String) :
    Except Failure Unit :=
  if allowlist ≠ [] && !emailAllowed env email allowlist then
    .error (.value "email is not invite allowlisted")
  else if codes ≠ [] && !codes.contains (pyStrip inviteCode) then
    .error (.value "valid invite code is required")
  else .ok ()

end

section

variable (env : Env) (data : Document)

def validSession (token : String) (now : Rat) :
    Except (Failure × Option Change) Session :=
  if token = "" then raiseValue "session required"
  else
    match data.sessions[env.tokenHash token]? with
    | none => raiseValue "session expired"
    | some record =>
      match env.fromIso record.expiresAt with
      | .error failure => .error (failure, none)
      | .ok expires =>
        if expires < now then
          .error (.value "session expired", some (.expireSession record.tokenHash))
        else .ok record

def membershipForUser (userId teamId : String) : Option Member :=
  let members := (data.memberships[teamId]?).getD ∅
  (members[userId]?).or ((data.users[userId]?).bind fun user => members[user.email]?)

def requireTeamAdmin (userId teamId : String) : Except Failure Unit :=
  if (data.teams[teamId]?).isNone then .error (.value "team not found")
  else
    match membershipForUser data userId teamId with
    | none => .error (.permission "team access denied")
    | some membership =>
      if membership.role ≠ .owner && membership.role ≠ .admin &&
          !membership.roles.contains .admin then
        .error (.permission "team admin role required")
      else .ok ()

/-- A member as a caller names one; a missing value is empty. -/
structure MemberSpec where
  email : String
  role : String := ""

/-- `_upsert_team_member`, on the members of the team. -/
def upsertTeamMember (now : Rat) (members : Table Member)
    (spec : MemberSpec) : Except Failure (Table Member) := do
  let email ← validateEmail env spec.email
  let role ← normalizeMemberRole env (if spec.role = "" then "viewer" else spec.role)
  let userId := data.emailIndex[email]?
  let memberKey := userId.getD email
  let existing := (members[memberKey]?).or members[email]?
  if existing.any (·.role = .owner) then .ok members
  else
    let kept := if userId.isSome && email ≠ memberKey then members.erase email else members
    let createdAt ← match existing with
      | some member => .ok member.createdAt
      | none => env.iso now
    .ok (kept.insert memberKey {
      userId
      email
      role
      roles := rolesForMember role
      status := (existing.map Member.status).getD .invited
      createdAt })

/-- The members that `create_team` adds to the owner. -/
def invitedMember (now : Rat) (members : Table Member)
    (spec : MemberSpec) : Except Failure (Table Member) :=
  let email := pyStrip spec.email
  if email = "" then .ok members
  else do
    let email ← validateEmail env email
    let role ← normalizeMemberRole env (if spec.role = "" then "viewer" else spec.role)
    let createdAt ← env.iso now
    .ok (members.insert email {
      userId := data.emailIndex[email]?
      email
      role
      roles := rolesForMember role
      status := .invited
      createdAt })

end

/-- `SETTINGS_SCHEMA`: the values of each setting, the default first. -/
def settingsSchema : List (String × List String) :=
  [("default_evaluation_mode", ["native", "promptfoo"]),
    ("default_orchestration_mode", ["native_hermes", "native", "hermes", "goose", "auto"]),
    ("default_steering_mode", ["approval_gate", "interruptible_auto"]),
    ("default_run_scenario", ["reth_peer_starvation", "reth_sync_stalled_disk_pressure",
      "kubernetes_crashloop_patch", "search_latency_regression"]),
    ("default_target_lock", ["optional", "required"])]

def settingsOver (bucket : Table String) : Table String :=
  let defaults : Table String := settingsSchema.foldl
    (fun table entry => table.insert entry.1 (entry.2.headD "")) ∅
  bucket.toList.foldl (fun table entry => table.insert entry.1 entry.2) defaults

def settingsKey (userId : String) (teamId : Option String) : String :=
  match teamId with
  | some teamId => if teamId = "" then "user:" ++ userId else "team:" ++ teamId
  | none => "user:" ++ userId

def settingsForScope (userId : String) (teamId : Option String) :
    Table String :=
  settingsOver ((data.settings[settingsKey userId teamId]?).getD ∅)

/-- `_public_user`. -/
structure PublicUser where
  id : String
  email : String
  displayName : String

/-- `_public_team`. -/
structure PublicTeam where
  id : String
  name : String
  displayName : String
  slug : String
  role : Role
  roles : List Role
  members : List (String × Role × MemberStatus)

/-- `session_payload`. -/
structure SessionPayload where
  user : PublicUser
  teams : List PublicTeam
  activeTeam : Option PublicTeam
  settings : Table String

def publicUser (user : User) : PublicUser where
  id := user.id
  email := user.email
  displayName :=
    if user.displayName = "" then String.ofList (user.email.toList.takeWhile (· ≠ '@'))
    else user.displayName

def publicTeam (team : Team) (membership : Member) (members : Table Member) : PublicTeam where
  id := team.id
  name := team.name
  displayName := if team.displayName = "" then team.name else team.displayName
  slug := team.slug
  role := membership.role
  roles := membership.roles
  members := members.toList.map fun entry => (entry.2.email, entry.2.role, entry.2.status)

section

variable (env : Env)

def membershipsOf (data : Document) (userId : String) : List (String × Member × Table Member) :=
  data.memberships.toList.filterMap fun (teamId, members) =>
    (membershipForUser data userId teamId).map fun membership => (teamId, membership, members)

def teamsForUser (data : Document) (userId : String) : Except Failure (List PublicTeam) := do
  let teams ← (membershipsOf data userId).mapM fun (teamId, membership, members) => do
    let team ← lookup data.teams teamId
    return publicTeam team membership members
  return teams.mergeSort fun a b => decide (env.lower a.name ≤ env.lower b.name)

/-- `session_payload`. -/
def payloadPass (token : String) (now : Rat) : Pass SessionPayload := fun data => do
  let session ← validSession env data token now
  let user ← check (lookup data.users session.userId)
  let activeTeamId := (data.activeTeamByUser[user.id]?).join
  let teams ← check (teamsForUser env data user.id)
  return (none, {
    user := publicUser user
    teams
    activeTeam := teams.find? fun team => some team.id = activeTeamId
    settings := settingsForScope data user.id activeTeamId })

end

end OrbitalMesh.Operator
