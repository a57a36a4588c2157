import OrbitalMesh.Operator.Identity

/-!
# The calls of the operator identity store

Each call is a sequence of checks and passes.  A new session is read back in a pass
of its own, and so is the payload that a call on behalf of a session returns.
-/

namespace OrbitalMesh.Operator

open Atomic Raising

def sessionTtlSeconds : Rat := 60 * 60 * 24 * 14

def oauthStateTtlSeconds : Rat := 60 * 10

section

variable (env : Env)

/-- An authentication event before it is recorded. -/
structure AuthEventSpec where
  eventType : String
  authMethod : String
  provider : String := ""
  captcha : Option CaptchaEvent := none
  invite : Option InviteEvent := none

/-- What a new session draws, and the clock at its read back. -/
structure SessionDraw where
  token : String
  eventId : String := ""
  later : Rat

/-- The first pass of `create_session`. -/
def sessionPass (userId : String) (now : Rat) (event : Option AuthEventSpec)
    (draw : SessionDraw) : Pass Unit := fun data => do
  check (refuse (data.users[userId]?).isNone (.value "user not found"))
  let createdAt ← check (env.iso now)
  let expiresAt ← check (env.iso (now + sessionTtlSeconds))
  let session : Session := { tokenHash := env.tokenHash draw.token, userId, createdAt, expiresAt }
  let recorded : Option AuthEvent := event.map fun event => {
    eventId := draw.eventId
    eventType := event.eventType
    authMethod := event.authMethod
    provider := event.provider
    userId
    sessionTokenHash := session.tokenHash
    recordedAt := createdAt
    captcha := event.captcha
    invite := event.invite }
  return (some (.addSession session recorded), ())

variable (token : String)

def sessionPayload (now : Rat) : DocProg SessionPayload :=
  pass (payloadPass env token now)

def createSession (userId : String) (now : Rat) (event : Option AuthEventSpec)
    (draw : SessionDraw) : DocProg (String × SessionPayload) := do
  pass (sessionPass env userId now event draw)
  let payload ← sessionPayload env draw.token draw.later
  return (draw.token, payload)

def deleteSession : DocProg Unit :=
  pass fun _ => .ok (some (.dropSession (env.tokenHash token)), ())

/-- `CaptchaConfig`, with the answer of the service for a configured one. -/
structure Captcha where
  provider : String
  siteKey : String
  secret : String
  devBypassEnabled : Bool
  answer : Except Failure Unit

def Captcha.configured (captcha : Captcha) : Bool :=
  ["hcaptcha", "recaptcha", "turnstile"].contains captcha.provider && captcha.siteKey ≠ "" &&
    captcha.secret ≠ ""

def verifyCaptcha (captcha : Captcha) : Except Failure Unit :=
  if captcha.configured then captcha.answer
  else if captcha.devBypassEnabled && token = "dev-captcha-ok" then .ok ()
  else .error (.value "captcha is not configured")

def captchaEvent : Option Captcha → CaptchaEvent
  | none =>
    { provider := "not_required", configured := false, verified := false, devBypass := false }
  | some captcha => {
      provider := if captcha.provider = "" then "missing" else captcha.provider
      configured := captcha.configured
      verified := true
      devBypass := captcha.devBypassEnabled && !captcha.configured }

def inviteEvent (email : String) (allowlist codes : List String) : InviteEvent where
  configured := allowlist ≠ [] || codes ≠ []
  allowlistEnabled := allowlist ≠ []
  codeRequired := codes ≠ []
  emailHash := env.tokenHash email

/-- What a new user draws. -/
structure UserDraw where
  userId : String
  salt : String := ""

/-- The arguments of `create_user`, with the readings of the clock. -/
structure SignUp where
  email : String
  password : String
  displayName : String := ""
  captchaToken : String := ""
  captcha : Option Captcha := none
  inviteCode : String := ""
  inviteAllowlist : List String := []
  inviteCodes : List String := []
  acceptedTerms : Bool := false
  now : Option Rat := none
  clock : Rat
  user : UserDraw
  session : SessionDraw

def displayNameOr (displayName email : String) : String :=
  let cleaned := cleanDisplayName displayName
  if cleaned = "" then String.ofList (email.toList.takeWhile (· ≠ '@')) else cleaned

/-- The pass of `create_user`. -/
def userPass (args : SignUp) (email : String) (now : Rat) : Pass Unit := fun data => do
  check (refuse (data.emailIndex[email]?).isSome (.value "user already exists"))
  let stamp ← check (env.iso now)
  return (some (.addUser {
    id := args.user.userId
    email
    displayName := displayNameOr args.displayName email
    passwordHash := env.hashPassword args.user.salt args.password
    createdAt := stamp
    updatedAt := stamp }), ())

/-- The checks that `create_user` makes before it reads; what is left is the
normalised address. -/
def checkSignUp (args : SignUp) : Except Failure String := do
  args.captcha.elim (.ok ()) (verifyCaptcha args.captchaToken)
  let email ← validateEmail env args.email
  verifyInviteGate env email args.inviteCode args.inviteAllowlist args.inviteCodes
  refuse (!args.acceptedTerms) (.value "terms consent is required")
  validatePassword env args.password
  return email

def createUser (args : SignUp) : DocProg (String × SessionPayload) := do
  let email ← Raising.ofExcept (checkSignUp env args)
  let now := nowOr args.now args.clock
  pass (userPass env args email now)
  createSession env args.user.userId now (some {
    eventType := "password_signup"
    authMethod := "password"
    captcha := some (captchaEvent args.captcha)
    invite := some (inviteEvent env email args.inviteAllowlist args.inviteCodes) }) args.session

/-- The pass of `login_user`. -/
def loginPass (email password : String) : Pass String := fun data =>
  match data.emailIndex[email]? with
  | none => raiseValue "invalid email or password"
  | some userId =>
    if userId = "" then raiseValue "invalid email or password"
    else
      match data.users[userId]? with
      | none => raiseValue "invalid email or password"
      | some user =>
        if env.verifyPassword password user.passwordHash then .ok (none, userId)
        else raiseValue "invalid email or password"

def loginUser (email password : String) (now : Option Rat) (clock : Rat) (draw : SessionDraw) :
    DocProg (String × SessionPayload) := do
  let email ← Raising.ofExcept (validateEmail env email)
  let userId ← pass (loginPass env email password)
  createSession env userId (nowOr now clock)
    (some { eventType := "password_login", authMethod := "password" }) draw

/-- The arguments of `upsert_oauth_user`. -/
structure OauthSignIn where
  provider : String
  providerUserId : String
  email : String
  displayName : String := ""
  inviteAllowlist : List String := []
  clock : Rat
  user : UserDraw
  session : SessionDraw

variable (data : Document)

/-- `user_id = ... or ...`. -/
def knownUser (oauthKey email : String) : Option String :=
  ((data.oauthIndex[oauthKey]?).filter (· ≠ "")).or ((data.emailIndex[email]?).filter (· ≠ ""))

/-- The pass of `upsert_oauth_user`. -/
def oauthPass (args : OauthSignIn) (email : String) : Pass String := fun data => do
  let oauthKey := args.provider ++ ":" ++ args.providerUserId
  match knownUser data oauthKey email with
  | some userId => return (some (.linkUser oauthKey userId none), userId)
  | none =>
    check (verifyInviteGate env email "" args.inviteAllowlist [])
    let stamp ← check (env.iso args.clock)
    return (some (.linkUser oauthKey args.user.userId (some {
      id := args.user.userId
      email
      displayName := displayNameOr args.displayName email
      passwordHash := ""
      createdAt := stamp
      updatedAt := stamp })), args.user.userId)

def upsertOauthUser (args : OauthSignIn) : DocProg (String × SessionPayload) := do
  let email ← Raising.ofExcept (validateEmail env args.email)
  let userId ← pass (oauthPass env args email)
  createSession env userId args.clock (some {
    eventType := "oauth_session_established"
    authMethod := "oauth"
    provider := args.provider
    invite := some (inviteEvent env email args.inviteAllowlist []) }) args.session

variable (provider state : String)

def createOauthState (now : Option Rat) (clock : Rat) :
    DocProg String :=
  pass fun _ => do
    let now := nowOr now clock
    let createdAt ← check (env.iso now)
    let expiresAt ← check (env.iso (now + oauthStateTtlSeconds))
    return (some (.addState state { provider, createdAt, expiresAt }), state)

/-- The pass of `consume_oauth_state`: the state is gone, whatever comes of it. -/
def consumePass (now : Rat) : Pass Unit := fun data =>
  let fail (failure : Failure) := .error (failure, some (.dropState state))
  match data.oauthStates[state]? with
  | none => fail (.value "invalid oauth state")
  | some record =>
    if record.provider ≠ provider then fail (.value "invalid oauth state")
    else
      match env.fromIso record.expiresAt with
      | .error failure => fail failure
      | .ok expires =>
        if expires < now then fail (.value "expired oauth state")
        else .ok (some (.dropState state), ())

def consumeOauthState (now : Option Rat) (clock : Rat) :
    DocProg Unit :=
  pass (consumePass env provider state (nowOr now clock))

/-- The arguments of `create_team`. -/
structure NewTeam where
  token : String
  name : String
  displayName : String := ""
  members : List MemberSpec := []
  now : Option Rat := none
  clock : Rat
  teamId : String

/-- The pass of `create_team`. -/
def newTeamPass (args : NewTeam) (now : Rat) : Pass Unit := fun data => do
  let session ← validSession env data args.token now
  let ownerId := session.userId
  let teamName ← check (cleanTeamName args.name)
  let slug := slugOf env teamName
  check (refuse (!isTeamSlug slug) (.value "team name must produce a valid slug"))
  check (refuse (data.teamSlugIndex[slug]?).isSome (.value "team slug already exists"))
  let stamp ← check (env.iso now)
  let displayName := cleanDisplayName args.displayName
  let team : Team := {
    id := args.teamId
    name := teamName
    displayName := if displayName = "" then teamName else displayName
    slug
    createdAt := stamp
    updatedAt := stamp }
  let owner ← check (lookup data.users ownerId)
  let ownerMember : Member := {
    userId := some ownerId
    email := owner.email
    role := .owner
    roles := [.admin, .approver, .launcher, .viewer]
    status := .active
    createdAt := stamp }
  let members ← check (args.members.foldlM (invitedMember env data now)
    ((∅ : Table Member).insert ownerId ownerMember))
  return (some (.addTeam team ownerId members), ())

def createTeam (args : NewTeam) : DocProg SessionPayload := do
  let now := nowOr args.now args.clock
  pass (newTeamPass env args now)
  sessionPayload env args.token now

/-- `team_id or data["active_team_by_user"].get(user_id)`. -/
def resolveTeam (userId : String) (teamId : Option String) :
    Except Failure String :=
  match (teamId.filter (· ≠ "")).or ((data.activeTeamByUser[userId]?).join.filter (· ≠ "")) with
  | some teamId => .ok teamId
  | none => .error (.value "team is required")

/-- The arguments of `update_team`. -/
structure TeamUpdate where
  token : String
  teamId : Option String
  name : String := ""
  displayName : Option String := none
  now : Option Rat := none
  clock : Rat

def renamedTeam (teamId : String) (team : Team) (name : String) :
    Except Failure Team :=
  if pyStrip name = "" then .ok team
  else do
    let teamName ← cleanTeamName name
    let slug := slugOf env teamName
    refuse (!isTeamSlug slug) (.value "team name must produce a valid slug")
    refuse ((data.teamSlugIndex[slug]?).any fun other => other ≠ "" && other ≠ teamId)
      (.value "team slug already exists")
    return { team with name := teamName, slug }

variable (args : TeamUpdate)

def updatedDisplayName (previous team : Team) : String :=
  match args.displayName with
  | some displayName =>
    let cleaned := cleanDisplayName displayName
    if cleaned = "" then team.name else cleaned
  | none =>
    if pyStrip args.name ≠ "" &&
        (team.displayName = "" || team.displayName = previous.name) then team.name
    else team.displayName

/-- The pass of `update_team`. -/
def updateTeamPass (now : Rat) : Pass Unit := fun data => do
  let session ← validSession env data args.token now
  let teamId ← check (resolveTeam data session.userId args.teamId)
  check (requireTeamAdmin data session.userId teamId)
  let previous ← check (lookup data.teams teamId)
  let renamed ← check (renamedTeam env data teamId previous args.name)
  let stamp ← check (env.iso now)
  return (some (.editTeam previous { renamed with
    displayName := updatedDisplayName args previous renamed, updatedAt := stamp }), ())

def updateTeam : DocProg SessionPayload := do
  let now := nowOr args.now args.clock
  pass (updateTeamPass env args now)
  sessionPayload env args.token now

/-- The arguments of `upsert_team_members`. -/
structure TeamMembers where
  token : String
  teamId : Option String
  members : List MemberSpec
  now : Option Rat := none
  clock : Rat

/-- The pass of `upsert_team_members`. -/
def membersPass (args : TeamMembers) (now : Rat) : Pass Unit := fun data => do
  let session ← validSession env data args.token now
  let teamId ← check (resolveTeam data session.userId args.teamId)
  check (requireTeamAdmin data session.userId teamId)
  check (refuse args.members.isEmpty (.value "at least one member is required"))
  let members ← check (args.members.foldlM (upsertTeamMember env data now)
    ((data.memberships[teamId]?).getD ∅))
  return (some (.seatMembers teamId members), ())

def upsertTeamMembers (args : TeamMembers) : DocProg SessionPayload := do
  let now := nowOr args.now args.clock
  pass (membersPass env args now)
  sessionPayload env args.token now

/-- The pass of `set_active_team`. -/
def activatePass (teamId : Option String) (now : Rat) : Pass Unit :=
  fun data => do
    let session ← validSession env data token now
    check (refuse (teamId.any fun teamId =>
      (membershipForUser data session.userId teamId).isNone) (.permission "team access denied"))
    return (some (.activateTeam session.userId teamId), ())

/-- `set_active_team`; the clock is read in each of its two passes. -/
def setActiveTeam (teamId : Option String) (clock later : Rat) :
    DocProg SessionPayload := do
  pass (activatePass env token teamId clock)
  sessionPayload env token later

def updatedSettings (settings : Table String) (updates : List (String × Json)) :
    Except Failure (Table String) :=
  updates.foldlM (fun settings (key, value) =>
    match settingsSchema.find? (·.1 = key) with
    | none => .error (.value ("unknown setting: " ++ key))
    | some (_, allowed) =>
      match allowed.find? fun text => value = Json.str text with
      | some text => .ok (settings.insert key text)
      | none => .error (.value (key ++ " must be one of: " ++ ", ".intercalate allowed)))
    settings

/-- The pass of `update_settings`. -/
def settingsPass (teamId : Option String) (updates : List (String × Json))
    (now : Rat) : Pass (Table String) := fun data => do
  let session ← validSession env data token now
  check (refuse (teamId.any fun teamId =>
    teamId ≠ "" && (membershipForUser data session.userId teamId).isNone)
    (.permission "team access denied"))
  let settings ← check (updatedSettings (settingsForScope data session.userId teamId) updates)
  return (some (.setSettings (settingsKey session.userId teamId) settings), settings)

def updateSettings (teamId : Option String) (updates : List (String × Json))
    (now : Rat) : DocProg (Table String) :=
  pass (settingsPass env token teamId updates now)

end

end OrbitalMesh.Operator
