import OrbitalMesh.Operator.IdentityChanges

/-!
# Calls on accounts and teams, one after the other

A ledger of rosters says who made each team and with which role each address was
last named.  Calls that are not interleaved keep the document consistent with the
ledger, and one that fails leaves the document as it was, but for an expired
session; unless a team is made with the creator's own address among its members,
or a call outlives the session it reads back.
-/

namespace OrbitalMesh.Operator

open Atomic Raising

inductive AccountCall where
  | createUser (args : SignUp)
  | upsertOauthUser (args : OauthSignIn)
  | createTeam (args : NewTeam)
  | updateTeam (args : TeamUpdate)
  | upsertTeamMembers (args : TeamMembers)
  | setActiveTeam (token : String) (teamId : Option String) (clock later : Rat)
  | deleteSession (token : String)

def silently {α : Type} (prog : DocProg α) : DocProg Unit := do
  let _ ← prog
  return ()

variable (env : Env)

def AccountCall.prog : AccountCall → DocProg Unit
  | .createUser args => silently (Operator.createUser env args)
  | .upsertOauthUser args => silently (Operator.upsertOauthUser env args)
  | .createTeam args => silently (Operator.createTeam env args)
  | .updateTeam args => silently (Operator.updateTeam env args)
  | .upsertTeamMembers args => silently (Operator.upsertTeamMembers env args)
  | .setActiveTeam token teamId clock later =>
    silently (Operator.setActiveTeam env token teamId clock later)
  | .deleteSession token => Operator.deleteSession env token

def AccountCall.now : AccountCall → Rat
  | .createUser args => nowOr args.now args.clock
  | .upsertOauthUser args => args.clock
  | .createTeam args => nowOr args.now args.clock
  | .updateTeam args => nowOr args.now args.clock
  | .upsertTeamMembers args => nowOr args.now args.clock
  | .setActiveTeam _ _ clock _ => clock
  | .deleteSession _ => 0

abbrev Ledger := Table Roster

def Ledger.after (data : Document) (ledger : Ledger) : AccountCall → Ledger
  | .createTeam args =>
    match validSession env data args.token (nowOr args.now args.clock) with
    | .ok session => ledger.insert args.teamId
        (args.members.foldl (Roster.inviteMember env) { creator := session.userId })
    | .error _ => ledger
  | .upsertTeamMembers args =>
    match validSession env data args.token (nowOr args.now args.clock) with
    | .ok session =>
      match resolveTeam data session.userId args.teamId with
      | .ok teamId =>
        match ledger[teamId]? with
        | some roster => ledger.insert teamId
            (args.members.foldl (Roster.nameMember env) roster)
        | none => ledger
      | .error _ => ledger
    | .error _ => ledger
  | _ => ledger

def Ledger.afterOutcome (data : Document) (ledger : Ledger) (call : AccountCall)
    (outcome : Except Failure Unit) : Ledger :=
  if outcome = .ok () then ledger.after env data call else ledger

variable (data : Document)

/-- What `secrets` draws for a call: ids that are not in use, and a token. -/
def AccountCall.Drawn : AccountCall → Prop
  | .createUser { user, session, .. } | .upsertOauthUser { user, session, .. } =>
    data.users[user.userId]? = none ∧ ¬ HasAt user.userId ∧ user.userId ≠ "" ∧
      session.token ≠ ""
  | .createTeam args => data.teams[args.teamId]? = none ∧ args.teamId ≠ ""
  | _ => True

/-- A session created at this time is valid when it is read back. -/
def Lasts (now : Rat) (draw : SessionDraw) : Prop :=
  ∃ stamp expiresAt expires, env.iso now = .ok stamp ∧
    env.iso (now + sessionTtlSeconds) = .ok expiresAt ∧
    env.fromIso expiresAt = .ok expires ∧ ¬ expires < draw.later

/-- The created session is valid when it is read back, that of `set_active_team` does not expire,
and no new member has the creator's address. -/
def AccountCall.Careful (data : Document) : AccountCall → Prop
  | .createUser args => ∀ email stamp, checkSignUp env args = .ok email →
      data.emailIndex[email]? = none → env.iso (nowOr args.now args.clock) = .ok stamp →
      Lasts env (nowOr args.now args.clock) args.session
  | .upsertOauthUser args => ∀ email, validateEmail env args.email = .ok email →
      (knownUser data (args.provider ++ ":" ++ args.providerUserId) email).isSome = true ∨
        verifyInviteGate env email "" args.inviteAllowlist [] = .ok () →
      Lasts env args.clock args.session
  | .createTeam args => ∀ session owner,
      Live env data args.token (nowOr args.now args.clock) session →
      data.users[session.userId]? = some owner →
      ∀ spec ∈ args.members, validateEmail env (pyStrip spec.email) ≠ .ok owner.email
  | .setActiveTeam token _ clock later => ∀ session, Live env data token clock session →
      Live env data token later session
  | _ => True

/-- Calls one after the other, each of which meets a condition where it is made;
the ledger goes along with those that return. -/
inductive Follows (env : Env) (meets : Document → AccountCall → Prop) :
    List AccountCall → Document → Ledger → Prop
  | start : Follows env meets [] {} ∅
  | call {calls : List AccountCall} {data after : Document} {ledger : Ledger}
      (past : Follows env meets calls data ledger) (call : AccountCall)
      (outcome : Except Failure Unit) (hmeets : meets data call)
      (hcompletes : Completes docStep (call.prog env) data outcome after) :
      Follows env meets (calls ++ [call]) after
        (ledger.afterOutcome env data call outcome)

/-- What holds of a document and the ledger. -/
structure Kept (ledger : Ledger) : Prop where
  emails : IndexOf data.emailIndex data.users User.email
  slugs : IndexOf data.teamSlugIndex data.teams Team.slug
  owner : ∀ (id : String) team, data.teams[id]? = some team → ∃ roster members,
    ledger[id]? = some roster ∧ data.memberships[id]? = some members ∧
      ∀ key : String, (∃ member, members[key]? = some member ∧ member.role = .owner) ↔
        key = roster.creator
  single : ∀ (teamId : String) members (id : String) user,
    data.memberships[teamId]? = some members → data.users[id]? = some user →
    members[id]? = none ∨ members[user.email]? = none
  role : ∀ (teamId : String) roster (id : String) user, ledger[teamId]? = some roster →
    data.users[id]? = some user →
    (membershipForUser data id teamId).map Member.role =
      if id = roster.creator then some .owner else roster.named[user.email]?

/-- The document is solid, and its members sit where the ledger says. -/
structure Consistent (ledger : Ledger) : Prop where
  solid : Solid data
  rosters : ∀ id : String, (ledger[id]?).isSome = (data.memberships[id]?).isSome
  seated : ∀ (id : String) members roster, data.memberships[id]? = some members →
    ledger[id]? = some roster → Seated data members roster

theorem Consistent.kept {data : Document} {ledger : Ledger} (h : Consistent data ledger) :
    Kept data ledger where
  emails := h.solid.registered.emails
  slugs := h.solid.slugs
  owner := by
    intro id team hteam
    obtain ⟨members, hmembers⟩ : ∃ members, data.memberships[id]? = some members :=
      Option.isSome_iff_exists.mp (by rw [h.solid.members, hteam]; rfl)
    obtain ⟨roster, hroster⟩ : ∃ roster, ledger[id]? = some roster :=
      Option.isSome_iff_exists.mp (by rw [h.rosters, hmembers]; rfl)
    have hseated := h.seated id members roster hmembers hroster
    obtain ⟨_, owner, -, howner, hrole, -⟩ := hseated.owner
    refine ⟨roster, members, hroster, hmembers, fun key => ⟨?_, ?_⟩⟩
    · rintro ⟨member, hmember, howns⟩
      by_contra hne
      exact hseated.others key member hmember hne howns
    · rintro rfl
      exact ⟨owner, howner, hrole⟩
  single := by
    intro teamId members id user hmembers huser
    obtain ⟨roster, hroster⟩ : ∃ roster, ledger[teamId]? = some roster :=
      Option.isSome_iff_exists.mp (by rw [h.rosters, hmembers]; rfl)
    have hseated := h.seated teamId members roster hmembers hroster
    by_cases heq : id = roster.creator
    · subst heq
      obtain ⟨creator, -, hcreator, -, -, hsingle⟩ := hseated.owner
      rw [huser] at hcreator
      obtain rfl := Option.some.inj hcreator
      exact .inr hsingle
    · exact hseated.one id user huser heq
  role := by
    intro teamId roster id user hroster huser
    obtain ⟨members, hmembers⟩ : ∃ members, data.memberships[teamId]? = some members :=
      Option.isSome_iff_exists.mp (by rw [← h.rosters, hroster]; rfl)
    have hseated := h.seated teamId members roster hmembers hroster
    rw [membershipForUser, hmembers, huser]
    dsimp only [Option.getD_some, Option.bind_some]
    split
    · next heq =>
      subst heq
      obtain ⟨_, owner, -, howner, hrole, -⟩ := hseated.owner
      rw [howner, Option.some_or, Option.map_some, hrole]
    · next hne => exact hseated.named id user huser hne

section

variable {env : Env} {data after : Document} {α : Type} {now : Rat} {body : Pass α}

theorem completes_pass {outcome : Except Failure α}
    (h : Completes docStep (pass body) data outcome after) :
    (∃ change a, body data = .ok (change, a) ∧ outcome = .ok a ∧
      after = applyChange data change) ∨
    ∃ failure change, body data = .error (failure, change) ∧ outcome = .error failure ∧
      after = applyChange data change := by
  have hwrite : ∀ {change : Option Change} {result : Except Failure α} {trace},
      Runs docStep (writeBack change data result) data trace (.ret outcome) after →
      outcome = result ∧ after = applyChange data change := by
    intro change result trace hruns
    cases change with
    | none =>
      obtain ⟨-, rfl, rfl⟩ := hruns.ret_inv
      exact ⟨rfl, rfl⟩
    | some change =>
      obtain ⟨_, u, rest, -, hstep, hrest⟩ := Runs.call_inv hruns
      obtain ⟨-, rfl, rfl⟩ := hrest.ret_inv
      exact ⟨rfl, hstep⟩
  obtain ⟨trace, hruns⟩ := h
  obtain ⟨read, u, rest, -, ⟨rfl, rfl⟩, hrest⟩ := Runs.call_inv hruns
  cases hbody : body u with
  | ok result =>
    obtain ⟨change, a⟩ := result
    rw [hbody] at hrest
    obtain ⟨houtcome, hafter⟩ := hwrite hrest
    exact .inl ⟨change, a, rfl, houtcome, hafter⟩
  | error result =>
    obtain ⟨failure, change⟩ := result
    rw [hbody] at hrest
    obtain ⟨houtcome, hafter⟩ := hwrite hrest
    exact .inr ⟨failure, change, rfl, houtcome, hafter⟩

theorem completes_payload (h : Solid data) {token : String} {session : Session}
    (hlive : Live env data token now session) {outcome : Except Failure SessionPayload}
    (hcompletes : Completes docStep (sessionPayload env token now) data outcome after) :
    (∃ payload, outcome = .ok payload) ∧ after = data := by
  obtain ⟨payload, hpayload⟩ := payloadPass_ok h hlive
  obtain ⟨change, a, hbody, rfl, rfl⟩ | ⟨failure, change, hbody, -⟩ := completes_pass hcompletes
  · rw [hpayload] at hbody
    cases hbody
    exact ⟨⟨_, rfl⟩, rfl⟩
  · rw [hpayload] at hbody
    cases hbody

theorem completes_pass_then {β : Type} {next : α → DocProg β} {outcome : Except Failure β}
    (h : Completes docStep (pass body >>= next : DocProg β) data outcome after) :
    (∃ failure change, body data = .error (failure, change) ∧ outcome = .error failure ∧
      after = applyChange data change) ∨
    ∃ change a, body data = .ok (change, a) ∧
      Completes docStep (next a) (applyChange data change) outcome after := by
  obtain ⟨failure, rfl, hpass⟩ | ⟨a, middle, hpass, hrest⟩ := completes_andThen.mp h
  · obtain ⟨_, _, -, hne, -⟩ | ⟨failure', change, hbody, heq, hafter⟩ := completes_pass hpass
    · cases hne
    · cases heq
      exact .inl ⟨failure, change, hbody, rfl, hafter⟩
  · obtain ⟨change, _, hbody, heq, rfl⟩ | ⟨_, _, -, hne, -⟩ := completes_pass hpass
    · cases heq
      exact .inr ⟨change, a, hbody, hrest⟩
    · cases hne

theorem completes_createSession (h : Solid data) {userId : String} {event : Option AuthEventSpec}
    {draw : SessionDraw} (huser : (data.users[userId]?).isSome = true)
    (hlasts : Lasts env now draw) (htoken : draw.token ≠ "")
    {outcome : Except Failure (String × SessionPayload)}
    (hcompletes : Completes docStep (createSession env userId now event draw) data outcome after) :
    (∃ result, outcome = .ok result) ∧ ∃ session recorded, session.userId = userId ∧
      after = (Change.addSession session recorded).apply data := by
  obtain ⟨stamp, expiresAt, expires, hstamp, hexpiresAt, hexpires, hfresh⟩ := hlasts
  have hbody : ∃ change, sessionPass env userId now event draw data = .ok (change, ()) := by
    have hsome : refuse (data.users[userId]?).isNone (.value "user not found") = .ok () := by
      rw [refuse_ok, Option.isNone_eq_false_iff]
      exact huser
    rw [sessionPass, hsome, hstamp, hexpiresAt]
    exact ⟨_, rfl⟩
  obtain ⟨change, hbody⟩ := hbody
  obtain ⟨session, recorded, rfl, hhash, rfl, -, hexpiry⟩ := sessionPass_ok hbody
  have hmiddle : Solid ((Change.addSession session recorded).apply data) := h.apply huser
  have hlive : Live env ((Change.addSession session recorded).apply data) draw.token draw.later
      session := by
    refine ⟨htoken, ?_, expires, ?_, hfresh⟩
    · show (data.sessions.insert session.tokenHash session)[env.tokenHash draw.token]? =
        some session
      rw [← hhash, Table.get_insert_self]
    · rw [hexpiresAt] at hexpiry
      rw [← Except.ok.inj hexpiry]
      exact hexpires
  obtain ⟨_, _, herror, -⟩ | ⟨change, u, hagain, hrest⟩ := completes_pass_then hcompletes
  · rw [hbody] at herror
    cases herror
  · rw [hbody] at hagain
    cases hagain
    obtain ⟨failure, -, hpayload⟩ | ⟨payload, last, hpayload, hreturn⟩ :=
      completes_andThen.mp hrest
    · obtain ⟨⟨_, hne⟩, -⟩ := completes_payload hmiddle hlive hpayload
      cases hne
    · obtain ⟨-, rfl⟩ := completes_payload hmiddle hlive hpayload
      obtain ⟨rfl, rfl⟩ := completes_pure.mp hreturn
      exact ⟨⟨_, rfl⟩, session, recorded, rfl, rfl⟩

theorem completes_silently {prog : DocProg α} {outcome : Except Failure Unit}
    (h : Completes docStep (silently prog) data outcome after) :
    ∃ result, Completes docStep prog data result after ∧
      ((∃ a, result = .ok a) ∧ outcome = .ok () ∨
        ∃ failure, result = .error failure ∧ outcome = .error failure) := by
  obtain ⟨failure, rfl, hprog⟩ | ⟨a, middle, hprog, hreturn⟩ := completes_andThen.mp h
  · exact ⟨_, hprog, .inr ⟨failure, rfl, rfl⟩⟩
  · obtain ⟨rfl, rfl⟩ := completes_pure.mp hreturn
    exact ⟨_, hprog, .inl ⟨⟨a, rfl⟩, rfl⟩⟩

end

section

variable {env : Env} {data after : Document} {ledger : Ledger}

/-- Changes of anything but members keep the seats. -/
theorem Consistent.of_solid (h : Consistent data ledger) (hsolid : Solid after)
    (hmembers : after.memberships = data.memberships)
    (hseats : ∀ members roster, Seated data members roster → Seated after members roster) :
    Consistent after ledger := by
  refine ⟨hsolid, fun id => ?_, fun id members roster hget hroster => ?_⟩
  · rw [hmembers]
    exact h.rosters id
  · rw [hmembers] at hget
    exact hseats _ _ (h.seated id members roster hget hroster)

variable {now : Rat} {call : AccountCall} {session : Session}

theorem Consistent.forgets (h : Consistent data ledger) (hforgets : Forgets env data now after) :
    Consistent after ledger := by
  obtain rfl | ⟨hash, session, expires, -, -, -, rfl⟩ := hforgets
  · exact h
  · exact h.of_solid (h.solid.dropSession hash) rfl fun _ _ hseated => hseated.of_users rfl rfl

structure CallKept (env : Env) (data : Document) (ledger : Ledger) (call : AccountCall)
    (outcome : Except Failure Unit) (after : Document) : Prop where
  consistent : Consistent after (ledger.afterOutcome env data call outcome)
  failed : ∀ failure, outcome = .error failure → Forgets env data call.now after
  creators : ∀ (id : String) roster, ledger[id]? = some roster → ∃ roster',
    (ledger.afterOutcome env data call outcome)[id]? = some roster' ∧
      roster'.creator = roster.creator

theorem CallKept.of_failed (h : Consistent data ledger) {failure : Failure}
    (hforgets : Forgets env data call.now after) :
    CallKept env data ledger call (.error failure) after :=
  ⟨h.forgets hforgets, fun _ _ => hforgets, fun _ roster hget => ⟨roster, hget, rfl⟩⟩

theorem CallKept.of_returned (hconsistent : Consistent after (ledger.after env data call))
    (hcreators : ∀ (id : String) roster, ledger[id]? = some roster → ∃ roster',
      (ledger.after env data call)[id]? = some roster' ∧ roster'.creator = roster.creator) :
    CallKept env data ledger call (.ok ()) after :=
  ⟨hconsistent, (fun _ hne => by cases hne), hcreators⟩

theorem CallKept.of_same (hsame : ledger.after env data call = ledger)
    (hconsistent : Consistent after ledger) : CallKept env data ledger call (.ok ()) after :=
  .of_returned (hsame.symm ▸ hconsistent) fun _ roster hget => ⟨roster, hsame.symm ▸ hget, rfl⟩

theorem Consistent.addSession (h : Consistent data ledger) {recorded : Option AuthEvent}
    (huser : (data.users[session.userId]?).isSome = true) :
    Consistent ((Change.addSession session recorded).apply data) ledger :=
  h.of_solid (h.solid.apply (show (Change.addSession session recorded).Sound data from huser)) rfl
    fun _ _ hseated => hseated.of_users rfl rfl

theorem Consistent.withUser (h : Consistent data ledger) {user : User} (hnew : NewUser data user) :
    Consistent (data.withUser user) ledger :=
  h.of_solid (h.solid.withUser hnew) rfl fun _ _ hseated => hseated.withUser hnew

theorem checkSignUp_ok {args : SignUp} {email : String} (h : checkSignUp env args = .ok email) :
    HasAt email := by
  obtain ⟨_, -, h⟩ := bind_ok h
  obtain ⟨normalized, hvalid, h⟩ := bind_ok h
  obtain ⟨_, -, h⟩ := bind_ok h
  obtain ⟨_, -, h⟩ := bind_ok h
  obtain ⟨_, -, h⟩ := bind_ok h
  cases h
  exact validateEmail_ok hvalid

variable {outcome : Except Failure Unit}

section

variable (h : Consistent data ledger)

include h

theorem createUser_kept {args : SignUp} (hdrawn : (AccountCall.createUser args).Drawn data)
    (hcareful : (AccountCall.createUser args).Careful env data)
    (hcompletes : Completes docStep ((AccountCall.createUser args).prog env) data outcome after) :
    CallKept env data ledger (.createUser args) outcome after := by
  obtain ⟨hid, hplain, hfilled, htoken⟩ := hdrawn
  obtain ⟨result, hprog, hresult⟩ := completes_silently hcompletes
  obtain ⟨failure, rfl, hcheck⟩ | ⟨email, middle, hcheck, hrest⟩ := completes_andThen.mp hprog
  · obtain ⟨-, rfl⟩ := completes_ofExcept.mp hcheck
    obtain ⟨⟨_, hne⟩, -⟩ | ⟨failure', -, rfl⟩ := hresult
    · cases hne
    · exact .of_failed h (.inl rfl)
  · obtain ⟨hchecked, rfl⟩ := completes_ofExcept.mp hcheck
    have hat := checkSignUp_ok hchecked.symm
    obtain ⟨failure, change, hbody, rfl, rfl⟩ | ⟨change, u, hbody, hsession⟩ :=
      completes_pass_then hrest
    · obtain ⟨⟨_, hne⟩, -⟩ | ⟨_, -, rfl⟩ := hresult
      · cases hne
      · have hmild : Mild env middle (nowOr args.now args.clock)
            (userPass env args email (nowOr args.now args.clock) middle) :=
          fails_userPass (.inl rfl) args email
        exact .of_failed h (hmild failure change hbody)
    · obtain ⟨user, rfl, hsame, rfl, hfree, stamp, hstamp⟩ := userPass_ok hbody
      have hnew : NewUser middle user :=
        ⟨hsame ▸ hid, hfree, hsame ▸ hplain, hsame ▸ hfilled, hat⟩
      have huser : ((middle.withUser user).users[args.user.userId]?).isSome = true := by
        show ((middle.users.insert user.id user)[args.user.userId]?).isSome = true
        rw [← hsame, Table.get_insert_self]
        rfl
      obtain ⟨⟨_, rfl⟩, session, recorded, hsessionUser, rfl⟩ :=
        completes_createSession (h.withUser hnew).solid huser
          (hcareful _ stamp hchecked.symm hfree hstamp) htoken hsession
      obtain ⟨-, rfl⟩ | ⟨_, hne, -⟩ := hresult
      · exact .of_same rfl ((h.withUser hnew).addSession (hsessionUser ▸ huser))
      · cases hne

/-- An account of an address that is in use, or a new one. -/
theorem Consistent.linkUser {key userId : String}
    {new : Option User} (hsound : (Change.linkUser key userId new).Sound data) :
    Consistent ((Change.linkUser key userId new).apply data) ledger ∧
      ((((Change.linkUser key userId new).apply data).users[userId]?).isSome = true) := by
  cases new with
  | none =>
    exact ⟨h.of_solid (h.solid.apply hsound) rfl fun _ _ hseated => hseated.of_users rfl rfl,
      hsound⟩
  | some user =>
    obtain ⟨hnew, rfl⟩ := hsound
    have hsolid : Solid ((Change.linkUser key user.id (some user)).apply data) :=
      h.solid.apply ⟨hnew, rfl⟩
    refine ⟨h.of_solid hsolid rfl fun _ _ hseated => (hseated.withUser hnew).of_users rfl rfl,
      ?_⟩
    show ((data.users.insert user.id user)[user.id]?).isSome = true
    rw [Table.get_insert_self]
    rfl

theorem upsertOauthUser_kept {args : OauthSignIn}
    (hdrawn : (AccountCall.upsertOauthUser args).Drawn data)
    (hcareful : (AccountCall.upsertOauthUser args).Careful env data)
    (hcompletes : Completes docStep ((AccountCall.upsertOauthUser args).prog env) data outcome
      after) : CallKept env data ledger (.upsertOauthUser args) outcome after := by
  obtain ⟨hid, hplain, hfilled, htoken⟩ := hdrawn
  obtain ⟨result, hprog, hresult⟩ := completes_silently hcompletes
  obtain ⟨failure, rfl, hcheck⟩ | ⟨email, middle, hcheck, hrest⟩ := completes_andThen.mp hprog
  · obtain ⟨-, rfl⟩ := completes_ofExcept.mp hcheck
    obtain ⟨⟨_, hne⟩, -⟩ | ⟨failure', -, rfl⟩ := hresult
    · cases hne
    · exact .of_failed h (.inl rfl)
  · obtain ⟨hchecked, rfl⟩ := completes_ofExcept.mp hcheck
    have hat := validateEmail_ok hchecked.symm
    obtain ⟨failure, change, hbody, rfl, rfl⟩ | ⟨change, userId, hbody, hsession⟩ :=
      completes_pass_then hrest
    · obtain ⟨⟨_, hne⟩, -⟩ | ⟨_, -, rfl⟩ := hresult
      · cases hne
      · have hmild : Mild env middle args.clock (oauthPass env args email middle) :=
          fails_oauthPass (.inl rfl) args email
        exact .of_failed h (hmild failure change hbody)
    · have hlasts := hcareful email hchecked.symm (oauthPass_admits hbody)
      have hsound : ∃ key new, change = some (.linkUser key userId new) ∧
          (Change.linkUser key userId new).Sound middle := by
        obtain ⟨key, rfl, -⟩ | ⟨key, user, rfl, hsame, rfl, -⟩ := oauthPass_ok hbody
        · exact ⟨key, none, rfl, oauthPass_sound h.solid hat hbody trivial⟩
        · exact ⟨key, some user, rfl, oauthPass_sound h.solid hat hbody
            ⟨hsame ▸ hid, hsame ▸ hplain, hsame ▸ hfilled⟩⟩
      obtain ⟨key, new, rfl, hsound⟩ := hsound
      obtain ⟨hlinked, huser⟩ := h.linkUser hsound
      obtain ⟨⟨_, rfl⟩, session, recorded, hsessionUser, rfl⟩ :=
        completes_createSession hlinked.solid huser hlasts htoken hsession
      obtain ⟨-, rfl⟩ | ⟨_, hne, -⟩ := hresult
      · exact .of_same rfl (hlinked.addSession (hsessionUser ▸ huser))
      · cases hne

theorem kept_then_payload {call : AccountCall} {body : Pass Unit}
    {token : String} {later : Rat} (hmild : Mild env data call.now (body data))
    (hbody : ∀ change, body data = .ok (change, ()) →
      (∃ session, Live env (applyChange data change) token later session) ∧
      Consistent (applyChange data change) (ledger.after env data call) ∧
      ∀ (id : String) roster, ledger[id]? = some roster → ∃ roster',
        (ledger.after env data call)[id]? = some roster' ∧ roster'.creator = roster.creator)
    (hcompletes : Completes docStep
      (silently (do pass body; sessionPayload env token later)) data outcome after) :
    CallKept env data ledger call outcome after := by
  obtain ⟨result, hprog, hresult⟩ := completes_silently hcompletes
  obtain ⟨failure, change, herror, rfl, rfl⟩ | ⟨change, u, hok, hpayload⟩ :=
    completes_pass_then hprog
  · obtain ⟨⟨_, hne⟩, -⟩ | ⟨_, -, rfl⟩ := hresult
    · cases hne
    · exact .of_failed h (hmild failure change herror)
  · obtain ⟨⟨session, hlive⟩, hconsistent, hcreators⟩ := hbody change hok
    obtain ⟨⟨payload, rfl⟩, rfl⟩ := completes_payload hconsistent.solid hlive hpayload
    obtain ⟨-, rfl⟩ | ⟨_, hne, -⟩ := hresult
    · exact .of_returned hconsistent hcreators
    · cases hne

end

theorem Live.of_sessions {token : String} (h : Live env data token now session)
    (hsame : after.sessions = data.sessions) : Live env after token now session :=
  ⟨h.filled, hsame ▸ h.stored, h.fresh⟩

theorem Consistent.setTeam (h : Consistent data ledger) {teamId : String} {members : Table Member}
    {roster : Roster} (hsolid : Solid after)
    (hmembers : after.memberships = data.memberships.insert teamId members)
    (husers : after.users = data.users) (hindex : after.emailIndex = data.emailIndex)
    (hseated : Seated data members roster) : Consistent after (ledger.insert teamId roster) := by
  refine ⟨hsolid, fun id => ?_, fun id other roster' hget hroster => ?_⟩
  · rw [hmembers, Table.get_insert, Table.get_insert]
    split
    · rfl
    · exact h.rosters id
  · rw [hmembers, Table.get_insert] at hget
    rw [Table.get_insert] at hroster
    refine Seated.of_users ?_ husers hindex
    split at hget
    · next heq =>
      rw [if_pos heq] at hroster
      obtain rfl := Option.some.inj hget
      obtain rfl := Option.some.inj hroster
      exact hseated
    · next hne =>
      rw [if_neg hne] at hroster
      exact h.seated id other roster' hget hroster

theorem creator_nameMembers (roster : Roster) (specs : List MemberSpec) :
    (specs.foldl (Roster.nameMember env) roster).creator = roster.creator := by
  induction specs generalizing roster with
  | nil => rfl
  | cons spec specs ih => rw [List.foldl_cons, ih, Roster.creator_nameMember]

section

variable (h : Consistent data ledger)

include h

theorem createTeam_kept {args : NewTeam} (hdrawn : (AccountCall.createTeam args).Drawn data)
    (hcareful : (AccountCall.createTeam args).Careful env data)
    (hcompletes : Completes docStep ((AccountCall.createTeam args).prog env) data outcome after) :
    CallKept env data ledger (.createTeam args) outcome after := by
  refine kept_then_payload h (fails_newTeamPass (.inl rfl) (mild_validSession h.solid))
    (fun change hbody => ?_) hcompletes
  obtain ⟨session, team, owner, ownerMember, members, hlive, rfl, hid, -, howner, hrole,
    hmembers⟩ := newTeamPass_ok hbody
  have hsound : (Change.addTeam team session.userId members).Sound data :=
    newTeamPass_sound hbody ⟨hid ▸ hdrawn.1, hid ▸ hdrawn.2⟩
  obtain ⟨hseated, hinvited⟩ := seated_creator h.solid.registered howner hrole
  have hseats : Seated data members
      (args.members.foldl (Roster.inviteMember env) { creator := session.userId }) := by
    refine hseated.invites h.solid.registered hinvited (fun spec hmem email hemail hindex => ?_)
      hmembers
    obtain ⟨user, huser, rfl⟩ := h.solid.registered.user_of_index hindex
    rw [howner] at huser
    obtain rfl := Option.some.inj huser
    exact hcareful session owner hlive howner spec hmem hemail
  have hledger : ledger.after env data (.createTeam args) = ledger.insert team.id
      (args.members.foldl (Roster.inviteMember env) { creator := session.userId }) := by
    have hvalid : validSession env data args.token (nowOr args.now args.clock) = .ok session :=
      validSession_ok.mpr hlive
    rw [Ledger.after, hvalid, hid]
  refine ⟨⟨session, hlive.of_sessions rfl⟩, ?_, fun id roster hroster => ?_⟩
  · rw [hledger]
    exact h.setTeam (h.solid.apply hsound) rfl rfl rfl hseats
  · rw [hledger, Table.get_insert_of_ne]
    · exact ⟨roster, hroster, rfl⟩
    · rintro rfl
      have hsome := h.rosters team.id
      rw [hroster, h.solid.members, hsound.1] at hsome
      cases hsome

theorem updateTeam_kept {args : TeamUpdate}
    (hcompletes : Completes docStep ((AccountCall.updateTeam args).prog env) data outcome after) :
    CallKept env data ledger (.updateTeam args) outcome after := by
  refine kept_then_payload h (fails_updateTeamPass (.inl rfl) (mild_validSession h.solid))
    (fun change hbody => ?_) hcompletes
  obtain ⟨session, teamId, previous, team, hlive, rfl, -⟩ := updateTeamPass_ok hbody
  have hsound := updateTeamPass_sound h.solid hbody
  refine ⟨⟨session, hlive.of_sessions rfl⟩, ?_, fun id roster hroster => ⟨roster, hroster, rfl⟩⟩
  exact h.of_solid (h.solid.apply hsound) rfl fun _ _ hseated => hseated.of_users rfl rfl

theorem upsertTeamMembers_kept {args : TeamMembers}
    (hcompletes : Completes docStep ((AccountCall.upsertTeamMembers args).prog env) data outcome
      after) : CallKept env data ledger (.upsertTeamMembers args) outcome after := by
  refine kept_then_payload h (fails_membersPass (.inl rfl) (mild_validSession h.solid))
    (fun change hbody => ?_) hcompletes
  obtain ⟨session, teamId, members, hlive, hresolve, hteam, rfl, hmembers⟩ := membersPass_ok hbody
  obtain ⟨old, hold⟩ := Option.isSome_iff_exists.mp ((h.solid.members teamId).trans hteam)
  obtain ⟨roster, hroster⟩ : ∃ roster, ledger[teamId]? = some roster :=
    Option.isSome_iff_exists.mp (by rw [h.rosters, hold]; rfl)
  rw [hold, Option.getD_some] at hmembers
  have hseats := (h.seated teamId old roster hold hroster).upserts h.solid.registered hmembers
  have hledger : ledger.after env data (.upsertTeamMembers args) = ledger.insert teamId
      (args.members.foldl (Roster.nameMember env) roster) := by
    have hvalid : validSession env data args.token (nowOr args.now args.clock) = .ok session :=
      validSession_ok.mpr hlive
    rw [Ledger.after, hvalid]
    dsimp only
    rw [hresolve]
    dsimp only
    rw [hroster]
  refine ⟨⟨session, hlive.of_sessions rfl⟩, ?_, fun id other hother => ?_⟩
  · rw [hledger]
    have hsound : (Change.seatMembers teamId members).Sound data := hteam
    exact h.setTeam (h.solid.apply hsound) rfl rfl rfl hseats
  · rw [hledger, Table.get_insert]
    split
    · next heq =>
      subst heq
      rw [hroster] at hother
      obtain rfl := Option.some.inj hother
      exact ⟨_, rfl, creator_nameMembers roster args.members⟩
    · exact ⟨other, hother, rfl⟩

variable {token : String}

theorem setActiveTeam_kept {teamId : Option String} {clock later : Rat}
    (hcareful : (AccountCall.setActiveTeam token teamId clock later).Careful env data)
    (hcompletes : Completes docStep ((AccountCall.setActiveTeam token teamId clock later).prog env)
      data outcome after) :
    CallKept env data ledger (.setActiveTeam token teamId clock later) outcome after := by
  refine kept_then_payload h (fails_activatePass (.inl rfl) (mild_validSession h.solid))
    (fun change hbody => ?_) hcompletes
  obtain ⟨session, hlive, rfl⟩ := activatePass_ok hbody
  refine ⟨⟨session, (hcareful session hlive).of_sessions rfl⟩, ?_,
    fun id roster hroster => ⟨roster, hroster, rfl⟩⟩
  have hsolid : Solid ((Change.activateTeam session.userId teamId).apply data) :=
    h.solid.apply trivial
  exact h.of_solid hsolid rfl fun _ _ hseated => hseated.of_users rfl rfl

theorem deleteSession_kept
    (hcompletes : Completes docStep ((AccountCall.deleteSession token).prog env) data outcome
      after) : CallKept env data ledger (.deleteSession token) outcome after := by
  have hpass : Completes docStep (Operator.deleteSession env token) data outcome after :=
    hcompletes
  obtain ⟨change, u, hbody, rfl, rfl⟩ | ⟨_, _, herror, -⟩ := completes_pass hpass
  · cases hbody
    exact .of_same rfl (h.of_solid (h.solid.dropSession _) rfl
      fun _ _ hseated => hseated.of_users rfl rfl)
  · cases herror

/-- **Every call** keeps the document consistent with the ledger. -/
theorem call_kept (call : AccountCall) (hdrawn : call.Drawn data) (hcareful : call.Careful env data)
    (hcompletes : Completes docStep (call.prog env) data outcome after) :
    CallKept env data ledger call outcome after := by
  cases call with
  | createUser args => exact createUser_kept h hdrawn hcareful hcompletes
  | upsertOauthUser args => exact upsertOauthUser_kept h hdrawn hcareful hcompletes
  | createTeam args => exact createTeam_kept h hdrawn hcareful hcompletes
  | updateTeam args => exact updateTeam_kept h hcompletes
  | upsertTeamMembers args => exact upsertTeamMembers_kept h hcompletes
  | setActiveTeam token teamId clock later => exact setActiveTeam_kept h hcareful hcompletes
  | deleteSession token => exact deleteSession_kept h hcompletes

end

end

def sampleEnv : Env where
  lower := String.map Char.toLower
  isDecimal := Char.isDigit
  tokenHash
    | "tok1" => "80b3ad2d438bfafa1ea690c5a59f54548dcc76ad6a839c6704ac1d9d565d9c80"
    | token => token
  hashPassword salt password := salt ++ password
  verifyPassword _ _ := false
  iso now :=
    if now = 1000 then .ok "1970-01-01T00:16:40Z"
    else if now = 1000 + sessionTtlSeconds then .ok "1970-01-15T00:16:40Z"
    else .error (.other "time")
  fromIso text :=
    if text = "1970-01-15T00:16:40Z" then .ok (1000 + sessionTtlSeconds)
    else .error (.other "time")

def docAnswer : (op : DocOp) → Document → Option (DocResp op × Document)
  | .read, data => some (data, data)
  | .write change copy, _ => some ((), change.apply copy)

theorem docAnswer_step (op : DocOp) (data : Document) (r : DocResp op) (after : Document)
    (h : docAnswer op data = some (r, after)) : docStep op data r after := by
  cases op with
  | read =>
    cases h
    exact ⟨rfl, rfl⟩
  | write change copy =>
    cases h
    rfl

def AccountCall.ends (data : Document) (call : AccountCall) :
    Option (Except Failure Unit) × Document :=
  match Prog.exec docAnswer 8 (call.prog env) data with
  | some (.ret outcome, after) => (some outcome, after)
  | _ => (none, data)

theorem AccountCall.completes_of_ends {env : Env} {data : Document} {call : AccountCall}
    {outcome : Except Failure Unit} (h : (call.ends env data).1 = some outcome) :
    Completes docStep (call.prog env) data outcome (call.ends env data).2 := by
  unfold AccountCall.ends at h ⊢
  split at h
  · next after hexec =>
    cases h
    exact Prog.exec_runs docAnswer_step hexec
  · cases h

def sampleSignIn : AccountCall := .upsertOauthUser {
  provider := "github"
  providerUserId := "7"
  email := "a@x.io"
  clock := 1000
  user := { userId := "usr_Qm3" }
  session := { token := "tok1", later := 1000 } }

variable (email : String)

def sampleTeam : AccountCall := .createTeam {
  token := "tok1"
  name := "Core Team"
  members := [{ email }]
  clock := 1000
  teamId := "team_Rt5" }

def sampleUpdate : AccountCall := .updateTeam { token := "", teamId := none, clock := 1000 }

def signedIn : Document := (sampleSignIn.ends sampleEnv {}).2

def withTeam : Document := ((sampleTeam email).ends sampleEnv signedIn).2

def teamLedger : Ledger :=
  Ledger.after sampleEnv signedIn ∅ (sampleTeam email)

theorem follows_sample (meets : Document → AccountCall → Prop) (email : String)
    (hsignIn : meets {} sampleSignIn) (hteam : meets signedIn (sampleTeam email))
    (hends : ((sampleTeam email).ends sampleEnv signedIn).1 = some (.ok ())) :
    Follows sampleEnv meets [sampleSignIn, sampleTeam email] (withTeam email)
      (teamLedger email) := by
  have hfirst : (sampleSignIn.ends sampleEnv {}).1 = some (.ok ()) := by decide +kernel
  have hone := Follows.call .start sampleSignIn (.ok ()) hsignIn
    (AccountCall.completes_of_ends hfirst)
  exact hone.call (sampleTeam email) (.ok ()) hteam (AccountCall.completes_of_ends hends)

theorem signIn_drawn : sampleSignIn.Drawn {} := by
  refine ⟨by decide +kernel, ?_, by decide, by decide⟩
  rw [HasAt]
  decide

theorem team_drawn : (sampleTeam email).Drawn signedIn := by
  have hfresh : signedIn.teams["team_Rt5"]? = none := by decide +kernel
  have hfilled : "team_Rt5" ≠ "" := by decide
  exact ⟨hfresh, hfilled⟩

theorem consistent_empty : Consistent {} ∅ := by
  refine ⟨⟨⟨fun key id => ?_, fun id user hget => ?_⟩, fun key id => ?_, fun id team hget => ?_,
    fun id => ?_, fun hash session hget => ?_, fun key id hget => ?_⟩, fun id => ?_,
    fun id members roster hget => ?_⟩ <;> simp_all

/-- **Careful calls keep the accounts**, if they are not interleaved: the next one leaves all
creators, and if it fails it leaves the document, but for an expired session. -/
theorem accounts_kept (calls : List AccountCall) (data : Document) (ledger : Ledger)
    (h : Follows env (fun data call => call.Drawn data ∧ call.Careful env data) calls data
      ledger) :
    Kept data ledger ∧
      ∀ (call : AccountCall) (outcome : Except Failure Unit) (after : Document),
        call.Drawn data → call.Careful env data →
        Completes docStep (call.prog env) data outcome after →
        (∀ failure, outcome = .error failure → Forgets env data call.now after) ∧
        ∀ (id : String) roster, ledger[id]? = some roster → ∃ roster',
          (ledger.afterOutcome env data call outcome)[id]? = some roster' ∧
            roster'.creator = roster.creator := by
  have hconsistent : Consistent data ledger := by
    induction h with
    | start => exact consistent_empty
    | call past call outcome hmeets hcompletes ih =>
      exact (call_kept ih call hmeets.1 hmeets.2 hcompletes).consistent
  refine ⟨hconsistent.kept, fun call outcome after hdrawn hcareful hcompletes => ?_⟩
  have hkept := call_kept hconsistent call hdrawn hcareful hcompletes
  exact ⟨hkept.failed, hkept.creators⟩

theorem accounts_kept_sample :
    Kept (withTeam "b@x.io") (teamLedger "b@x.io") ∧
      Forgets sampleEnv (withTeam "b@x.io") 1000 (withTeam "b@x.io") := by
  have hsignIn : sampleSignIn.Careful sampleEnv {} := by
    intro _ _ _
    exact ⟨"1970-01-01T00:16:40Z", "1970-01-15T00:16:40Z", 1000 + sessionTtlSeconds,
      by decide +kernel, by decide +kernel, by decide +kernel, by decide +kernel⟩
  have hteam : (sampleTeam "b@x.io").Careful sampleEnv signedIn := by
    intro session owner hlive howner spec hmem
    have hsession : (signedIn.sessions[sampleEnv.tokenHash "tok1"]?).map Session.userId =
        some "usr_Qm3" := by decide +kernel
    rw [hlive.stored, Option.map_some, Option.some.injEq] at hsession
    have hemail : (signedIn.users["usr_Qm3"]?).map User.email = some "a@x.io" := by
      decide +kernel
    rw [← hsession, howner, Option.map_some, Option.some.injEq] at hemail
    rw [List.mem_singleton.mp hmem, hemail]
    decide +kernel
  have hfollows := follows_sample
    (fun data call => call.Drawn data ∧ call.Careful sampleEnv data) "b@x.io"
    ⟨signIn_drawn, hsignIn⟩ ⟨team_drawn "b@x.io", hteam⟩ (by decide +kernel)
  obtain ⟨hkept, hnext⟩ := accounts_kept sampleEnv _ _ _ hfollows
  have hcompletes : Completes docStep (sampleUpdate.prog sampleEnv) (withTeam "b@x.io")
      (.error (.value "session required")) (withTeam "b@x.io") :=
    sampleUpdate.completes_of_ends (by decide +kernel)
  obtain ⟨hfailed, -⟩ := hnext sampleUpdate _ _ trivial trivial hcompletes
  exact ⟨hkept, hfailed _ rfl⟩

/-- A team is made with its creator's own address among the members: the creator
sits twice. -/
theorem creator_seated_twice :
    ¬ ∀ (env : Env) (calls : List AccountCall) (data : Document) (ledger : Ledger),
      Follows env (fun data call => call.Drawn data) calls data ledger →
      Kept data ledger ∧
        ∀ (call : AccountCall) (outcome : Except Failure Unit) (after : Document),
          call.Drawn data → Completes docStep (call.prog env) data outcome after →
          (∀ failure, outcome = .error failure → Forgets env data call.now after) ∧
          ∀ (id : String) roster, ledger[id]? = some roster → ∃ roster',
            (ledger.afterOutcome env data call outcome)[id]? = some roster' ∧
              roster'.creator = roster.creator := by
  intro hclaim
  obtain ⟨hkept, -⟩ := hclaim _ _ _ _ (follows_sample
    (fun data call => call.Drawn data) "a@x.io" signIn_drawn (team_drawn _) (by decide +kernel))
  have hseats : ((withTeam "a@x.io").memberships["team_Rt5"]?).any (fun members =>
      (members["usr_Qm3"]?).isSome && (members["a@x.io"]?).isSome) = true := by decide +kernel
  have huser : ((withTeam "a@x.io").users["usr_Qm3"]?).map User.email = some "a@x.io" := by
    decide +kernel
  obtain ⟨members, hmembers, hboth⟩ := (Option.any_eq_true _ _).mp hseats
  obtain ⟨user, hget, hemail⟩ := Option.map_eq_some_iff.mp huser
  obtain ⟨hid, haddress⟩ := Bool.and_eq_true_iff.mp hboth
  obtain hnone | hnone := hkept.single "team_Rt5" members "usr_Qm3" user hmembers hget
  · rw [hnone] at hid
    cases hid
  · rw [hemail] at hnone
    rw [hnone] at haddress
    cases haddress

end OrbitalMesh.Operator
