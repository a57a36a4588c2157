import OrbitalMesh.Operator.Seats

/-!
# What the passes change

`Solid` is what every call relies on: the two indexes, sessions of users that
exist, and members for the teams that exist.  Each pass makes a `Sound` change of
the document it read, or fails and at most forgets a session that has expired; a
sound change keeps a document solid.
-/

namespace OrbitalMesh.Operator

open Atomic Raising

variable (data : Document)

/-- What the tables of a document have to do with each other. -/
structure Solid : Prop where
  registered : Registered data
  slugs : IndexOf data.teamSlugIndex data.teams Team.slug
  teams : ∀ (id : String) team, data.teams[id]? = some team → team.id = id ∧ id ≠ ""
  members : ∀ id : String, (data.memberships[id]?).isSome = (data.teams[id]?).isSome
  sessions : ∀ (hash : String) session, data.sessions[hash]? = some session →
    session.tokenHash = hash ∧ (data.users[session.userId]?).isSome = true
  oauth : ∀ (key : String) id, data.oauthIndex[key]? = some id →
    (data.users[id]?).isSome = true

def Change.Sound : Change → Prop
  | .addUser user => NewUser data user
  | .linkUser _ userId new =>
    new.elim ((data.users[userId]?).isSome = true) fun user =>
      NewUser data user ∧ user.id = userId
  | .addSession session _ => (data.users[session.userId]?).isSome = true
  | .addTeam team _ _ =>
    data.teams[team.id]? = none ∧ team.id ≠ "" ∧ data.teamSlugIndex[team.slug]? = none
  | .editTeam previous team =>
    data.teams[previous.id]? = some previous ∧ team.id = previous.id ∧
      ∀ id, data.teamSlugIndex[team.slug]? = some id → id = previous.id
  | .seatMembers teamId _ => (data.teams[teamId]?).isSome = true
  | _ => True

/-- What `secrets` draws for a change is new to the document. -/
def Change.Drawn : Change → Prop
  | .addUser user | .linkUser _ _ (some user) =>
    data.users[user.id]? = none ∧ ¬ HasAt user.id ∧ user.id ≠ ""
  | .addTeam team _ _ => data.teams[team.id]? = none ∧ team.id ≠ ""
  | _ => True

section

variable {data : Document}

theorem isSome_insert {α : Type} {table : Table α} {key other : String} {value : α}
    (h : (table[other]?).isSome = true) : ((table.insert key value)[other]?).isSome = true := by
  rw [Table.get_insert]
  split
  · rfl
  · exact h

theorem Registered.of_users {data' : Document} (h : Registered data)
    (husers : data'.users = data.users) (hindex : data'.emailIndex = data.emailIndex) :
    Registered data' := by
  obtain ⟨emails, users⟩ := h
  rw [← husers, ← hindex] at emails
  rw [← husers] at users
  exact ⟨emails, users⟩

theorem Solid.withUser {user : User} (h : Solid data) (hnew : NewUser data user) :
    Solid (data.withUser user) :=
  ⟨h.registered.withUser hnew, h.slugs, h.teams, h.members,
    fun hash session hget => ⟨(h.sessions hash session hget).1,
      isSome_insert (h.sessions hash session hget).2⟩,
    fun key id hget => isSome_insert (h.oauth key id hget)⟩

theorem Solid.dropSession (h : Solid data) (hash : String) :
    Solid { data with sessions := data.sessions.erase hash } := by
  refine ⟨h.registered.of_users rfl rfl, h.slugs, h.teams, h.members,
    fun other session hget => ?_, h.oauth⟩
  rw [show ({ data with sessions := data.sessions.erase hash } : Document).sessions =
    data.sessions.erase hash from rfl, Table.get_erase] at hget
  split at hget
  · cases hget
  · exact h.sessions other session hget

/-- **A sound change** keeps a document solid. -/
theorem Solid.apply (h : Solid data) {change : Change} (hsound : change.Sound data) :
    Solid (change.apply data) := by
  cases change with
  | addUser user => exact h.withUser hsound
  | linkUser oauthKey userId new =>
    have hlink : ∀ data : Document, Solid data → (data.users[userId]?).isSome = true →
        Solid { data with oauthIndex := data.oauthIndex.insert oauthKey userId } := by
      intro data h huser
      refine ⟨h.registered.of_users rfl rfl, h.slugs, h.teams, h.members, h.sessions,
        fun key id hget => ?_⟩
      rw [show ({ data with oauthIndex := data.oauthIndex.insert oauthKey userId } :
        Document).oauthIndex = data.oauthIndex.insert oauthKey userId from rfl,
        Table.get_insert] at hget
      split at hget
      · exact Option.some.inj hget ▸ huser
      · exact h.oauth key id hget
    cases new with
    | none => exact hlink data h hsound
    | some user =>
      obtain ⟨hnew, rfl⟩ := hsound
      refine hlink _ (h.withUser hnew) ?_
      show ((data.users.insert user.id user)[user.id]?).isSome = true
      rw [Table.get_insert_self]
      rfl
  | addSession session event =>
    refine ⟨h.registered.of_users rfl rfl, h.slugs, h.teams, h.members,
      fun hash other hget => ?_, h.oauth⟩
    rw [show (Change.apply data (.addSession session event)).sessions =
      data.sessions.insert session.tokenHash session from rfl, Table.get_insert] at hget
    split at hget
    · next heq =>
      obtain rfl := Option.some.inj hget
      exact ⟨heq.symm, hsound⟩
    · exact h.sessions hash other hget
  | dropSession hash | expireSession hash => exact h.dropSession hash
  | addTeam team owner members =>
    obtain ⟨hfresh, hid, hslug⟩ := hsound
    refine ⟨h.registered.of_users rfl rfl, h.slugs.insert_new team hfresh hslug,
      fun id other hget => ?_, fun id => ?_, h.sessions, h.oauth⟩
    · rw [show (Change.apply data (.addTeam team owner members)).teams =
        data.teams.insert team.id team from rfl, Table.get_insert] at hget
      split at hget
      · next heq =>
        obtain rfl := Option.some.inj hget
        exact ⟨heq.symm, heq ▸ hid⟩
      · exact h.teams id other hget
    · show ((data.memberships.insert team.id members)[id]?).isSome =
        ((data.teams.insert team.id team)[id]?).isSome
      rw [Table.get_insert, Table.get_insert]
      split
      · rfl
      · exact h.members id
  | editTeam previous team =>
    obtain ⟨hprevious, hid, hslug⟩ := hsound
    have hnotEmpty := (h.teams _ _ hprevious).2
    refine ⟨h.registered.of_users rfl rfl, ?_, fun id other hget => ?_, fun id => ?_,
      h.sessions, h.oauth⟩
    · show IndexOf (if team.slug = previous.slug then data.teamSlugIndex
        else (data.teamSlugIndex.erase previous.slug).insert team.slug team.id)
        (data.teams.insert team.id team) Team.slug
      rw [hid]
      split
      · next hsame => exact h.slugs.replace hprevious hsame
      · next hne =>
        refine h.slugs.move hprevious ?_
        cases hget : data.teamSlugIndex[team.slug]? with
        | none => rfl
        | some id =>
          obtain rfl := hslug id hget
          obtain ⟨record, hrecord, hkey⟩ := (h.slugs _ _).mp hget
          rw [hprevious] at hrecord
          obtain rfl := Option.some.inj hrecord
          exact absurd hkey.symm hne
    · rw [show (Change.apply data (.editTeam previous team)).teams =
        data.teams.insert team.id team from rfl, Table.get_insert] at hget
      split at hget
      · next heq =>
        obtain rfl := Option.some.inj hget
        exact ⟨heq.symm, by rw [heq, hid]; exact hnotEmpty⟩
      · exact h.teams id other hget
    · show (data.memberships[id]?).isSome = ((data.teams.insert team.id team)[id]?).isSome
      rw [Table.get_insert]
      split
      · next heq => rw [heq, h.members, hid, hprevious]; rfl
      · exact h.members id
  | seatMembers teamId members =>
    refine ⟨h.registered.of_users rfl rfl, h.slugs, h.teams, fun id => ?_, h.sessions, h.oauth⟩
    show ((data.memberships.insert teamId members)[id]?).isSome = (data.teams[id]?).isSome
    rw [Table.get_insert]
    split
    · next heq => exact heq ▸ hsound.symm
    · exact h.members id
  | activateTeam | setSettings | addState | dropState =>
    exact ⟨h.registered.of_users rfl rfl, h.slugs, h.teams, h.members, h.sessions, h.oauth⟩

end

section

variable {env : Env} {data : Document} {token : String} {now : Rat} {α : Type} {session : Session}

@[simp] theorem check_ok {x : Except Failure α} {a : α} : check x = .ok a ↔ x = .ok a := by
  cases x <;> simp [check, Except.mapError]

@[simp] theorem refuse_ok {condition : Bool} {failure : Failure} {u : Unit} :
    refuse condition failure = .ok u ↔ condition = false := by
  cases condition <;> simp [refuse]

@[simp] theorem lookup_ok {table : Table α} {key : String} {value : α} :
    lookup table key = .ok value ↔ table[key]? = some value := by
  unfold lookup
  cases table[key]? <;> simp

structure Live (env : Env) (data : Document) (token : String) (now : Rat) (session : Session) :
    Prop where
  filled : token ≠ ""
  stored : data.sessions[env.tokenHash token]? = some session
  fresh : ∃ expires, env.fromIso session.expiresAt = .ok expires ∧ ¬ expires < now

theorem validSession_ok :
    validSession env data token now = .ok session ↔ Live env data token now session := by
  unfold validSession
  constructor
  · intro h
    split at h
    · cases h
    · next hfilled =>
      split at h
      · cases h
      · next record hrecord =>
        split at h
        · cases h
        · next expires hexpires =>
          split at h
          · cases h
          · next hfresh =>
            obtain rfl := Except.ok.inj h
            exact ⟨hfilled, hrecord, expires, hexpires, hfresh⟩
  · rintro ⟨hfilled, hstored, expires, hexpires, hfresh⟩
    rw [if_neg hfilled, hstored]
    dsimp only
    rw [hexpires]
    exact if_neg hfresh

/-- What a failed call leaves: the document, or the document without a session that
had expired by the clock of the call. -/
def Forgets (env : Env) (data : Document) (now : Rat) (after : Document) : Prop :=
  after = data ∨ ∃ (hash : String) (session : Session) (expires : Rat),
    data.sessions[hash]? = some session ∧ env.fromIso session.expiresAt = .ok expires ∧
      expires < now ∧ after = { data with sessions := data.sessions.erase hash }

def Fails {α : Type} (allowed : Option Change → Prop)
    (result : Except (Failure × Option Change) α) : Prop :=
  ∀ failure change, result = .error (failure, change) → allowed change

abbrev Mild {α : Type} (env : Env) (data : Document) (now : Rat)
    (result : Except (Failure × Option Change) α) : Prop :=
  Fails (fun change => Forgets env data now (applyChange data change)) result

section

variable {α β : Type} {allowed : Option Change → Prop}

theorem fails_ok (a : α) : Fails allowed (.ok a) := fun _ _ h => by cases h

theorem fails_error (hnone : allowed none) (failure : Failure) :
    Fails allowed (.error (failure, none) : Except _ α) := by
  rintro _ _ ⟨⟩
  exact hnone

theorem fails_check (hnone : allowed none) (x : Except Failure α) : Fails allowed (check x) := by
  cases x with
  | ok a => exact fails_ok a
  | error failure => exact fails_error hnone failure

variable {f : α → Except (Failure × Option Change) β}

theorem Fails.bind {x : Except (Failure × Option Change) α} (h : Fails allowed x)
    (hf : ∀ a, x = .ok a → Fails allowed (f a)) : Fails allowed (x >>= f) := by
  intro failure change herror
  cases x with
  | ok a => exact hf a rfl failure change herror
  | error e =>
    obtain rfl := Except.error.inj herror
    exact h failure change rfl

theorem fails_check_bind (hnone : allowed none) {x : Except Failure α}
    (hf : ∀ a, Fails allowed (f a)) : Fails allowed (check x >>= f) :=
  (fails_check hnone x).bind fun a _ => hf a

theorem fails_validSession (hnone : allowed none)
    (hexpired : ∀ record expires, data.sessions[env.tokenHash token]? = some record →
      env.fromIso record.expiresAt = .ok expires → expires < now →
      allowed (some (.expireSession record.tokenHash))) :
    Fails allowed (validSession env data token now) := by
  unfold validSession
  split
  · exact fails_error hnone _
  · split
    · exact fails_error hnone _
    · next record hrecord =>
      split
      · exact fails_error hnone _
      · next expires hexpires =>
        split
        · next hlate =>
          rintro _ _ ⟨⟩
          exact hexpired record expires hrecord hexpires hlate
        · exact fails_ok _

end

theorem mild_validSession (h : Solid data) :
    Mild env data now (validSession env data token now) := by
  refine fails_validSession (.inl rfl) fun record expires hrecord hexpires hlate => ?_
  refine .inr ⟨env.tokenHash token, record, expires, hrecord, hexpires, hlate, ?_⟩
  rw [← (h.sessions _ record hrecord).1]
  rfl

/-- **A valid session has a payload.** -/
theorem payloadPass_ok (h : Solid data) (hlive : Live env data token now session) :
    ∃ payload, payloadPass env token now data = .ok (none, payload) := by
  obtain ⟨user, huser⟩ := Option.isSome_iff_exists.mp (h.sessions _ session hlive.stored).2
  have hstanding : ∀ entry ∈ membershipsOf data user.id,
      (data.teams[entry.1]?).isSome = true := by
    intro entry hmem
    obtain ⟨⟨teamId, members⟩, hstored, hentry⟩ := List.mem_filterMap.mp hmem
    obtain ⟨membership, -, rfl⟩ := Option.map_eq_some_iff.mp hentry
    rw [← h.members, Std.ExtTreeMap.mem_toList_iff_getElem?_eq_some.mp hstored]
    rfl
  obtain ⟨teams, hresult⟩ : ∃ teams, teamsForUser env data user.id = .ok teams := by
    refine ⟨_, Except.bind_ok_iff.mpr
      ⟨_, (exists_mapM_ok_iff.mpr fun entry hmem => ?_).choose_spec, rfl⟩⟩
    obtain ⟨team, hteam⟩ := Option.isSome_iff_exists.mp (hstanding entry hmem)
    obtain ⟨teamId, membership, members⟩ := entry
    refine ⟨publicTeam team membership members, ?_⟩
    dsimp only
    rw [lookup_ok.mpr hteam]
    rfl
  rw [payloadPass, validSession_ok.mpr hlive]
  dsimp only [bind, Except.bind]
  rw [lookup_ok.mpr huser]
  dsimp only [check, Except.mapError]
  rw [hresult]
  exact ⟨_, rfl⟩

end

section

variable {env : Env} {data : Document} {now : Rat} {change : Option Change}
variable {allowed : Option Change → Prop} {userId email : String} {u : Unit}

theorem sessionPass_ok {event : Option AuthEventSpec} {draw : SessionDraw}
    (h : sessionPass env userId now event draw data = .ok (change, u)) :
    ∃ session recorded, change = some (.addSession session recorded) ∧
      session.tokenHash = env.tokenHash draw.token ∧ session.userId = userId ∧
      (data.users[userId]?).isSome = true ∧
      env.iso (now + sessionTtlSeconds) = .ok session.expiresAt := by
  obtain ⟨_, hknown, h⟩ := bind_ok h
  obtain ⟨createdAt, -, h⟩ := bind_ok h
  obtain ⟨expiresAt, hexpires, h⟩ := bind_ok h
  cases h
  exact ⟨_, _, rfl, rfl, rfl, by simpa using hknown, check_ok.mp hexpires⟩

theorem fails_sessionPass (hnone : allowed none) (userId : String) (event : Option AuthEventSpec)
    (draw : SessionDraw) : Fails allowed (sessionPass env userId now event draw data) :=
  fails_check_bind hnone fun _ => fails_check_bind hnone fun _ => fails_check_bind hnone
    fun _ => fails_ok _

theorem userPass_ok {args : SignUp} (h : userPass env args email now data = .ok (change, u)) :
    ∃ user : User, change = some (.addUser user) ∧ user.id = args.user.userId ∧
      user.email = email ∧ data.emailIndex[email]? = none ∧ ∃ stamp, env.iso now = .ok stamp := by
  obtain ⟨_, hnew, h⟩ := bind_ok h
  obtain ⟨stamp, hstamp, h⟩ := bind_ok h
  cases h
  rw [check_ok, refuse_ok] at hnew
  exact ⟨_, rfl, rfl, rfl, eq_none_of_isSome_eq_false hnew, stamp, check_ok.mp hstamp⟩

theorem userPass_sound {args : SignUp} {change : Change} (hemail : HasAt email)
    (h : userPass env args email now data = .ok (some change, u)) (hdrawn : change.Drawn data) :
    change.Sound data := by
  obtain ⟨user, heq, -, rfl, hfree, -⟩ := userPass_ok h
  obtain rfl := Option.some.inj heq
  exact ⟨hdrawn.1, hfree, hdrawn.2.1, hdrawn.2.2, hemail⟩

theorem fails_userPass (hnone : allowed none) (args : SignUp) (email : String) :
    Fails allowed (userPass env args email now data) :=
  fails_check_bind hnone fun _ => fails_check_bind hnone fun _ => fails_ok _

variable {args : OauthSignIn}

theorem oauthPass_ok (h : oauthPass env args email data = .ok (change, userId)) :
    (∃ key, change = some (.linkUser key userId none) ∧ (data.oauthIndex[key]? = some userId ∨
        data.emailIndex[email]? = some userId)) ∨
      ∃ key user, change = some (.linkUser key userId (some user)) ∧ user.id = userId ∧
        userId = args.user.userId ∧ user.email = email ∧
        ∀ id, data.emailIndex[email]? = some id → id = "" := by
  unfold oauthPass at h
  dsimp only at h
  split at h
  · next id hknown =>
    cases h
    refine .inl ⟨_, rfl, ?_⟩
    obtain hlinked | ⟨-, hindexed⟩ := Option.or_eq_some_iff.mp hknown
    · exact .inl (Option.filter_eq_some_iff.mp hlinked).1
    · exact .inr (Option.filter_eq_some_iff.mp hindexed).1
  · next hunknown =>
    obtain ⟨_, -, h⟩ := bind_ok h
    obtain ⟨stamp, -, h⟩ := bind_ok h
    cases h
    refine .inr ⟨_, _, rfl, rfl, rfl, rfl, fun id hid => ?_⟩
    obtain ⟨-, hnone⟩ := Option.or_eq_none_iff.mp hunknown
    rw [hid] at hnone
    by_contra hfilled
    rw [Option.filter_some_pos (by simpa using hfilled)] at hnone
    cases hnone

theorem oauthPass_admits (h : oauthPass env args email data = .ok (change, userId)) :
    (knownUser data (args.provider ++ ":" ++ args.providerUserId) email).isSome = true ∨
      verifyInviteGate env email "" args.inviteAllowlist [] = .ok () := by
  unfold oauthPass at h
  dsimp only at h
  split at h
  · next id hknown => exact .inl (by rw [hknown]; rfl)
  · obtain ⟨_, hgate, -⟩ := bind_ok h
    exact .inr (check_ok.mp hgate)

theorem oauthPass_sound {change : Change} (hsolid : Solid data)
    (hemail : HasAt email) (h : oauthPass env args email data = .ok (some change, userId))
    (hdrawn : change.Drawn data) : change.Sound data := by
  obtain ⟨key, heq, hlinked | hindexed⟩ | ⟨key, user, heq, hsame, -, rfl, hfree⟩ := oauthPass_ok h
  · obtain rfl := Option.some.inj heq
    exact hsolid.oauth key userId hlinked
  · obtain rfl := Option.some.inj heq
    obtain ⟨user, huser, -⟩ := hsolid.registered.user_of_index hindexed
    exact Option.isSome_iff_exists.mpr ⟨user, huser⟩
  · obtain rfl := Option.some.inj heq
    refine ⟨⟨hdrawn.1, ?_, hdrawn.2.1, hdrawn.2.2, hemail⟩, hsame⟩
    cases hget : data.emailIndex[user.email]? with
    | none => rfl
    | some id =>
      obtain ⟨other, hother, -⟩ := hsolid.registered.user_of_index hget
      exact absurd (hfree id hget) (hsolid.registered.users id other hother).2.2.1

theorem fails_oauthPass (hnone : allowed none) (args : OauthSignIn) (email : String) :
    Fails allowed (oauthPass env args email data) := by
  unfold oauthPass
  dsimp only
  split
  · exact fails_ok _
  · exact fails_check_bind hnone fun _ => fails_check_bind hnone fun _ => fails_ok _

theorem newTeamPass_ok {args : NewTeam} (h : newTeamPass env args now data = .ok (change, u)) :
    ∃ (session : Session) (team : Team) (owner : User) (ownerMember : Member)
        (members : Table Member), Live env data args.token now session ∧
      change = some (.addTeam team session.userId members) ∧ team.id = args.teamId ∧
      data.teamSlugIndex[team.slug]? = none ∧ data.users[session.userId]? = some owner ∧
      ownerMember.role = .owner ∧ args.members.foldlM (invitedMember env data now)
        ((∅ : Table Member).insert session.userId ownerMember) = .ok members := by
  obtain ⟨session, hsession, h⟩ := bind_ok h
  obtain ⟨teamName, -, h⟩ := bind_ok h
  obtain ⟨_, -, h⟩ := bind_ok h
  obtain ⟨_, hslug, h⟩ := bind_ok h
  obtain ⟨stamp, -, h⟩ := bind_ok h
  obtain ⟨owner, howner, h⟩ := bind_ok h
  obtain ⟨members, hmembers, h⟩ := bind_ok h
  cases h
  rw [check_ok, refuse_ok] at hslug
  rw [check_ok, lookup_ok] at howner
  exact ⟨session, _, owner, _, members, validSession_ok.mp hsession, rfl, rfl,
    eq_none_of_isSome_eq_false hslug, howner, rfl, check_ok.mp hmembers⟩

theorem newTeamPass_sound {args : NewTeam} {change : Change}
    (h : newTeamPass env args now data = .ok (some change, u)) (hdrawn : change.Drawn data) :
    change.Sound data := by
  obtain ⟨session, team, owner, ownerMember, members, -, heq, -, hslug, -⟩ := newTeamPass_ok h
  obtain rfl := Option.some.inj heq
  exact ⟨hdrawn.1, hdrawn.2, hslug⟩

theorem fails_newTeamPass (hnone : allowed none) {args : NewTeam}
    (hsession : Fails allowed (validSession env data args.token now)) :
    Fails allowed (newTeamPass env args now data) :=
  hsession.bind fun _ _ => fails_check_bind hnone fun _ => fails_check_bind hnone fun _ =>
    fails_check_bind hnone fun _ => fails_check_bind hnone fun _ => fails_check_bind hnone
      fun _ => fails_check_bind hnone fun _ => fails_ok _

theorem renamedTeam_ok {teamId name : String} {team renamed : Team}
    (h : renamedTeam env data teamId team name = .ok renamed) :
    renamed.id = team.id ∧ (renamed.slug = team.slug ∨
      ∀ id, data.teamSlugIndex[renamed.slug]? = some id → id = "" ∨ id = teamId) := by
  unfold renamedTeam at h
  split at h
  · cases h
    exact ⟨rfl, .inl rfl⟩
  · obtain ⟨teamName, -, h⟩ := bind_ok h
    obtain ⟨_, -, h⟩ := bind_ok h
    obtain ⟨_, hother, h⟩ := bind_ok h
    cases h
    refine ⟨rfl, .inr fun id hid => ?_⟩
    rw [refuse_ok, hid] at hother
    by_contra hboth
    rw [not_or] at hboth
    simp [hboth.1, hboth.2] at hother

theorem updateTeamPass_ok {args : TeamUpdate}
    (h : updateTeamPass env args now data = .ok (change, u)) :
    ∃ (session : Session) (teamId : String) (previous team : Team),
      Live env data args.token now session ∧ change = some (.editTeam previous team) ∧
      data.teams[teamId]? = some previous ∧ team.id = previous.id ∧
      (team.slug = previous.slug ∨
        ∀ id, data.teamSlugIndex[team.slug]? = some id → id = "" ∨ id = teamId) := by
  obtain ⟨session, hsession, h⟩ := bind_ok h
  obtain ⟨teamId, -, h⟩ := bind_ok h
  obtain ⟨_, -, h⟩ := bind_ok h
  obtain ⟨previous, hprevious, h⟩ := bind_ok h
  obtain ⟨renamed, hrenamed, h⟩ := bind_ok h
  obtain ⟨stamp, -, h⟩ := bind_ok h
  cases h
  rw [check_ok, lookup_ok] at hprevious
  obtain ⟨hid, hslug⟩ := renamedTeam_ok (check_ok.mp hrenamed)
  exact ⟨session, teamId, previous, _, validSession_ok.mp hsession, rfl, hprevious, hid, hslug⟩

theorem updateTeamPass_sound {args : TeamUpdate} {change : Change} (hsolid : Solid data)
    (h : updateTeamPass env args now data = .ok (some change, u)) : change.Sound data := by
  obtain ⟨session, teamId, previous, team, -, heq, hprevious, hid, hslug⟩ := updateTeamPass_ok h
  obtain rfl := Option.some.inj heq
  obtain ⟨hteamId, -⟩ := hsolid.teams teamId previous hprevious
  refine ⟨hteamId ▸ hprevious, hid, fun id hindex => ?_⟩
  obtain ⟨other, hother, -⟩ := (hsolid.slugs _ _).mp hindex
  obtain hsame | hfree := hslug
  · have hprev := (hsolid.slugs team.slug previous.id).mpr
      ⟨previous, hteamId ▸ hprevious, hsame.symm⟩
    exact Option.some.inj (hindex.symm.trans hprev)
  · obtain hempty | heq := hfree id hindex
    · exact absurd hempty (hsolid.teams id other hother).2
    · exact heq.trans hteamId.symm

theorem fails_updateTeamPass (hnone : allowed none) {args : TeamUpdate}
    (hsession : Fails allowed (validSession env data args.token now)) :
    Fails allowed (updateTeamPass env args now data) :=
  hsession.bind fun _ _ => fails_check_bind hnone fun _ => fails_check_bind hnone fun _ =>
    fails_check_bind hnone fun _ => fails_check_bind hnone fun _ => fails_check_bind hnone
      fun _ => fails_ok _

theorem membersPass_ok {args : TeamMembers} (h : membersPass env args now data = .ok (change, u)) :
    ∃ (session : Session) (teamId : String) (members : Table Member),
      Live env data args.token now session ∧
      resolveTeam data session.userId args.teamId = .ok teamId ∧
      (data.teams[teamId]?).isSome = true ∧ change = some (.seatMembers teamId members) ∧
      args.members.foldlM (upsertTeamMember env data now)
        ((data.memberships[teamId]?).getD ∅) = .ok members := by
  obtain ⟨session, hsession, h⟩ := bind_ok h
  obtain ⟨teamId, hteam, h⟩ := bind_ok h
  obtain ⟨_, hadmin, h⟩ := bind_ok h
  obtain ⟨_, -, h⟩ := bind_ok h
  obtain ⟨members, hmembers, h⟩ := bind_ok h
  cases h
  refine ⟨session, teamId, members, validSession_ok.mp hsession, check_ok.mp hteam, ?_, rfl,
    check_ok.mp hmembers⟩
  by_contra hmissing
  rw [requireTeamAdmin, if_pos (by simpa using hmissing)] at hadmin
  cases hadmin

theorem fails_membersPass (hnone : allowed none) {args : TeamMembers}
    (hsession : Fails allowed (validSession env data args.token now)) :
    Fails allowed (membersPass env args now data) :=
  hsession.bind fun _ _ => fails_check_bind hnone fun _ => fails_check_bind hnone fun _ =>
    fails_check_bind hnone fun _ => fails_check_bind hnone fun _ => fails_ok _

variable {token : String} {teamId : Option String}

theorem activatePass_ok (h : activatePass env token teamId now data = .ok (change, u)) :
    ∃ session, Live env data token now session ∧
      change = some (.activateTeam session.userId teamId) := by
  obtain ⟨session, hsession, h⟩ := bind_ok h
  obtain ⟨_, -, h⟩ := bind_ok h
  cases h
  exact ⟨session, validSession_ok.mp hsession, rfl⟩

theorem fails_activatePass (hnone : allowed none)
    (hsession : Fails allowed (validSession env data token now)) :
    Fails allowed (activatePass env token teamId now data) :=
  hsession.bind fun _ _ => fails_check_bind hnone fun _ => fails_ok _

end

end OrbitalMesh.Operator
