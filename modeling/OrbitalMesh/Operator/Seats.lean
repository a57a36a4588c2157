import OrbitalMesh.Operator.IdentityCalls

/-!
# Who sits in a team

A roster says what a team's memberships are for: who made the team, and the role
that each address was last named with.  Memberships are kept under user ids and
under addresses; `Seated` is what makes them one seat for each person, whichever
key it has, and every change to the members of a team keeps it.
-/

namespace OrbitalMesh.Operator

/-- The creator of a team, and the role each address was last named with. -/
structure Roster where
  creator : String
  named : Table Role := ∅

/-- A text with an at sign, as addresses are and drawn ids are not. -/
def HasAt (text : String) : Prop := '@' ∈ text.toList

/-- The memberships of a team are those of its roster. -/
structure Seated (data : Document) (members : Table Member) (roster : Roster) : Prop where
  owner : ∃ user member, data.users[roster.creator]? = some user ∧
    members[roster.creator]? = some member ∧ member.role = .owner ∧ members[user.email]? = none
  others : ∀ (key : String) member, members[key]? = some member → key ≠ roster.creator →
    member.role ≠ .owner
  keys : ∀ key : String, (members[key]?).isSome = true →
    HasAt key ∨ (data.users[key]?).isSome = true
  one : ∀ (id : String) user, data.users[id]? = some user → id ≠ roster.creator →
    members[id]? = none ∨ members[user.email]? = none
  named : ∀ (id : String) user, data.users[id]? = some user → id ≠ roster.creator →
    ((members[id]?).or members[user.email]?).map Member.role = roster.named[user.email]?
  unclaimed : ∀ email : String, HasAt email → data.emailIndex[email]? = none →
    (members[email]?).map Member.role = roster.named[email]?

structure Registered (data : Document) : Prop where
  emails : IndexOf data.emailIndex data.users User.email
  users : ∀ (id : String) user, data.users[id]? = some user →
    user.id = id ∧ ¬ HasAt id ∧ id ≠ "" ∧ HasAt user.email

section

variable {env : Env}

theorem hasAt_of_isEmail {text : String} (h : isEmail text = true) : HasAt text := by
  by_contra hnone
  have hsplit : text.toList.splitOnP (· = '@') = [text.toList] := by
    refine List.splitOnP_eq_singleton fun c hc => decide_eq_false ?_
    rintro rfl
    exact hnone hc
  rw [isEmail, hsplit] at h
  cases h

theorem validateEmail_ok {email normalized : String}
    (h : validateEmail env email = .ok normalized) : HasAt normalized := by
  unfold validateEmail at h
  dsimp only at h
  split at h
  · next hvalid =>
    cases h
    exact hasAt_of_isEmail hvalid
  · cases h

theorem normalizeMemberRole_ok {value : String} {role : Role}
    (h : normalizeMemberRole env value = .ok role) : role ≠ .owner := by
  unfold normalizeMemberRole at h
  split at h <;> cases h <;> decide

end

section

variable {data : Document} {members : Table Member} {roster : Roster}

theorem Seated.of_users {data' : Document} (h : Seated data members roster)
    (husers : data'.users = data.users) (hindex : data'.emailIndex = data.emailIndex) :
    Seated data' members roster := by
  obtain ⟨owner, others, keys, one, named, unclaimed⟩ := h
  rw [← husers] at owner keys one named
  rw [← hindex] at unclaimed
  exact ⟨owner, others, keys, one, named, unclaimed⟩

/-- A user with a fresh id and an unused address. -/
structure NewUser (data : Document) (user : User) : Prop where
  id : data.users[user.id]? = none
  email : data.emailIndex[user.email]? = none
  plain : ¬ HasAt user.id
  filled : user.id ≠ ""
  address : HasAt user.email

variable {user : User}

theorem Registered.withUser (h : Registered data) (hnew : NewUser data user) :
    Registered (data.withUser user) := by
  refine ⟨h.emails.insert_new user hnew.id hnew.email, fun id other hget => ?_⟩
  rw [show (data.withUser user).users = data.users.insert user.id user from rfl,
    Table.get_insert] at hget
  split at hget
  · next heq =>
    obtain rfl := Option.some.inj hget
    exact ⟨heq.symm, heq ▸ hnew.plain, heq ▸ hnew.filled, hnew.address⟩
  · exact h.users id other hget

/-- **Signing up** seats a user where the address was invited. -/
theorem Seated.withUser (h : Seated data members roster) (hnew : NewUser data user) :
    Seated (data.withUser user) members roster := by
  have husers : ∀ id : String, (data.withUser user).users[id]? =
      if id = user.id then some user else data.users[id]? := fun id =>
    Table.get_insert _ _ _ _
  have hkey : members[user.id]? = none := by
    by_contra hsome
    obtain hat | hold := h.keys user.id (Option.isSome_iff_ne_none.mpr hsome)
    · exact hnew.plain hat
    · rw [hnew.id] at hold
      cases hold
  obtain ⟨creator, member, hcreator, hmember, hrole, hsingle⟩ := h.owner
  have hne : roster.creator ≠ user.id := by
    intro heq
    rw [heq, hnew.id] at hcreator
    cases hcreator
  refine ⟨⟨creator, member, ?_, hmember, hrole, hsingle⟩, h.others, fun key hsome => ?_,
    fun id other hget hother => ?_, fun id other hget hother => ?_, fun email hat hfree => ?_⟩
  · rw [husers, if_neg hne]
    exact hcreator
  · rw [husers]
    split
    · exact .inr rfl
    · exact h.keys key hsome
  · rw [husers] at hget
    split at hget
    · next heq => exact .inl (heq ▸ hkey)
    · exact h.one id other hget hother
  · rw [husers] at hget
    split at hget
    · next heq =>
      obtain rfl := Option.some.inj hget
      rw [heq, hkey, Option.none_or]
      exact h.unclaimed _ hnew.address hnew.email
    · exact h.named id other hget hother
  · have hindex : (data.withUser user).emailIndex[email]? =
        if email = user.email then some user.id else data.emailIndex[email]? :=
      Table.get_insert _ _ _ _
    rw [hindex] at hfree
    split at hfree
    · cases hfree
    · exact h.unclaimed email hat hfree

end

section

variable {env : Env} {data : Document} {members members' : Table Member} {roster : Roster}
  {now : Rat} {spec : MemberSpec}

def Roster.name (roster : Roster) (email : String) (role : Role) : Roster :=
  { roster with named := roster.named.insert email role }

theorem upsertTeamMember_ok (h : upsertTeamMember env data now members spec = .ok members') :
    ∃ email role, validateEmail env spec.email = .ok email ∧
      normalizeMemberRole env (if spec.role = "" then "viewer" else spec.role) = .ok role ∧
      let userId := data.emailIndex[email]?
      let memberKey := userId.getD email
      let existing := (members[memberKey]?).or members[email]?
      (existing.any (·.role = .owner) = true ∧ members' = members ∨
        existing.any (·.role = .owner) = false ∧ ∃ member : Member, member.role = role ∧
          members' = (if userId.isSome && email ≠ memberKey then members.erase email
            else members).insert memberKey member) := by
  obtain ⟨email, hemail, h⟩ := bind_ok h
  obtain ⟨role, hrole, h⟩ := bind_ok h
  refine ⟨email, role, hemail, hrole, ?_⟩
  dsimp only at h ⊢
  split at h
  · next howner =>
    cases h
    exact .inl ⟨howner, rfl⟩
  · next howner =>
    rw [Bool.not_eq_true] at howner
    refine .inr ⟨howner, ?_⟩
    split at h
    · obtain ⟨_, -, h⟩ := bind_ok h
      cases h
      exact ⟨_, rfl, rfl⟩
    · obtain ⟨_, -, h⟩ := bind_ok h
      cases h
      exact ⟨_, rfl, rfl⟩

variable {email id : String} {user : User} {role : Role} {member : Member} {specs : List MemberSpec}

theorem Registered.user_of_index (h : Registered data)
    (hindex : data.emailIndex[email]? = some id) :
    ∃ user, data.users[id]? = some user ∧ user.email = email :=
  (h.emails email id).mp hindex

theorem Registered.same_of_email (h : Registered data) {id' : String} {user' : User}
    (hget : data.users[id]? = some user) (hget' : data.users[id']? = some user')
    (heq : user.email = user'.email) : id = id' := by
  have hindex := (h.emails user.email id).mpr ⟨user, hget, rfl⟩
  have hindex' := (h.emails user'.email id').mpr ⟨user', hget', rfl⟩
  rw [heq, hindex'] at hindex
  exact (Option.some.inj hindex).symm

theorem Seated.name_creator (hreg : Registered data) (h : Seated data members roster)
    (hindex : data.emailIndex[email]? = some roster.creator) :
    Seated data members (roster.name email role) := by
  obtain ⟨creator, hcreator, hemail⟩ := hreg.user_of_index hindex
  refine ⟨h.owner, h.others, h.keys, h.one, fun id user hget hother => ?_,
    fun other hat hfree => ?_⟩
  · have hne : user.email ≠ email := fun heq =>
      hother (hreg.same_of_email hget hcreator (heq.trans hemail.symm))
    rw [Roster.name, Table.get_insert, if_neg hne]
    exact h.named id user hget hother
  · have hne : other ≠ email := by
      rintro rfl
      rw [hindex] at hfree
      cases hfree
    rw [Roster.name, Table.get_insert, if_neg hne]
    exact h.unclaimed other hat hfree

theorem Seated.seatUser (hreg : Registered data) (h : Seated data members roster)
    (huser : data.users[id]? = some user) (hne : id ≠ roster.creator)
    (hrole : member.role ≠ .owner) :
    Seated data ((members.erase user.email).insert id member)
      (roster.name user.email member.role) := by
  obtain ⟨-, hplain, -, haddress⟩ := hreg.users id user huser
  obtain ⟨creator, owner, hcreator, howner, hownerRole, hsingle⟩ := h.owner
  obtain ⟨-, hcreatorPlain, -, hcreatorAt⟩ := hreg.users _ creator hcreator
  have hget : ∀ key : String, ((members.erase user.email).insert id member)[key]? =
      if key = id then some member else if key = user.email then none else members[key]? := by
    intro key
    rw [Table.get_insert, Table.get_erase]
  have hplainNe : ∀ {key : String}, ¬ HasAt key → key ≠ user.email := by
    rintro key hkey rfl
    exact hkey haddress
  have haddressNe : ∀ {key : String}, HasAt key → key ≠ id := by
    rintro key hkey rfl
    exact hplain hkey
  have hemailNe : ∀ {other : String} {u : User}, data.users[other]? = some u → other ≠ id →
      u.email ≠ user.email := fun hu hother heq => hother (hreg.same_of_email hu huser heq)
  refine ⟨⟨creator, owner, hcreator, ?_, hownerRole, ?_⟩, fun key other hkey hother => ?_,
    fun key hsome => ?_, fun other u hu hother => ?_, fun other u hu hother => ?_,
    fun email hat hfree => ?_⟩
  · show ((members.erase user.email).insert id member)[roster.creator]? = some owner
    rw [hget, if_neg (Ne.symm hne), if_neg (hplainNe hcreatorPlain)]
    exact howner
  · rw [hget, if_neg (haddressNe hcreatorAt), if_neg (hemailNe hcreator (Ne.symm hne))]
    exact hsingle
  · rw [hget] at hkey
    split at hkey
    · exact Option.some.inj hkey ▸ hrole
    · split at hkey
      · cases hkey
      · exact h.others key other hkey hother
  · rw [hget] at hsome
    split at hsome
    · next heq =>
      rw [heq, huser]
      exact .inr rfl
    · split at hsome
      · cases hsome
      · exact h.keys key hsome
  · obtain ⟨-, hother', -, hotherAt⟩ := hreg.users other u hu
    rw [hget, hget, if_neg (haddressNe hotherAt)]
    by_cases heq : other = id
    · subst heq
      rw [huser] at hu
      obtain rfl := Option.some.inj hu
      exact .inr (if_pos rfl)
    · rw [if_neg heq, if_neg (hplainNe hother'), if_neg (hemailNe hu heq)]
      exact h.one other u hu hother
  · obtain ⟨-, hother', -, hotherAt⟩ := hreg.users other u hu
    rw [hget, hget, if_neg (haddressNe hotherAt), Roster.name, Table.get_insert]
    by_cases heq : other = id
    · subst heq
      rw [huser] at hu
      obtain rfl := Option.some.inj hu
      rw [if_pos rfl, if_pos rfl, if_pos rfl]
      rfl
    · rw [if_neg heq, if_neg (hplainNe hother'), if_neg (hemailNe hu heq),
        if_neg (hemailNe hu heq)]
      exact h.named other u hu hother
  · have hne' : email ≠ user.email := by
      rintro rfl
      rw [(hreg.emails user.email id).mpr ⟨user, huser, rfl⟩] at hfree
      cases hfree
    rw [hget, if_neg (haddressNe hat), if_neg hne', Roster.name, Table.get_insert, if_neg hne']
    exact h.unclaimed email hat hfree

theorem Seated.seatAddress (hreg : Registered data) (h : Seated data members roster)
    (hat : HasAt email)
    (hvacant : ∀ (id : String), data.emailIndex[email]? = some id →
      id ≠ roster.creator ∧ members[id]? = none) (hrole : member.role ≠ .owner) :
    Seated data (members.insert email member) (roster.name email member.role) := by
  obtain ⟨creator, owner, hcreator, howner, hownerRole, hsingle⟩ := h.owner
  obtain ⟨-, hcreatorPlain, -, -⟩ := hreg.users _ creator hcreator
  have hget : ∀ key : String, (members.insert email member)[key]? =
      if key = email then some member else members[key]? := fun key => Table.get_insert _ _ _ _
  have hplainNe : ∀ {key : String}, ¬ HasAt key → key ≠ email := by
    rintro key hkey rfl
    exact hkey hat
  refine ⟨⟨creator, owner, hcreator, ?_, hownerRole, ?_⟩, fun key other hkey hother => ?_,
    fun key hsome => ?_, fun other u hu hother => ?_, fun other u hu hother => ?_,
    fun other hotherAt hfree => ?_⟩
  · show (members.insert email member)[roster.creator]? = some owner
    rw [hget, if_neg (hplainNe hcreatorPlain)]
    exact howner
  · have hne : creator.email ≠ email := by
      rintro rfl
      exact (hvacant _ ((hreg.emails _ _).mpr ⟨creator, hcreator, rfl⟩)).1 rfl
    rw [hget, if_neg hne]
    exact hsingle
  · rw [hget] at hkey
    split at hkey
    · exact Option.some.inj hkey ▸ hrole
    · exact h.others key other hkey hother
  · rw [hget] at hsome
    split at hsome
    · next heq => exact .inl (heq ▸ hat)
    · exact h.keys key hsome
  · obtain ⟨-, hother', -, -⟩ := hreg.users other u hu
    rw [hget, hget, if_neg (hplainNe hother')]
    by_cases heq : u.email = email
    · exact .inl (hvacant other ((hreg.emails _ _).mpr ⟨u, hu, heq⟩)).2
    · rw [if_neg heq]
      exact h.one other u hu hother
  · obtain ⟨-, hother', -, -⟩ := hreg.users other u hu
    rw [hget, hget, if_neg (hplainNe hother'), Roster.name, Table.get_insert]
    by_cases heq : u.email = email
    · rw [if_pos heq, if_pos heq, (hvacant other ((hreg.emails _ _).mpr ⟨u, hu, heq⟩)).2]
      rfl
    · rw [if_neg heq, if_neg heq]
      exact h.named other u hu hother
  · rw [hget, Roster.name, Table.get_insert]
    split
    · rfl
    · exact h.unclaimed other hotherAt hfree

theorem Seated.not_owner (h : Seated data members roster) {key key' : String}
    (hkey : key ≠ roster.creator) (hkey' : key' ≠ roster.creator) :
    ((members[key]?).or members[key']?).any (·.role = .owner) = false := by
  have hnone : ∀ {key : String}, key ≠ roster.creator →
      ∀ member ∈ members[key]?, ¬ member.role = .owner := fun hne member hmember =>
    h.others _ member hmember hne
  cases hfirst : members[key]? with
  | some member => simpa using hnone hkey member hfirst
  | none =>
    cases hsecond : members[key']? with
    | some member => simpa using hnone hkey' member hsecond
    | none => rfl

/-- **Naming a member** of a team, whoever has the address. -/
theorem Seated.upsert (hreg : Registered data) (h : Seated data members roster)
    (hok : upsertTeamMember env data now members spec = .ok members') :
    ∃ email role, validateEmail env spec.email = .ok email ∧
      normalizeMemberRole env (if spec.role = "" then "viewer" else spec.role) = .ok role ∧
      Seated data members' (roster.name email role) := by
  obtain ⟨email, role, hemail, hrole, hmembers⟩ := upsertTeamMember_ok hok
  refine ⟨email, role, hemail, hrole, ?_⟩
  have hat := validateEmail_ok hemail
  have hnot := normalizeMemberRole_ok hrole
  obtain ⟨creator, owner, hcreator, howner, hownerRole, -⟩ := h.owner
  have hemailNe : email ≠ roster.creator := by
    rintro rfl
    exact (hreg.users _ creator hcreator).2.1 hat
  dsimp only at hmembers
  cases hindex : data.emailIndex[email]? with
  | none =>
    rw [hindex, Option.getD_none, h.not_owner hemailNe hemailNe] at hmembers
    obtain ⟨hfalse, -⟩ | ⟨-, member, rfl, rfl⟩ := hmembers
    · cases hfalse
    · rw [Option.isSome_none, Bool.false_and, if_neg Bool.false_ne_true]
      refine h.seatAddress hreg hat (fun id hid => ?_) hnot
      rw [hindex] at hid
      cases hid
  | some id =>
    obtain ⟨user, huser, rfl⟩ := hreg.user_of_index hindex
    rw [hindex, Option.getD_some] at hmembers
    by_cases hid : id = roster.creator
    · subst hid
      rw [howner, Option.some_or, Option.any_some, decide_eq_true hownerRole] at hmembers
      obtain ⟨-, rfl⟩ | ⟨hfalse, -⟩ := hmembers
      · exact h.name_creator hreg hindex
      · cases hfalse
    · rw [h.not_owner hid hemailNe] at hmembers
      obtain ⟨hfalse, -⟩ | ⟨-, member, rfl, rfl⟩ := hmembers
      · cases hfalse
      · have hne : user.email ≠ id := by
          intro heq
          exact (hreg.users id user huser).2.1 (heq ▸ hat)
        rw [Option.isSome_some, Bool.true_and, if_pos (decide_eq_true hne)]
        exact h.seatUser hreg huser hid hnot

def Roster.nameMember (env : Env) (roster : Roster) (spec : MemberSpec) : Roster :=
  match validateEmail env spec.email,
    normalizeMemberRole env (if spec.role = "" then "viewer" else spec.role) with
  | .ok email, .ok role => roster.name email role
  | _, _ => roster

def Roster.inviteMember (env : Env) (roster : Roster) (spec : MemberSpec) : Roster :=
  if pyStrip spec.email = "" then roster
  else roster.nameMember env { spec with email := pyStrip spec.email }

@[simp] theorem Roster.creator_nameMember (roster : Roster) (spec : MemberSpec) :
    (roster.nameMember env spec).creator = roster.creator := by
  unfold Roster.nameMember
  split <;> rfl

theorem Roster.nameMember_ok (hemail : validateEmail env spec.email = .ok email)
    (hrole : normalizeMemberRole env (if spec.role = "" then "viewer" else spec.role) = .ok role) :
    roster.nameMember env spec = roster.name email role := by
  rw [Roster.nameMember, hemail, hrole]

/-- **Naming members**, one after the other. -/
theorem Seated.upserts (hreg : Registered data) (h : Seated data members roster)
    (hok : specs.foldlM (upsertTeamMember env data now) members = .ok members') :
    Seated data members' (specs.foldl (Roster.nameMember env) roster) := by
  induction specs generalizing members roster with
  | nil =>
    cases hok
    exact h
  | cons spec specs ih =>
    obtain ⟨middle, hfirst, hrest⟩ := bind_ok hok
    obtain ⟨email, role, hemail, hrole, hseated⟩ := h.upsert hreg hfirst
    rw [List.foldl_cons, Roster.nameMember_ok hemail hrole]
    exact ih hseated hrest

/-- No user but the creator has a seat under the user id. -/
def Invited (members : Table Member) (creator : String) : Prop :=
  ∀ key : String, (members[key]?).isSome = true → key = creator ∨ HasAt key

theorem invitedMember_ok (h : invitedMember env data now members spec = .ok members') :
    pyStrip spec.email = "" ∧ members' = members ∨
      pyStrip spec.email ≠ "" ∧ ∃ email role member,
        validateEmail env (pyStrip spec.email) = .ok email ∧
        normalizeMemberRole env (if spec.role = "" then "viewer" else spec.role) = .ok role ∧
        member.role = role ∧ members' = members.insert email member := by
  unfold invitedMember at h
  dsimp only at h
  split at h
  · next hblank =>
    cases h
    exact .inl ⟨hblank, rfl⟩
  · next hfilled =>
    obtain ⟨email, hemail, h⟩ := bind_ok h
    obtain ⟨role, hrole, h⟩ := bind_ok h
    obtain ⟨stamp, -, h⟩ := bind_ok h
    cases h
    exact .inr ⟨hfilled, email, role, _, hemail, hrole, rfl, rfl⟩

/-- **Inviting members** to a new team, when none has the creator's address. -/
theorem Seated.invites (hreg : Registered data) (h : Seated data members roster)
    (hinvited : Invited members roster.creator)
    (hothers : ∀ spec ∈ specs, ∀ email, validateEmail env (pyStrip spec.email) = .ok email →
      data.emailIndex[email]? ≠ some roster.creator)
    (hok : specs.foldlM (invitedMember env data now) members = .ok members') :
    Seated data members' (specs.foldl (Roster.inviteMember env) roster) := by
  induction specs generalizing members roster with
  | nil =>
    cases hok
    exact h
  | cons spec specs ih =>
    obtain ⟨middle, hfirst, hrest⟩ := bind_ok hok
    rw [List.foldl_cons]
    obtain ⟨hblank, rfl⟩ | ⟨hfilled, email, role, member, hemail, hrole, rfl, rfl⟩ :=
      invitedMember_ok hfirst
    · rw [Roster.inviteMember, if_pos hblank]
      exact ih h hinvited (fun other hmem => hothers other (List.mem_cons_of_mem _ hmem)) hrest
    · have hat := validateEmail_ok hemail
      have hvacant : ∀ id : String, data.emailIndex[email]? = some id →
          id ≠ roster.creator ∧ members[id]? = none := by
        intro id hid
        have hne : id ≠ roster.creator := by
          rintro rfl
          exact hothers spec List.mem_cons_self email hemail hid
        refine ⟨hne, ?_⟩
        by_contra hsome
        obtain ⟨user, huser, -⟩ := hreg.user_of_index hid
        obtain heq | hidAt := hinvited id (Option.isSome_iff_ne_none.mpr hsome)
        · exact hne heq
        · exact (hreg.users id user huser).2.1 hidAt
      have hseated := h.seatAddress hreg hat hvacant (normalizeMemberRole_ok hrole)
      have hname : roster.inviteMember env spec = roster.name email member.role := by
        rw [Roster.inviteMember, if_neg hfilled]
        exact Roster.nameMember_ok hemail hrole
      rw [hname]
      refine ih hseated (fun key hsome => ?_)
        (fun other hmem => hothers other (List.mem_cons_of_mem _ hmem)) hrest
      rw [Table.get_insert] at hsome
      split at hsome
      · next heq => exact .inr (heq ▸ hat)
      · exact hinvited key hsome

theorem seated_creator (hreg : Registered data) (huser : data.users[id]? = some user)
    (hrole : member.role = .owner) :
    Seated data ((∅ : Table Member).insert id member) { creator := id } ∧
      Invited ((∅ : Table Member).insert id member) id := by
  have hget : ∀ key : String, ((∅ : Table Member).insert id member)[key]? =
      if key = id then some member else none := by
    intro key
    rw [Table.get_insert]
    simp
  obtain ⟨-, hplain, -, haddress⟩ := hreg.users id user huser
  have haddressNe : ∀ {key : String}, HasAt key → key ≠ id := by
    rintro key hkey rfl
    exact hplain hkey
  have hempty : ∀ email : String, (({ creator := id } : Roster).named)[email]? = none := by
    intro email
    simp
  refine ⟨⟨⟨user, member, huser, ?_, hrole, ?_⟩, fun key other hkey hother => ?_,
    fun key hsome => ?_, fun other u hu hother => .inl ?_, fun other u hu hother => ?_,
    fun email hat hfree => ?_⟩, fun key hsome => ?_⟩
  · exact Table.get_insert_self _ _ _
  · rw [hget, if_neg (haddressNe haddress)]
  · rw [hget, if_neg hother] at hkey
    cases hkey
  · rw [hget] at hsome
    split at hsome
    · next heq =>
      rw [heq, huser]
      exact .inr rfl
    · cases hsome
  · exact (hget other).trans (if_neg hother)
  · rw [hget, hget, if_neg hother, if_neg (haddressNe (hreg.users other u hu).2.2.2), hempty]
    rfl
  · rw [hget, if_neg (haddressNe hat), hempty]
    rfl
  · rw [hget] at hsome
    split at hsome
    · next heq => exact .inl heq
    · cases hsome

end

end OrbitalMesh.Operator
