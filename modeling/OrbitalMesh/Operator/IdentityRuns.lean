import OrbitalMesh.Base.Interleaving
import OrbitalMesh.Operator.IdentityInvariant

/-!
# Concurrent calls on the identity store

Any number of calls run at the same time, each `_read` and each `_write` one step.
What is written is the document that the call read, changed, so it undoes what others
wrote in between.  As long as no write undoes what was done to sessions and OAuth
states, a deleted session stays deleted, a created one is found, and an OAuth state is
accepted once; that no two users share an address holds in every interleaving.
-/

namespace OrbitalMesh.Operator

open Atomic Raising

inductive StoreCall where
  | account (call : AccountCall)
  | loginUser (email password : String) (now : Option Rat) (clock : Rat) (draw : SessionDraw)
  | createSession (userId : String) (now : Rat) (event : Option AuthEventSpec)
      (draw : SessionDraw)
  | updateSettings (token : String) (teamId : Option String) (updates : List (String × Json))
      (now : Rat)
  | createOauthState (provider state : String) (now : Option Rat) (clock : Rat)
  | consumeOauthState (provider state : String) (now : Option Rat) (clock : Rat)
  | sessionPayload (token : String) (now : Rat)

def StoreCall.prog (env : Env) : StoreCall → DocProg Unit
  | .account call => call.prog env
  | .loginUser email password now clock draw =>
    silently (Operator.loginUser env email password now clock draw)
  | .createSession userId now event draw =>
    silently (Operator.createSession env userId now event draw)
  | .updateSettings token teamId updates now =>
    silently (Operator.updateSettings env token teamId updates now)
  | .createOauthState provider state now clock =>
    silently (Operator.createOauthState env provider state now clock)
  | .consumeOauthState provider state now clock =>
    Operator.consumeOauthState env provider state now clock
  | .sessionPayload token now => silently (Operator.sessionPayload env token now)

def StoreCall.creates : StoreCall → Option (SessionDraw × Rat)
  | .account (.createUser args) => some (args.session, nowOr args.now args.clock)
  | .account (.upsertOauthUser args) => some (args.session, args.clock)
  | .loginUser _ _ now clock draw => some (draw, nowOr now clock)
  | .createSession _ now _ draw => some (draw, now)
  | _ => none

abbrev Trace := List (Event DocOp DocResp)

def DocOp.adds (hash : String) : DocOp → Bool
  | .write (.addSession session _) _ => session.tokenHash = hash
  | _ => false

def DocOp.ends (hash : String) : DocOp → Bool
  | .write (.dropSession other) _ | .write (.expireSession other) _ => other = hash
  | _ => false

/-- The section removes the OAuth state. -/
def DocOp.spends (state : String) : DocOp → Bool
  | .write (.dropState other) _ => other = state
  | _ => false

def DocOp.accepts (state : String) : DocOp → Bool
  | .write (.dropState other) copy => other = state && (copy.oauthStates[state]?).isSome
  | _ => false

def Change.New (past : Trace) : Change → Prop
  | .addSession session _ => ∀ e ∈ past,
      e.op.adds session.tokenHash = false ∧ e.op.ends session.tokenHash = false
  | .addState state _ => ∀ e ∈ past, e.op.spends state = false
  | _ => True

/-- What `secrets` draws for a section is new. -/
def DocOp.Drawn (past : Trace) : DocOp → Prop
  | .read => True
  | .write change copy => change.Drawn copy ∧ change.New past

def DocOp.Timely (data : Document) : DocOp → Prop
  | .read => True
  | .write _ copy => copy.sessions = data.sessions ∧ copy.oauthStates = data.oauthStates

def drawnStep (op : DocOp) (s : Document × Trace) (r : DocResp op) (t : Document × Trace) :
    Prop :=
  traced docStep op s r t ∧ op.Drawn s.2

/-- One section, where no write undoes what was done to sessions and OAuth states. -/
def timelyStep (op : DocOp) (s : Document × Trace) (r : DocResp op) (t : Document × Trace) :
    Prop :=
  drawnStep op s r t ∧ op.Timely s.1

instance (data : Document) : (change : Change) → Decidable (change.Drawn data)
  | .addUser _ | .linkUser _ _ (some _) => inferInstanceAs (Decidable (_ ∧ '@' ∉ _ ∧ _))
  | .addTeam _ _ _ => inferInstanceAs (Decidable (_ ∧ _))
  | .linkUser _ _ none | .addSession _ _ | .dropSession _ | .expireSession _ | .editTeam _ _
  | .seatMembers _ _ | .activateTeam _ _ | .setSettings _ _ | .addState _ _ | .dropState _ =>
    inferInstanceAs (Decidable True)

instance (past : Trace) : (change : Change) → Decidable (change.New past)
  | .addSession _ _ | .addState _ _ => inferInstanceAs (Decidable (∀ e ∈ past, _))
  | .addUser _ | .linkUser _ _ _ | .addTeam _ _ _ | .dropSession _ | .expireSession _
  | .editTeam _ _ | .seatMembers _ _ | .activateTeam _ _ | .setSettings _ _ | .dropState _ =>
    inferInstanceAs (Decidable True)

instance (past : Trace) : (op : DocOp) → Decidable (op.Drawn past)
  | .read => inferInstanceAs (Decidable True)
  | .write _ _ => inferInstanceAs (Decidable (_ ∧ _))

instance (data : Document) : (op : DocOp) → Decidable (op.Timely data)
  | .read => inferInstanceAs (Decidable True)
  | .write _ _ => inferInstanceAs (Decidable (_ ∧ _))

/-- What holds of the calls, where they are, and of the document. -/
structure StaysDead (env : Env) (calls : List StoreCall) (threads : List (DocProg Unit))
    (data : Document) (trace : Trace) : Prop where
  deleted : ∀ (i : Nat) token result, calls[i]? = some (.account (.deleteSession token)) →
    threads[i]? = some (.ret result) →
    ∀ now change payload, payloadPass env token now data ≠ .ok (change, payload)
  accepted : ∀ (i j : Nat) state provider provider' now now' clock clock', i ≠ j →
    calls[i]? = some (.consumeOauthState provider state now clock) →
    calls[j]? = some (.consumeOauthState provider' state now' clock') →
    threads[i]? = some (.ret (.ok ())) → threads[j]? ≠ some (.ret (.ok ()))
  found : ∀ (i : Nat) call draw created expiresAt expires now, calls[i]? = some call →
    call.creates = some (draw, created) → threads[i]? = some (.ret (.ok ())) →
    (∀ e ∈ trace, e.op.ends (env.tokenHash draw.token) = false) →
    env.iso (created + sessionTtlSeconds) = .ok expiresAt →
    env.fromIso expiresAt = .ok expires → ¬ expires < now →
    ∃ payload, payloadPass env draw.token now data = .ok (none, payload)
  emails : ∀ (id id' : String) user user', data.users[id]? = some user →
    data.users[id']? = some user' → user.email = user'.email → id = id'

/-- What every step keeps of the document and the trace. -/
structure Sealed (s : Document × Trace) : Prop where
  solid : Solid s.1
  ended : ∀ hash, (∃ e ∈ s.2, e.op.ends hash = true) → s.1.sessions[hash]? = none
  added : ∀ session recorded copy, (⟨.write (.addSession session recorded) copy, ()⟩ ∈ s.2) →
    (∀ e ∈ s.2, e.op.ends session.tokenHash = false) →
    s.1.sessions[session.tokenHash]? = some session
  spent : ∀ state, (∃ e ∈ s.2, e.op.spends state = true) → s.1.oauthStates[state]? = none
  once : ∀ state, s.2.countP (·.op.accepts state) ≤ 1

def Sends : DocOp → Prop
  | .read => True
  | .write change copy => Solid copy ∧ (change.Drawn copy → change.Sound copy)

def Reads : (op : DocOp) → DocResp op → Prop
  | .read, data => Solid data
  | .write _ _, _ => True

section

variable {data : Document}

theorem Change.sessions_apply (change : Change) (data : Document) (hash : String) :
    (change.apply data).sessions[hash]? =
      match change with
      | .addSession session _ =>
        if hash = session.tokenHash then some session else data.sessions[hash]?
      | .dropSession other | .expireSession other =>
        if hash = other then none else data.sessions[hash]?
      | _ => data.sessions[hash]? := by
  cases change with
  | addSession session event => exact Table.get_insert _ _ _ _
  | dropSession | expireSession => exact Table.get_erase _ _ _
  | linkUser key userId new => cases new <;> rfl
  | _ => rfl

theorem Change.oauthStates_apply (change : Change) (data : Document) (state : String) :
    (change.apply data).oauthStates[state]? =
      match change with
      | .addState other record =>
        if state = other then some record else data.oauthStates[state]?
      | .dropState other => if state = other then none else data.oauthStates[state]?
      | _ => data.oauthStates[state]? := by
  cases change with
  | addState => exact Table.get_insert _ _ _ _
  | dropState => exact Table.get_erase _ _ _
  | linkUser key userId new => cases new <;> rfl
  | _ => rfl

variable {op : DocOp} {state : String} {change : Change} {copy : Document}

theorem DocOp.spends_of_accepts (h : op.accepts state = true) : op.spends state = true := by
  cases op with
  | read => cases h
  | write change copy =>
    cases change with
    | dropState other => exact (Bool.and_eq_true_iff.mp h).1
    | _ => cases h

theorem DocOp.isSome_of_accepts (h : (DocOp.write change copy).accepts state = true) :
    (copy.oauthStates[state]?).isSome = true := by
  cases change with
  | dropState other => exact (Bool.and_eq_true_iff.mp h).2
  | _ => cases h

theorem Sealed.read {past : Trace} (h : Sealed (data, past)) :
    Sealed (data, past ++ [⟨.read, data⟩]) := by
  refine ⟨h.solid, fun hash hends => h.ended hash ?_, fun session recorded copy hadded hnot =>
    h.added session recorded copy ?_ fun e he => hnot e (List.mem_append_left _ he),
    fun state hspent => h.spent state ?_, fun state => ?_⟩
  · obtain ⟨e, he, htrue⟩ := hends
    obtain he | he := List.mem_append.mp he
    · exact ⟨e, he, htrue⟩
    · obtain rfl := List.mem_singleton.mp he
      cases htrue
  · obtain he | he := List.mem_append.mp hadded
    · exact he
    · cases List.mem_singleton.mp he
  · obtain ⟨e, he, htrue⟩ := hspent
    obtain he | he := List.mem_append.mp he
    · exact ⟨e, he, htrue⟩
    · obtain rfl := List.mem_singleton.mp he
      cases htrue
  · rw [List.countP_append]
    exact h.once state

/-- **A timely write** of what is drawn new keeps the credentials. -/
theorem Sealed.write {past : Trace} (h : Sealed (data, past)) (hsolid : Solid (change.apply copy))
    (hnew : change.New past) (hsessions : copy.sessions = data.sessions)
    (hstates : copy.oauthStates = data.oauthStates) :
    Sealed (change.apply copy, past ++ [⟨.write change copy, ()⟩]) := by
  refine ⟨hsolid, fun hash hends => ?_, fun session recorded copy' hadded hnot => ?_,
    fun state hspent => ?_, fun state => ?_⟩
  · rw [Change.sessions_apply, hsessions]
    obtain ⟨e, hmem, htrue⟩ := hends
    obtain he | he := List.mem_append.mp hmem
    · have hgone := h.ended hash ⟨e, he, htrue⟩
      cases change with
      | addSession session recorded =>
        dsimp only
        split
        · next heq =>
          subst heq
          rw [(hnew e he).2] at htrue
          cases htrue
        · exact hgone
      | dropSession other | expireSession other =>
        dsimp only
        split
        · rfl
        · exact hgone
      | _ => exact hgone
    · obtain rfl := List.mem_singleton.mp he
      cases change with
      | dropSession other | expireSession other => exact if_pos (of_decide_eq_true htrue).symm
      | _ => cases htrue
  · rw [Change.sessions_apply, hsessions]
    obtain he | he := List.mem_append.mp hadded
    · have hstored := h.added session recorded copy' he fun e he =>
        hnot e (List.mem_append_left _ he)
      have hlast := hnot _ (List.mem_append_right _ (List.mem_singleton_self _))
      cases change with
      | addSession other recorded' =>
        dsimp only
        split
        · next heq =>
          have hadds := (hnew _ he).1
          rw [DocOp.adds, decide_eq_false_iff_not] at hadds
          exact absurd heq hadds
        · exact hstored
      | dropSession other | expireSession other =>
        dsimp only
        rw [if_neg fun heq => of_decide_eq_false hlast heq.symm]
        exact hstored
      | _ => exact hstored
    · cases List.mem_singleton.mp he
      exact if_pos rfl
  · rw [Change.oauthStates_apply, hstates]
    obtain ⟨e, hmem, htrue⟩ := hspent
    obtain he | he := List.mem_append.mp hmem
    · have hgone := h.spent state ⟨e, he, htrue⟩
      cases change with
      | addState other record =>
        dsimp only
        split
        · next heq =>
          subst heq
          rw [hnew e he] at htrue
          cases htrue
        · exact hgone
      | dropState other =>
        dsimp only
        split
        · rfl
        · exact hgone
      | _ => exact hgone
    · obtain rfl := List.mem_singleton.mp he
      cases change with
      | dropState other => exact if_pos (of_decide_eq_true htrue).symm
      | _ => cases htrue
  · rw [List.countP_append, List.countP_singleton]
    split
    · next haccepts =>
      have hsome := DocOp.isSome_of_accepts haccepts
      rw [hstates] at hsome
      have hnever : past.countP (·.op.accepts state) = 0 := by
        refine List.countP_eq_zero.mpr fun e he haccepted => ?_
        have hgone := h.spent state ⟨e, he, DocOp.spends_of_accepts haccepted⟩
        rw [show data.oauthStates[state]? = none from hgone] at hsome
        cases hsome
      rw [hnever]
    · exact h.once state

theorem Sealed.step {s t : Document × Trace} {r : DocResp op} (hsends : Sends op) (h : Sealed s)
    (hstep : timelyStep op s r t) : Reads op r ∧ Sealed t := by
  obtain ⟨⟨⟨hdoc, htrace⟩, hdrawn⟩, htimely⟩ := hstep
  obtain ⟨data, past⟩ := s
  obtain ⟨after, trace⟩ := t
  obtain rfl : trace = past ++ [⟨op, r⟩] := htrace
  cases op with
  | read =>
    obtain ⟨rfl, rfl⟩ : r = data ∧ after = data := hdoc
    exact ⟨h.solid, h.read⟩
  | write change copy =>
    obtain rfl : after = change.apply copy := hdoc
    exact ⟨trivial, h.write (hsends.1.apply (hsends.2 hdrawn.1)) hdrawn.2 htimely.1 htimely.2⟩

end

/-- Every write of the program changes a solid document soundly. -/
abbrev Honest {α : Type} (prog : DocProg α) : Prop := Guarded Sends Reads prog

def Sendable (data : Document) (change : Option Change) : Prop :=
  ∀ c, change = some c → c.Drawn data → c.Sound data

section

variable {env : Env} {α β : Type} {data : Document}

theorem sendable_none : Sendable data none := fun _ h => by cases h

theorem sendable_some {change : Change} (h : change.Drawn data → change.Sound data) :
    Sendable data (some change) := by
  rintro _ ⟨⟩
  exact h

theorem honest_pass {body : Pass α}
    (hok : ∀ data change a, Solid data → body data = .ok (change, a) → Sendable data change)
    (hfails : ∀ data, Fails (Sendable data) (body data)) : Honest (pass body) := by
  have hwrite : ∀ (data : Document) change (result : Except Failure α), Solid data →
      Sendable data change → Honest (writeBack change data result) := by
    intro data change result hsolid hsend
    cases change with
    | none => exact rfl
    | some change => exact ⟨⟨hsolid, hsend change rfl⟩, le_refl _, fun _ _ => rfl⟩
  refine ⟨trivial, le_refl _, fun data hsolid => ?_⟩
  dsimp only
  split
  · next change a hbody => exact hwrite data change _ hsolid (hok data change a hsolid hbody)
  · next failure change hbody =>
    exact hwrite data change _ hsolid (hfails data failure change hbody)

variable {f : α → DocProg β} {now : Rat} {email password provider state : String}
  {change : Option Change}

theorem honest_then {x : DocProg α} (hx : Honest x) (hf : ∀ a, Honest (f a)) :
    Honest (x >>= f : DocProg β) := by
  show Guarded Sends Reads (x >>= f : DocProg β)
  rw [bind_run]
  refine delivers_then hx ?_
  rintro (e | a)
  · exact rfl
  · exact hf a

theorem honest_check {x : Except Failure α} (hf : ∀ a, x = .ok a → Honest (f a)) :
    Honest (Raising.ofExcept x >>= f : DocProg β) := by
  cases x with
  | error e => exact rfl
  | ok a => exact hf a rfl

theorem honest_silently {prog : DocProg α} (h : Honest prog) : Honest (silently prog) :=
  honest_then h fun _ => rfl

theorem fails_session {token : String} : Fails (Sendable data) (validSession env data token now) :=
  fails_validSession sendable_none fun _ _ _ _ _ => sendable_some fun _ => trivial

theorem honest_payload (token : String) (now : Rat) : Honest (sessionPayload env token now) := by
  refine honest_pass (fun data change a _ hbody => ?_) fun data =>
    fails_session.bind fun _ _ => fails_check_bind sendable_none fun _ =>
      fails_check_bind sendable_none fun _ => fails_ok _
  obtain ⟨_, -, hbody⟩ := bind_ok hbody
  obtain ⟨_, -, hbody⟩ := bind_ok hbody
  obtain ⟨_, -, hbody⟩ := bind_ok hbody
  cases hbody
  exact sendable_none

theorem honest_createSession (userId : String) (now : Rat) (event : Option AuthEventSpec)
    (draw : SessionDraw) : Honest (createSession env userId now event draw) := by
  refine honest_then (honest_pass (fun data change a _ hbody => ?_) fun data =>
    fails_sessionPass sendable_none _ _ _) fun _ => honest_then (honest_payload _ _) fun _ => rfl
  obtain ⟨session, recorded, rfl, -, rfl, huser, -⟩ := sessionPass_ok hbody
  exact sendable_some fun _ => huser

theorem honest_account (call : AccountCall) : Honest (call.prog env) := by
  cases call with
  | createUser args =>
    refine honest_silently (honest_check fun email hcheck => ?_)
    refine honest_then (honest_pass (fun data change a _ hbody => ?_) fun data =>
      fails_userPass sendable_none _ _) fun _ => honest_createSession _ _ _ _
    obtain ⟨user, rfl, -⟩ := userPass_ok hbody
    exact sendable_some (userPass_sound (checkSignUp_ok hcheck) hbody)
  | upsertOauthUser args =>
    refine honest_silently (honest_check fun email hcheck => ?_)
    refine honest_then (honest_pass (fun data change a hsolid hbody => ?_) fun data =>
      fails_oauthPass sendable_none _ _) fun _ => honest_createSession _ _ _ _
    cases change with
    | none => exact sendable_none
    | some change =>
      exact sendable_some (oauthPass_sound hsolid (validateEmail_ok hcheck) hbody)
  | createTeam args =>
    refine honest_silently (honest_then (honest_pass (fun data change a _ hbody => ?_)
      fun data => fails_newTeamPass sendable_none fails_session) fun _ => honest_payload _ _)
    cases change with
    | none => exact sendable_none
    | some change => exact sendable_some (newTeamPass_sound hbody)
  | updateTeam args =>
    refine honest_silently (honest_then (honest_pass (fun data change a hsolid hbody => ?_)
      fun data => fails_updateTeamPass sendable_none fails_session) fun _ => honest_payload _ _)
    cases change with
    | none => exact sendable_none
    | some change => exact sendable_some fun _ => updateTeamPass_sound hsolid hbody
  | upsertTeamMembers args =>
    refine honest_silently (honest_then (honest_pass (fun data change a _ hbody => ?_)
      fun data => fails_membersPass sendable_none fails_session) fun _ => honest_payload _ _)
    obtain ⟨session, teamId, members, -, -, hteam, rfl, -⟩ := membersPass_ok hbody
    exact sendable_some fun _ => hteam
  | setActiveTeam token teamId clock later =>
    refine honest_silently (honest_then (honest_pass (fun data change a _ hbody => ?_)
      fun data => fails_activatePass sendable_none fails_session) fun _ => honest_payload _ _)
    obtain ⟨session, -, rfl⟩ := activatePass_ok hbody
    exact sendable_some fun _ => trivial
  | deleteSession token =>
    show Honest (deleteSession env token)
    refine honest_pass (fun data change a _ hbody => ?_) fun data => fails_ok _
    cases hbody
    exact sendable_some fun _ => trivial

theorem loginPass_reads {userId : String}
    (h : loginPass env email password data = .ok (change, userId)) : change = none := by
  unfold loginPass at h
  split at h
  · cases h
  · split at h
    · cases h
    · split at h
      · cases h
      · split at h
        · cases h
          rfl
        · cases h

theorem fails_loginPass : Fails (Sendable data) (loginPass env email password data) := by
  unfold loginPass
  split
  · exact fails_error sendable_none _
  · split
    · exact fails_error sendable_none _
    · split
      · exact fails_error sendable_none _
      · split
        · exact fails_ok _
        · exact fails_error sendable_none _

theorem consumePass_ok {u : Unit} (h : consumePass env provider state now data = .ok (change, u)) :
    change = some (.dropState state) ∧ (data.oauthStates[state]?).isSome = true := by
  unfold consumePass at h
  split at h
  · cases h
  · next record hrecord =>
    split at h
    · cases h
    · split at h
      · cases h
      · split at h
        · cases h
        · cases h
          exact ⟨rfl, by rw [hrecord]; rfl⟩

theorem fails_consumePass {allowed : Option Change → Prop}
    (hdrop : allowed (some (.dropState state))) :
    Fails allowed (consumePass env provider state now data) := by
  have hfail : ∀ failure : Failure,
      Fails allowed
        (.error (failure, some (.dropState state)) : Except _ (Option Change × Unit)) := by
    rintro _ _ _ ⟨⟩
    exact hdrop
  unfold consumePass
  split
  · exact hfail _
  · split
    · exact hfail _
    · split
      · exact hfail _
      · split
        · exact hfail _
        · exact fails_ok _

/-- **Every program** of the store is honest. -/
theorem honest_prog (call : StoreCall) : Honest (call.prog env) := by
  cases call with
  | account call => exact honest_account call
  | loginUser email password now clock draw =>
    refine honest_silently (honest_check fun email _ => ?_)
    refine honest_then (honest_pass (fun data change a _ hbody => ?_) fun data =>
      fails_loginPass) fun _ => honest_createSession _ _ _ _
    rw [loginPass_reads hbody]
    exact sendable_none
  | createSession userId now event draw =>
    exact honest_silently (honest_createSession userId now event draw)
  | updateSettings token teamId updates now =>
    refine honest_silently (honest_pass (fun data change a _ hbody => ?_) fun data =>
      fails_session.bind fun _ _ => fails_check_bind sendable_none fun _ =>
        fails_check_bind sendable_none fun _ => fails_ok _)
    obtain ⟨_, -, hbody⟩ := bind_ok hbody
    obtain ⟨_, -, hbody⟩ := bind_ok hbody
    obtain ⟨_, -, hbody⟩ := bind_ok hbody
    cases hbody
    exact sendable_some fun _ => trivial
  | createOauthState provider state now clock =>
    refine honest_silently (honest_pass (fun data change a _ hbody => ?_) fun data =>
      fails_check_bind sendable_none fun _ => fails_check_bind sendable_none fun _ =>
        fails_ok _)
    obtain ⟨_, -, hbody⟩ := bind_ok hbody
    obtain ⟨_, -, hbody⟩ := bind_ok hbody
    cases hbody
    exact sendable_some fun _ => trivial
  | consumeOauthState provider state now clock =>
    refine honest_pass (fun data change a _ hbody => ?_) fun data => ?_
    · obtain ⟨rfl, -⟩ := consumePass_ok hbody
      exact sendable_some fun _ => trivial
    · exact fails_consumePass (sendable_some fun _ => trivial)
  | sessionPayload token now => exact honest_silently (honest_payload token now)

end

section

variable {env : Env} {α β : Type} {own : Trace}

theorem answered_pass {body : Pass α} {outcome : Except Failure α}
    (h : Answered (pass body) own (.ret outcome)) :
    ∃ data change, (∀ c, change = some c → ⟨.write c data, ()⟩ ∈ own) ∧
      ((∃ a, body data = .ok (change, a) ∧ outcome = .ok a) ∨
        ∃ failure, body data = .error (failure, change) ∧ outcome = .error failure) := by
  have hwrite : ∀ {data : Document} {change : Option Change} {result : Except Failure α} {rest},
      Answered (writeBack change data result) rest (.ret outcome) →
      outcome = result ∧ ∀ c, change = some c → ⟨.write c data, ()⟩ ∈ rest := by
    intro data change result rest hrest
    cases change with
    | none =>
      obtain ⟨-, rfl, -⟩ := Runs.ret_inv hrest
      exact ⟨rfl, fun _ hne => by cases hne⟩
    | some change =>
      obtain ⟨_, _, _, rfl, -, hlast⟩ := Runs.call_inv hrest
      obtain ⟨-, rfl, -⟩ := Runs.ret_inv hlast
      exact ⟨rfl, fun c heq => Option.some.inj heq ▸ List.mem_cons_self⟩
  obtain ⟨data, _, rest, rfl, -, hrest⟩ := Runs.call_inv h
  split at hrest
  · next change a hbody =>
    obtain ⟨rfl, hwritten⟩ := hwrite hrest
    exact ⟨data, change, fun c hc => List.mem_cons_of_mem _ (hwritten c hc),
      .inl ⟨a, hbody, rfl⟩⟩
  · next failure change hbody =>
    obtain ⟨rfl, hwritten⟩ := hwrite hrest
    exact ⟨data, change, fun c hc => List.mem_cons_of_mem _ (hwritten c hc),
      .inr ⟨failure, hbody, rfl⟩⟩

theorem answered_then {x : DocProg α} {f : α → DocProg β} {b : β}
    (h : Answered (x >>= f : DocProg β) own (.ret (.ok b))) :
    ∃ a left right, own = left ++ right ∧ Answered x left (.ret (.ok a)) ∧
      Answered (f a) right (.ret (.ok b)) := by
  obtain ⟨_, hne, -⟩ | ⟨a, _, left, right, hown, hleft, hright⟩ := andThen_inv h
  · cases hne
  · exact ⟨a, left, right, hown, hleft, hright⟩

theorem answered_silently {prog : DocProg α} (h : Answered (silently prog) own (.ret (.ok ()))) :
    ∃ a, Answered prog own (.ret (.ok a)) := by
  obtain ⟨a, left, right, rfl, hleft, hright⟩ := answered_then h
  obtain ⟨rfl, -, -⟩ := Runs.ret_inv hright
  rw [List.append_nil]
  exact ⟨a, hleft⟩

def Created (env : Env) (draw : SessionDraw) (created : Rat) (own : Trace) : Prop :=
  ∃ session recorded copy, ⟨.write (.addSession session recorded) copy, ()⟩ ∈ own ∧
    session.tokenHash = env.tokenHash draw.token ∧
    env.iso (created + sessionTtlSeconds) = .ok session.expiresAt

variable {draw : SessionDraw} {result : String × SessionPayload} {created : Rat}

theorem created_of_createSession {userId : String} {now : Rat} {event : Option AuthEventSpec}
    (h : Answered (createSession env userId now event draw) own (.ret (.ok result))) :
    Created env draw now own := by
  obtain ⟨_, left, right, rfl, hpass, -⟩ := answered_then h
  obtain ⟨data, change, hwritten, ⟨_, hbody, -⟩ | ⟨_, -, hne⟩⟩ := answered_pass hpass
  · obtain ⟨session, recorded, rfl, hhash, -, -, hexpires⟩ := sessionPass_ok hbody
    exact ⟨session, recorded, data, List.mem_append_left _ (hwritten _ rfl), hhash, hexpires⟩
  · cases hne

theorem created_after_check {x : Except Failure α} {body : α → Pass β}
    {next : α → β → DocProg (String × SessionPayload)}
    (hnext : ∀ a b own, Answered (next a b) own (.ret (.ok result)) →
      Created env draw created own)
    (h : Answered (do
      let a ← Raising.ofExcept x
      let b ← pass (body a)
      next a b : DocProg (String × SessionPayload)) own (.ret (.ok result))) :
    Created env draw created own := by
  obtain ⟨a, left, right, rfl, -, hrest⟩ := answered_then h
  obtain ⟨b, _, last, rfl, -, hlast⟩ := answered_then hrest
  obtain ⟨session, recorded, copy, hmem, hhash⟩ := hnext a b last hlast
  exact ⟨session, recorded, copy,
    List.mem_append_right _ (List.mem_append_right _ hmem), hhash⟩

theorem created_of_returned {call : StoreCall} (hcreates : call.creates = some (draw, created))
    (h : Answered (call.prog env) own (.ret (.ok ()))) : Created env draw created own := by
  cases call with
  | account call =>
    cases call with
    | createUser args | upsertOauthUser args =>
      cases hcreates
      obtain ⟨result, hprog⟩ := answered_silently h
      exact created_after_check (fun _ _ _ => created_of_createSession) hprog
    | _ => cases hcreates
  | loginUser email password now clock draw =>
    cases hcreates
    obtain ⟨result, hprog⟩ := answered_silently h
    exact created_after_check (fun _ _ _ => created_of_createSession) hprog
  | createSession userId now event draw =>
    cases hcreates
    obtain ⟨result, hprog⟩ := answered_silently h
    exact created_of_createSession hprog
  | _ => cases hcreates

theorem ended_of_returned {token : String} {result : Except Failure Unit}
    (h : Answered ((StoreCall.account (.deleteSession token)).prog env) own (.ret result)) :
    ∃ e ∈ own, e.op.ends (env.tokenHash token) = true := by
  have hpass : Answered (deleteSession env token) own (.ret result) := h
  obtain ⟨data, change, hwritten, ⟨_, hbody, -⟩ | ⟨_, hbody, -⟩⟩ := answered_pass hpass
  · cases hbody
    exact ⟨_, hwritten _ rfl, decide_eq_true rfl⟩
  · cases hbody

theorem accepted_of_returned {provider state : String} {now : Option Rat} {clock : Rat}
    (h : Answered ((StoreCall.consumeOauthState provider state now clock).prog env) own
      (.ret (.ok ()))) :
    0 < own.countP (·.op.accepts state) := by
  have hpass : Answered (consumeOauthState env provider state now clock) own
    (.ret (.ok ())) := h
  obtain ⟨data, change, hwritten, ⟨_, hbody, -⟩ | ⟨_, -, hne⟩⟩ := answered_pass hpass
  · obtain ⟨rfl, hhas⟩ := consumePass_ok hbody
    refine List.countP_pos_iff.mpr ⟨_, hwritten _ rfl, ?_⟩
    exact Bool.and_eq_true_iff.mpr ⟨decide_eq_true rfl, hhas⟩
  · cases hne

end

theorem sealed_empty : Sealed ({}, []) :=
  ⟨consistent_empty.solid, (by rintro _ ⟨_, hmem, -⟩; cases hmem), (by rintro _ _ _ ⟨⟩),
    (by rintro _ ⟨_, hmem, -⟩; cases hmem), fun _ => Nat.zero_le _⟩

/-- **Revoked credentials stay dead** in an interleaving of any calls in which every write finds
the sessions and OAuth states as its call read them. -/
theorem revoked_stay_dead (env : Env) (calls : List StoreCall) (threads : List (DocProg Unit))
    (data : Document) (trace : Trace)
    (hdraws : ∀ call ∈ calls, ∀ draw created, call.creates = some (draw, created) →
      draw.token ≠ "")
    (h : Interleaves timelyStep (calls.map (StoreCall.prog env)) ({}, []) trace threads
      (data, trace)) :
    StaysDead env calls threads data trace := by
  have hstep : ∀ (op : DocOp) (s : Document × Trace) (r : DocResp op) t, Sends op → Sealed s →
      timelyStep op s r t → Reads op r ∧ Sealed t := fun _ _ _ _ hsends hs => hs.step hsends
  have hhonest : ∀ p ∈ calls.map (StoreCall.prog env), Honest p := by
    intro p hp
    obtain ⟨call, -, rfl⟩ := List.mem_map.mp hp
    exact honest_prog call
  have hsealed : Sealed (data, trace) := h.guarded hstep hhonest sealed_empty
  obtain ⟨own, hown, hapart⟩ := h.owned
  have hissued : ∀ (i : Nat) call result, calls[i]? = some call →
      threads[i]? = some (.ret result) → Answered (call.prog env) (own i) (.ret result) := by
    intro i call result hcall hthread
    obtain ⟨p', hp', hanswered⟩ := hown i (call.prog env) (by rw [List.getElem?_map, hcall]; rfl)
    rw [hthread] at hp'
    obtain rfl := Option.some.inj hp'
    exact hanswered
  have hsubset : ∀ (i : Nat) e, e ∈ own i → e ∈ trace := fun i e he =>
    (hapart i (i + 1) (by omega)).subset (List.mem_append_left _ he)
  refine ⟨fun i token result hcall hthread now change payload hpayload => ?_,
    fun i j state _ _ _ _ _ _ hne hi hj hfirst hsecond => ?_,
    fun i call draw created expiresAt expires now hcall hcreates hthread hnot hiso hexpires
      hfresh => ?_, fun id id' user user' hget hget' hsame => ?_⟩
  · obtain ⟨e, he, hends⟩ := ended_of_returned (hissued i _ _ hcall hthread)
    have hgone := hsealed.ended _ ⟨e, hsubset i e he, hends⟩
    obtain ⟨session, hsession, -⟩ := bind_ok hpayload
    have hstored := (validSession_ok.mp hsession).stored
    rw [show data.sessions[env.tokenHash token]? = none from hgone] at hstored
    cases hstored
  · have htwo := (hapart i j hne).countP_le (·.op.accepts state)
    have hi' := accepted_of_returned (hissued i _ _ hi hfirst)
    have hj' := accepted_of_returned (hissued j _ _ hj hsecond)
    have honce := hsealed.once state
    rw [List.countP_append] at htwo
    dsimp only at honce
    omega
  · obtain ⟨session, recorded, copy, hmem, hhash, hstamp⟩ :=
      created_of_returned hcreates (hissued i call _ hcall hthread)
    have hstored := hsealed.added session recorded copy (hsubset i _ hmem) (hhash ▸ hnot)
    rw [hstamp, Except.ok.injEq] at hiso
    exact payloadPass_ok hsealed.solid ⟨hdraws call (List.mem_of_getElem? hcall) _ _ hcreates,
      hhash ▸ hstored, expires, hiso ▸ hexpires, hfresh⟩
  · have hemails := hsealed.solid.registered.emails
    have hfirst := (hemails user.email id).mpr ⟨user, hget, rfl⟩
    have hsecond := (hemails user'.email id').mpr ⟨user', hget', rfl⟩
    rw [← hsame, hfirst] at hsecond
    exact Option.some.inj hsecond

variable (meets : DocOp → Document × Trace → Bool)

def answerIf (op : DocOp) (s : Document × Trace) :
    Option (DocResp op × Document × Trace) :=
  if meets op s then
    (docAnswer op s.1).map fun (r, after) => (r, after, s.2 ++ [⟨op, r⟩])
  else none

theorem answerIf_step {meets : DocOp → Document × Trace → Bool} {op : DocOp}
    {s t : Document × Trace} {r : DocResp op} (h : answerIf meets op s = some (r, t)) :
    meets op s = true ∧ traced docStep op s r t := by
  unfold answerIf at h
  split at h
  · next hmeets =>
    obtain ⟨⟨_, after⟩, hanswer, heq⟩ := Option.map_eq_some_iff.mp h
    cases heq
    exact ⟨hmeets, docAnswer_step op s.1 _ _ hanswer, rfl⟩
  · cases h

def sampleCalls : List StoreCall :=
  [.account sampleSignIn, .updateSettings "tok1" none [] 1000, .account (.deleteSession "tok1")]

theorem sampleCalls_draw : ∀ call ∈ sampleCalls, ∀ draw created,
    call.creates = some (draw, created) → draw.token ≠ "" := by
  intro call hmem draw created hcreates
  simp only [sampleCalls, List.mem_cons, List.not_mem_nil, or_false] at hmem
  obtain rfl | rfl | rfl := hmem
  · cases hcreates
    decide
  · cases hcreates
  · cases hcreates

def playSample (turns : List Nat) :
    Option (List (DocProg Unit) × Document × Trace) :=
  schedule (answerIf meets) turns (sampleCalls.map (StoreCall.prog sampleEnv)) ({}, [])

theorem playSample_interleaves {meets : DocOp → Document × Trace → Bool}
    {step : (op : DocOp) → Document × Trace → DocResp op → Document × Trace → Prop}
    (hstep : ∀ {op s r t}, meets op s = true → traced docStep op s r t → step op s r t)
    (htraced : ∀ {op s r t}, step op s r t → t.2 = s.2 ++ [⟨op, r⟩])
    {turns : List Nat} {threads : List (DocProg Unit)} {data : Document} {trace : Trace}
    (h : playSample meets turns = some (threads, data, trace)) :
    Interleaves step (sampleCalls.map (StoreCall.prog sampleEnv)) ({}, []) trace threads
      (data, trace) := by
  have hanswer : ∀ op s r t, answerIf meets op s = some (r, t) → step op s r t := by
    intro op s r t hanswer
    obtain ⟨hmeets, hdoc⟩ := answerIf_step hanswer
    exact hstep hmeets hdoc
  obtain ⟨trace', hinterleaves⟩ := schedule_interleaves hanswer h
  obtain rfl : trace = trace' := hinterleaves.past_eq htraced
  exact hinterleaves

theorem revoked_stay_dead_sample :
    ∃ threads data trace, StaysDead sampleEnv sampleCalls threads data trace ∧
      threads[2]?.bind Prog.value? = some (.ok ()) ∧ data.sessions.isEmpty = true := by
  set meets : DocOp → Document × Trace → Bool := fun op s => op.Drawn s.2 ∧ op.Timely s.1
  have hplayed : (playSample meets [0, 0, 0, 0, 0, 1, 1, 2, 2]).any (fun reached =>
      reached.1[2]?.bind Prog.value? = some (.ok ()) && reached.2.1.sessions.isEmpty) = true := by
    decide +kernel
  obtain ⟨⟨threads, data, trace⟩, hrun, hchecks⟩ := (Option.any_eq_true _ _).mp hplayed
  obtain ⟨hreturned, hempty⟩ := Bool.and_eq_true_iff.mp hchecks
  have hinterleaves : Interleaves timelyStep _ _ trace threads (data, trace) :=
    playSample_interleaves (fun hmeets hdoc =>
      ⟨⟨hdoc, (of_decide_eq_true hmeets).1⟩, (of_decide_eq_true hmeets).2⟩)
      (fun hstep => hstep.1.1.2) hrun
  have hdead := revoked_stay_dead sampleEnv sampleCalls threads data trace sampleCalls_draw
    hinterleaves
  exact ⟨threads, data, trace, hdead, of_decide_eq_true hreturned, hempty⟩

/-- Settings that were read before the deletion are written after it: the session is
back. -/
theorem deleted_session_returns :
    ¬ ∀ (env : Env) (calls : List StoreCall) (threads : List (DocProg Unit)) (data : Document)
      (trace : Trace), (∀ call ∈ calls, ∀ draw created, call.creates = some (draw, created) →
        draw.token ≠ "") →
      Interleaves drawnStep (calls.map (StoreCall.prog env)) ({}, []) trace threads
        (data, trace) → StaysDead env calls threads data trace := by
  intro hclaim
  set meets : DocOp → Document × Trace → Bool := fun op s => op.Drawn s.2
  have hplayed : (playSample meets [0, 0, 0, 0, 0, 1, 2, 2, 1]).any (fun reached =>
      reached.1[2]?.bind Prog.value? = some (.ok ()) &&
        (payloadPass sampleEnv "tok1" 1000 reached.2.1).toOption.isSome) = true := by
    decide +kernel
  obtain ⟨⟨threads, data, trace⟩, hrun, hchecks⟩ := (Option.any_eq_true _ _).mp hplayed
  obtain ⟨hreturned, hpayload⟩ := Bool.and_eq_true_iff.mp hchecks
  have hinterleaves : Interleaves drawnStep _ _ trace threads (data, trace) :=
    playSample_interleaves (fun hmeets hdoc => ⟨hdoc, of_decide_eq_true hmeets⟩)
      (fun hstep => hstep.1.2) hrun
  have hdead := hclaim sampleEnv sampleCalls threads data trace sampleCalls_draw hinterleaves
  obtain ⟨program, hthread, hvalue⟩ := Option.bind_eq_some_iff.mp (of_decide_eq_true hreturned)
  cases program with
  | call op k => cases hvalue
  | ret result =>
    cases hresult : payloadPass sampleEnv "tok1" 1000 data with
    | ok answer =>
      obtain ⟨change, payload⟩ := answer
      exact hdead.deleted 2 "tok1" result rfl hthread 1000 change payload hresult
    | error e =>
      rw [hresult] at hpayload
      cases hpayload

end OrbitalMesh.Operator
