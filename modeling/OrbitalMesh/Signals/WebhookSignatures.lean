import OrbitalMesh.Signals.WebhookNormalisation
import OrbitalMesh.Signals.WebhookService

/-!
# Signed webhooks

A ledger beside the service keeps what the operators have set: for every source the secret that
was last given for it, until it is taken away or the source is deleted.  A source demands
signatures if its record does or there is a secret in the ledger.  Then only a body that is
signed with this secret may leave an alert, made of what the body says.
-/

namespace OrbitalMesh.Webhooks

open OrbitalMesh.Decision

/-- What happens to the service; a registration is an operator's own, or a record shown before. -/
inductive Call where
  | register (payload : Dict) (shown : Bool) (now : String)
  | delete (sourceId : String)
  | listSources
  | getSource (sourceId : String)
  | restart
  | ingest (sourceId : String) (payload : Dict) (rawBody : Option Bytes)
      (signature : Option String) (now : String)

inductive Answer where
  | registered (record : Dict)
  | deleted
  | sources (records : List Dict)
  | source (record : Dict)
  | restarted
  | ingested (outcome : Ingested)

/-- The secrets that the operators have set for the sources of the service, and those for the
sources in its file. -/
structure Ledger where
  secrets : Registry (Option Json) := []
  file : Option (Registry (Option Json)) := some []

/-- The secret of a source after a registration: one without a secret leaves it, and so does one
with the mask that was shown; an empty one takes it away. -/
def secretAfter (old : Option Json) (payload : Dict) (shown : Bool) : Option Json :=
  match payload.get? "secret" with
  | none => old
  | some secret =>
    if shown && secret == mask then old
    else if truthy secret then some secret
    else none

structure World where
  service : Service := {}
  ledger : Ledger := {}

section

variable (lib : Library) (wire : Wire)
  (runFactory : Option (WebhookAlert → Dict → Except String Json))

def Service.perform (s : Service) : Call → Except ServiceFault Answer × Service
  | .register payload _ now => ((s.registerSource payload now).1.map .registered,
      (s.registerSource payload now).2)
  | .delete sourceId => ((s.deleteSource sourceId).1.map fun _ => .deleted,
      (s.deleteSource sourceId).2)
  | .listSources => (.ok (.sources s.listSources), s)
  | .getSource sourceId => ((s.getSource sourceId).map .source, s)
  | .restart => (s.restart.1.map fun _ => .restarted, s.restart.2)
  | .ingest sourceId payload rawBody signature now =>
    ((s.ingest lib wire runFactory sourceId payload rawBody signature now).1.map .ingested,
      (s.ingest lib wire runFactory sourceId payload rawBody signature now).2)

def Ledger.secret (ledger : Ledger) (sourceId : Json) : Option Json :=
  (ledger.secrets.find sourceId).join

def Ledger.save (secrets : Registry (Option Json)) : Ledger :=
  { secrets := secrets, file := Registry.filed id secrets }

def Ledger.after (ledger : Ledger) : Call → Ledger
  | .register payload shown _ =>
    match WebhookTemplate.fromDict payload with
    | .error _ => ledger
    | .ok template =>
      if hashable template.sourceId then
        Ledger.save (ledger.secrets.put template.sourceId
          (secretAfter (ledger.secret template.sourceId) payload shown))
      else ledger
  | .delete sourceId =>
    match ledger.secrets.find (.str sourceId) with
    | none => ledger
    | some _ => Ledger.save (ledger.secrets.drop (.str sourceId))
  | .restart =>
    match ledger.file with
    | some secrets => { ledger with secrets := secrets }
    | none => ledger
  | _ => ledger

def World.after (w : World) (call : Call) : World where
  service := (w.service.perform lib wire runFactory call).2
  ledger := w.ledger.after call

variable (w : World) (sourceId : String)

def World.Demands : Prop :=
  ∃ record, w.service.sources.find (.str sourceId) = some record ∧
    (truthyAt record "require_signature" = true ∨
      (w.ledger.secret (.str sourceId)).isSome = true)

def World.Signed (rawBody : Option Bytes)
    (signature : Option String) : Prop :=
  ∃ key text, w.ledger.secret (.str sourceId) = some (.str key) ∧ signature = some text ∧
    candidateOf lib text = wire.hexdigest key (rawBody.getD [])

def World.MadeOf (rawBody : Option Bytes) (now : String)
    (alert : WebhookAlert) : Prop :=
  ∃ record template payload, w.service.sources.find (.str sourceId) = some record ∧
    WebhookTemplate.fromDict record = .ok template ∧
    wire.decode (rawBody.getD []) = some payload ∧
    applyTemplate lib template payload now = .ok alert

/-- For a source that demands signatures a signed body appends at most its alert, and any other
body is a mismatch that changes nothing. -/
def World.Guarded : Call → Prop
  | .ingest sourceId payload rawBody signature now =>
    let after := w.service.perform lib wire runFactory
      (.ingest sourceId payload rawBody signature now)
    w.Demands sourceId →
      (w.Signed lib wire sourceId rawBody signature →
        after.2.alerts = w.service.alerts ∨
        ∃ alert, after.2.alerts = w.service.alerts ++ [alert] ∧
          w.MadeOf lib wire sourceId rawBody now alert) ∧
      (¬w.Signed lib wire sourceId rawBody signature →
        after.1 = .error (.signatureMismatch sourceId) ∧
        after.2.alerts = w.service.alerts)
  | call => (w.service.perform lib wire runFactory call).2.alerts = w.service.alerts

def GuardedRun : World → List Call → Prop
  | _, [] => True
  | w, call :: rest =>
    w.Guarded lib wire runFactory call ∧ GuardedRun (w.after lib wire runFactory call) rest

/-- A secret is a text and no mask, none is left out where one was set, and there is one where
signatures are required. -/
structure CarefulRegistration (old : Option Json) (payload : Dict) (shown : Bool) : Prop where
  unmasked : shown = true → payload.get? "secret" ≠ some mask
  text : ∀ secret, payload.get? "secret" = some secret → truthy secret = true →
    matchesType secret .string = true
  kept : payload.get? "secret" = none → old = none
  required : flagAt payload "require_signature" false = true →
    truthyAt payload "secret" = true

/-- What is posted for a source that demands signatures has one in ASCII, and with a right one
the payload is what the body says. -/
def World.Careful : Call → Prop
  | .register payload shown _ =>
    ∀ template, WebhookTemplate.fromDict payload = .ok template →
      CarefulRegistration (w.ledger.secret template.sourceId) payload shown
  | .ingest sourceId payload rawBody signature _ =>
    w.Demands sourceId →
      (∀ text, signature = some text → isAscii (candidateOf lib text) = true) ∧
      (w.Signed lib wire sourceId rawBody signature →
        wire.decode (rawBody.getD []) = some payload)
  | _ => True

def CarefulRun : World → List Call → Prop
  | _, [] => True
  | w, call :: rest =>
    w.Careful lib wire call ∧ CarefulRun (w.after lib wire runFactory call) rest

end

/-- A record, and the secret that the operators have set for it. -/
structure Entry where
  record : Dict
  secret : Option Json

/-- The record makes a template, holds the secret that was set, which is a text, and requires
signatures only where there is one. -/
structure Entry.Sound (entry : Entry) : Prop where
  template : ∃ template, WebhookTemplate.fromDict entry.record = .ok template
  flag : ∃ flag, entry.record.get? "require_signature" = some (.bool flag) ∧
    (flag = true → entry.secret.isSome = true)
  secret : entry.record.get? "secret" = entry.secret
  text : ∀ secret, entry.secret = some secret → ∃ key, key ≠ "" ∧ secret = .str key

def Entry.readBack (entry : Entry) : Entry :=
  { entry with record := Json.canonMembers entry.record }

/-- The records and the ledger are two sides of sound entries, in memory and in the file. -/
structure World.Agrees (w : World) (entries : Registry Entry) (written : Option (Registry Entry)) :
    Prop where
  records : w.service.sources = Registry.withValues Entry.record entries
  secrets : w.ledger.secrets = Registry.withValues Entry.secret entries
  recordsFile : w.service.file = written.map (Registry.withValues Entry.record)
  secretsFile : w.ledger.file = written.map (Registry.withValues Entry.secret)
  sound : ∀ entry ∈ entries, entry.2.Sound
  soundFile : ∀ sources, written = some sources → ∀ entry ∈ sources, entry.2.Sound

section

variable {entries : Registry Entry} {written : Option (Registry Entry)} {w : World}

theorem fromDict_ok {payload : Dict} {sourceId sourceType : Json} {fields : Dict}
    (hid : payload.get? "source_id" = some sourceId)
    (htype : payload.get? "source_type" = some sourceType)
    (hfields : payload.get? "fields" = some (.obj fields)) :
    ∃ template, WebhookTemplate.fromDict payload = .ok template := by
  simp only [WebhookTemplate.fromDict, hid, htype, hfields]
  exact ⟨_, rfl⟩

variable {payload : Dict} {template : WebhookTemplate}

theorem fromDict_members (h : WebhookTemplate.fromDict payload = .ok template) :
    payload.get? "source_id" = some template.sourceId ∧
    payload.get? "source_type" = some template.sourceType ∧
    payload.get? "fields" = some (.obj template.fields) ∧
    template.secret = getOr payload "secret" .null := by
  unfold WebhookTemplate.fromDict at h
  split at h
  · next sourceId sourceType hid htype =>
    split at h
    · next fields hfields =>
      cases h
      exact ⟨hid, htype, hfields, rfl⟩
    · cases h
  · cases h

theorem Entry.Sound.readBack {entry : Entry} (h : entry.Sound) : entry.readBack.Sound := by
  obtain ⟨template, htemplate⟩ := h.template
  obtain ⟨hid, htype, hfields, -⟩ := fromDict_members htemplate
  obtain ⟨flag, hflag, hrequired⟩ := h.flag
  refine ⟨?_, ⟨flag, ?_, hrequired⟩, ?_, h.text⟩
  · refine @fromDict_ok _ template.sourceId.canon template.sourceType.canon
      (Json.canonMembers template.fields) ?_ ?_ ?_
    · simp [Entry.readBack, Json.get?_canonMembers, hid]
    · simp [Entry.readBack, Json.get?_canonMembers, htype]
    · simp [Entry.readBack, Json.get?_canonMembers, hfields, Json.canon]
  · simp [Entry.readBack, Json.get?_canonMembers, hflag, Json.canon]
  · simp only [Entry.readBack, Json.get?_canonMembers, h.secret]
    cases hsecret : entry.secret with
    | none => rfl
    | some secret =>
      obtain ⟨key, -, rfl⟩ := h.text secret hsecret
      rfl

theorem World.Agrees.find (h : w.Agrees entries written) (key : Json) :
    w.service.sources.find key = (entries.find key).map Entry.record ∧
    w.ledger.secret key = (entries.find key).bind Entry.secret := by
  rw [h.records, Ledger.secret, h.secrets, Registry.find_withValues, Registry.find_withValues]
  refine ⟨rfl, ?_⟩
  cases Registry.find entries key <;> rfl

theorem sound_recordOf {old : Option Json} {shown : Bool}
    (htemplate : WebhookTemplate.fromDict payload = .ok template)
    (h : CarefulRegistration old payload shown) (now : String) :
    Entry.Sound ⟨recordOf payload template now, secretAfter old payload shown⟩ := by
  obtain ⟨-, -, -, hsecret⟩ := fromDict_members htemplate
  have hrecord : (recordOf payload template now).get? "secret" =
      if truthy template.secret then some template.secret else none := by
    unfold recordOf WebhookTemplate.toDict
    split <;> simp [Dict.get?_cons]
  have hkept : secretAfter old payload shown =
      if truthy template.secret then some template.secret else none := by
    unfold secretAfter
    cases hgiven : payload.get? "secret" with
    | none =>
      rw [hsecret, getOr, hgiven]
      exact h.kept hgiven
    | some secret =>
      rw [hsecret, getOr, hgiven]
      have hunmasked : (shown && secret == mask) = false := by
        cases hshown : shown with
        | false => rfl
        | true =>
          refine beq_eq_false_iff_ne.mpr fun hmask => h.unmasked hshown ?_
          rw [hgiven, hmask]
      simp only [hunmasked]
      rfl
  refine ⟨?_, ⟨flagAt payload "require_signature" (truthy template.secret), ?_, ?_⟩, ?_, ?_⟩
  · refine @fromDict_ok _ template.sourceId template.sourceType template.fields ?_ ?_ ?_ <;>
      simp [recordOf, WebhookTemplate.toDict, Dict.get?_cons]
  · simp [recordOf, WebhookTemplate.toDict, Dict.get?_cons]
  · intro hflag
    have htruthy : truthy template.secret = true := by
      cases hgiven : payload.get? "require_signature" with
      | none => simpa [flagAt, getOr, hgiven, truthy] using hflag
      | some flag =>
        have hrequired := h.required (by simpa [flagAt, getOr, hgiven] using hflag)
        rw [hsecret, ← truthyAt_eq]
        exact hrequired
    simp only [hkept, htruthy, if_true, Option.isSome_some]
  · rw [hrecord, hkept]
  · intro secret hset
    simp only [hkept] at hset
    split at hset
    · next htruthy =>
      cases hset
      have htext : matchesType template.secret .string = true := by
        cases hgiven : payload.get? "secret" with
        | none =>
          rw [hsecret, getOr, hgiven] at htruthy
          cases htruthy
        | some secret =>
          have hvalue : template.secret = secret := by rw [hsecret, getOr, hgiven]; rfl
          rw [hvalue] at htruthy ⊢
          exact h.text secret hgiven htruthy
      cases hvalue : template.secret with
      | str key =>
        refine ⟨key, ?_, rfl⟩
        rintro rfl
        rw [hvalue] at htruthy
        cases htruthy
      | _ =>
        rw [hvalue] at htext
        cases htext
    · cases hset

theorem World.Agrees.initial : World.Agrees {} [] (some []) where
  records := rfl
  secrets := rfl
  recordsFile := rfl
  secretsFile := rfl
  sound := by
    intro entry hentry
    cases hentry
  soundFile := by
    rintro sources ⟨⟩ entry hentry
    cases hentry

end

section

variable {lib : Library} {wire : Wire}
  {runFactory : Option (WebhookAlert → Dict → Except String Json)}
  {entries : Registry Entry} {written : Option (Registry Entry)} {w : World} (s : Service)

theorem save_sources (sources : Registry Dict) :
    (s.save sources).2 =
      { s with sources := sources, file := Registry.filed Json.canonMembers sources } := by
  unfold Service.save
  cases Registry.filed Json.canonMembers sources <;> rfl

variable {payload : Dict} {template : WebhookTemplate} {now sourceId : String}
  {rawBody : Option Bytes} {signature : Option String} {call : Call}

theorem registerSource_after {s : Service}
    (htemplate : WebhookTemplate.fromDict payload = .ok template)
    (hhashable : hashable template.sourceId = true) (now : String) :
    (s.registerSource payload now).2 =
      (s.save (s.sources.put template.sourceId (recordOf payload template now))).2 := by
  simp only [Service.registerSource, htemplate, hhashable, if_true]

theorem World.Agrees.saved (hsound : ∀ entry ∈ entries, entry.2.Sound) :
    World.Agrees ⟨(s.save (Registry.withValues Entry.record entries)).2,
      Ledger.save (Registry.withValues Entry.secret entries)⟩ entries
      (Registry.filed Entry.readBack entries) where
  records := by rw [save_sources]
  secrets := rfl
  recordsFile := by
    rw [save_sources]
    exact Registry.filed_withValues Entry.record (fun _ => rfl) entries
  secretsFile := Registry.filed_withValues Entry.secret (fun _ => rfl) entries
  sound := hsound
  soundFile := by
    intro sources hwritten entry hentry
    obtain ⟨old, hold, hvalue⟩ := Registry.mem_filed hwritten hentry
    rw [hvalue]
    exact (hsound old hold).readBack

theorem World.Agrees.register (h : w.Agrees entries written) {shown : Bool}
    (hcareful : w.Careful lib wire (.register payload shown now)) :
    ∃ entries written,
      (w.after lib wire runFactory (.register payload shown now)).Agrees entries written := by
  cases htemplate : WebhookTemplate.fromDict payload with
  | error fault =>
    refine ⟨entries, written, ?_⟩
    simpa only [World.after, Service.perform, Service.registerSource, Ledger.after,
      htemplate] using h
  | ok template =>
    cases hhashable : hashable template.sourceId with
    | false =>
      refine ⟨entries, written, ?_⟩
      simpa only [World.after, Service.perform, Service.registerSource, Ledger.after,
        htemplate, hhashable, Bool.false_eq_true, if_false] using h
    | true =>
      let entry : Entry := ⟨recordOf payload template now,
        secretAfter (w.ledger.secret template.sourceId) payload shown⟩
      have hrecords := Registry.put_withValues Entry.record entries template.sourceId entry
      have hsecrets := Registry.put_withValues Entry.secret entries template.sourceId entry
      rw [← h.records] at hrecords
      rw [← h.secrets] at hsecrets
      refine ⟨entries.put template.sourceId entry,
        Registry.filed Entry.readBack (entries.put template.sourceId entry), ?_⟩
      simp only [World.after, Service.perform, registerSource_after htemplate hhashable,
        Ledger.after, htemplate, hhashable, if_true]
      rw [hrecords, hsecrets]
      refine World.Agrees.saved w.service fun other hother => ?_
      rcases Registry.mem_put hother with hold | hnew
      · exact h.sound other hold
      · rw [hnew]
        exact sound_recordOf htemplate (hcareful template htemplate) now

theorem World.Agrees.delete (h : w.Agrees entries written) (sourceId : String) :
    ∃ entries written,
      (w.after lib wire runFactory (.delete sourceId)).Agrees entries written := by
  simp only [World.after, Service.perform, Service.deleteSource, Ledger.after]
  rw [h.records, h.secrets, Registry.find_withValues, Registry.find_withValues]
  cases entries.find (.str sourceId) with
  | none => exact ⟨entries, written, h⟩
  | some entry =>
    refine ⟨entries.drop (.str sourceId),
      Registry.filed Entry.readBack (entries.drop (.str sourceId)), ?_⟩
    simp only [Option.map_some, Registry.drop_withValues]
    exact World.Agrees.saved w.service fun other hother =>
      h.sound other (Registry.mem_drop hother)

theorem World.Agrees.restart (h : w.Agrees entries written) :
    ∃ entries written, (w.after lib wire runFactory .restart).Agrees entries written := by
  simp only [World.after, Service.perform, Service.restart, Ledger.after]
  rw [h.recordsFile, h.secretsFile]
  cases written with
  | none => exact ⟨entries, none, h⟩
  | some sources =>
    exact ⟨sources, some sources, rfl, rfl, rfl, rfl, h.soundFile sources rfl, h.soundFile⟩

theorem Entry.Sound.demanded {entry : Entry} (h : entry.Sound)
    (hdemands : truthyAt entry.record "require_signature" = true ∨ entry.secret.isSome = true) :
    ∃ key, key ≠ "" ∧ entry.secret = some (.str key) ∧
      getOr entry.record "secret" .null = .str key := by
  have hsome : entry.secret.isSome = true := by
    rcases hdemands with hflag | hsome
    · obtain ⟨flag, hrecord, hrequired⟩ := h.flag
      refine hrequired ?_
      simpa [truthyAt, hrecord, truthy] using hflag
    · exact hsome
  obtain ⟨secret, hsecret⟩ := Option.isSome_iff_exists.mp hsome
  obtain ⟨key, hkey, rfl⟩ := h.text secret hsecret
  refine ⟨key, hkey, hsecret, ?_⟩
  rw [getOr, h.secret, hsecret]
  rfl

theorem verifySignature_text {key : String} (hkey : key ≠ "") (body : Bytes)
    {signature : Option String}
    (hascii : ∀ text, signature = some text → isAscii (candidateOf lib text) = true) :
    ∃ verified, verifySignature lib wire body signature (.str key) = .ok verified ∧
      (verified = true ↔ ∃ text, signature = some text ∧ text ≠ "" ∧
        candidateOf lib text = wire.hexdigest key body) := by
  have htruthy : truthy (.str key) = true := bne_iff_ne.mpr hkey
  unfold verifySignature
  rw [if_pos htruthy]
  cases signature with
  | none => exact ⟨false, rfl, by simp⟩
  | some text =>
    by_cases hempty : text = ""
    · exact ⟨false, by simp [hempty], by simp [hempty]⟩
    · refine ⟨wire.hexdigest key body == candidateOf lib text, ?_, ?_⟩
      · simp only [hempty, if_false, compareDigest, hascii text rfl, if_true]
      · rw [beq_iff_eq]
        constructor
        · intro hdigest
          exact ⟨text, rfl, hempty, hdigest.symm⟩
        · rintro ⟨_, ⟨⟩, -, hdigest⟩
          exact hdigest.symm

theorem alertOf_demanded {record : Dict} {key : String} {verified : Bool}
    (hfound : w.service.sources.find (.str sourceId) = some record)
    (htemplate : WebhookTemplate.fromDict record = .ok template) (hkey : key ≠ "")
    (hsecret : getOr record "secret" .null = .str key)
    (hverified : verifySignature lib wire (rawBody.getD []) signature (.str key) = .ok verified)
    (payload : Dict) (now : String) :
    (verified = false → w.service.alertOf lib wire sourceId payload rawBody signature now =
      .error (.signatureMismatch sourceId)) ∧
    ∀ alert record', w.service.alertOf lib wire sourceId payload rawBody signature now =
      .ok (alert, record') → applyTemplate lib template payload now = .ok alert := by
  have htruthy : truthy (.str key) = true := bne_iff_ne.mpr hkey
  have hsame : ({ template with secret := .str key } : WebhookTemplate) = template := by
    obtain ⟨-, -, -, hmember⟩ := fromDict_members htemplate
    rw [← hsecret, ← hmember]
  have hrejected : rejected lib wire record (.str key) rawBody signature = .ok !verified := by
    simp only [rejected, htruthy, Bool.or_true, if_true, hverified]
    rfl
  simp only [Service.alertOf, hfound, htemplate, hsecret, hrejected, hsame]
  constructor
  · rintro rfl
    rfl
  · intro alert record' halert
    split at halert
    · cases halert
    · cases halert
    · split at halert
      · cases halert
      · cases halert
      · next made hmade =>
        split at halert
        · cases halert
          exact hmade
        · cases halert

theorem perform_ingest {sourceId now : String} {payload : Dict}
    {rawBody : Option Bytes} {signature : Option String} :
    let after := s.perform lib wire runFactory (.ingest sourceId payload rawBody signature now)
    match s.alertOf lib wire sourceId payload rawBody signature now with
    | .error fault => after.1 = .error fault ∧ after.2 = s
    | .ok (alert, _) => after.2.alerts = s.alerts ++ [alert] := by
  simp only [Service.perform, Service.ingest]
  cases s.alertOf lib wire sourceId payload rawBody signature now with
  | error fault => exact ⟨rfl, rfl⟩
  | ok made => rfl

theorem World.Agrees.ingest (h : w.Agrees entries written)
    (hcareful : w.Careful lib wire (.ingest sourceId payload rawBody signature now)) :
    w.Guarded lib wire runFactory (.ingest sourceId payload rawBody signature now) := by
  intro hdemands
  obtain ⟨hascii, hbody⟩ := hcareful hdemands
  obtain ⟨record, hfound, hrequired⟩ := hdemands
  obtain ⟨hrecords, hledger⟩ := h.find (.str sourceId)
  have hfoundEntry := hfound
  rw [hrecords] at hfoundEntry
  obtain ⟨entry, hentry, rfl⟩ := Option.map_eq_some_iff.mp hfoundEntry
  obtain ⟨member, hmember, hvalue⟩ := Registry.mem_of_find hentry
  have hsound : entry.Sound := hvalue ▸ h.sound member hmember
  have hset : w.ledger.secret (.str sourceId) = entry.secret := by
    rw [hledger, hentry]
    rfl
  rw [hset] at hrequired
  obtain ⟨key, hkey, hsecret, hrecord⟩ := hsound.demanded hrequired
  obtain ⟨template, htemplate⟩ := hsound.template
  obtain ⟨verified, hverified, hiff⟩ :=
    @verifySignature_text lib wire key hkey (rawBody.getD []) signature hascii
  obtain ⟨hmismatch, hmade⟩ := alertOf_demanded hfound htemplate hkey hrecord hverified payload now
  have hperform := @perform_ingest lib wire runFactory w.service sourceId now payload rawBody
    signature
  constructor
  · intro hsigned
    cases halert : w.service.alertOf lib wire sourceId payload rawBody signature now with
    | error fault =>
      rw [halert] at hperform
      exact .inl (congrArg Service.alerts hperform.2)
    | ok made =>
      rw [halert] at hperform
      exact .inr ⟨made.1, hperform, entry.record, template, payload, hfound, htemplate,
        hbody hsigned, hmade made.1 made.2 halert⟩
  · intro hunsigned
    have hfalse : verified = false := by
      refine eq_false_of_ne_true fun htrue => hunsigned ?_
      obtain ⟨text, htext, -, hdigest⟩ := hiff.mp htrue
      exact ⟨key, text, by rw [hset, hsecret], htext, hdigest⟩
    rw [hmismatch hfalse] at hperform
    exact ⟨hperform.1, congrArg Service.alerts hperform.2⟩

theorem save_alerts (sources : Registry Dict) :
    (s.save sources).2.alerts = s.alerts := by rw [save_sources]

theorem perform_alerts
    (h : ∀ sourceId payload rawBody signature now,
      call ≠ .ingest sourceId payload rawBody signature now) :
    (s.perform lib wire runFactory call).2.alerts = s.alerts := by
  cases call with
  | register payload shown now =>
    simp only [Service.perform, Service.registerSource]
    split
    · rfl
    · split
      · exact save_alerts _ _
      · rfl
  | delete sourceId =>
    simp only [Service.perform, Service.deleteSource]
    split
    · rfl
    · exact save_alerts _ _
  | listSources | getSource sourceId => rfl
  | restart =>
    simp only [Service.perform, Service.restart]
    split <;> rfl
  | ingest sourceId payload rawBody signature now => exact absurd rfl (h _ _ _ _ _)

theorem World.Agrees.guarded (h : w.Agrees entries written) (hcareful : w.Careful lib wire call) :
    w.Guarded lib wire runFactory call := by
  cases call with
  | ingest sourceId payload rawBody signature now => exact h.ingest hcareful
  | _ => exact perform_alerts w.service (by rintro _ _ _ _ _ ⟨⟩)

theorem World.Agrees.after (h : w.Agrees entries written) (hcareful : w.Careful lib wire call) :
    ∃ entries written, (w.after lib wire runFactory call).Agrees entries written := by
  cases call with
  | register payload shown now => exact h.register hcareful
  | delete sourceId => exact h.delete sourceId
  | listSources | getSource sourceId => exact ⟨entries, written, h⟩
  | restart => exact h.restart
  | ingest sourceId payload rawBody signature now =>
    refine ⟨entries, written, ?_⟩
    simp only [World.after, Service.perform, Service.ingest]
    split
    · exact h
    · exact ⟨h.records, h.secrets, h.recordsFile, h.secretsFile, h.sound, h.soundFile⟩

theorem World.Agrees.run (h : w.Agrees entries written) {calls : List Call}
    (hcareful : CarefulRun lib wire runFactory w calls) :
    GuardedRun lib wire runFactory w calls := by
  induction calls generalizing w entries written with
  | nil => trivial
  | cons call rest ih =>
    obtain ⟨hcall, hrest⟩ := hcareful
    have hagrees : ∃ entries written, (w.after lib wire runFactory call).Agrees entries written :=
      h.after hcall
    obtain ⟨entries', written', hafter⟩ := hagrees
    exact ⟨h.guarded hcall, ih hafter hrest⟩

end

/-- **In every run of careful calls** a source that demands signatures makes alerts only of bodies
signed with the secret that was set last. -/
theorem careful_run_guarded (lib : Library) (wire : Wire)
    (runFactory : Option (WebhookAlert → Dict → Except String Json)) (calls : List Call)
    (h : CarefulRun lib wire runFactory {} calls) : GuardedRun lib wire runFactory {} calls :=
  World.Agrees.initial.run h

def probeBody : Bytes :=
  "\x7b\"id\":\"a1\",\"status\":\"fire\",\"time\":\"1970-01-01T00:00:00Z\"\x7d".toUTF8.data.toList

def probePayload : Dict :=
  [("id", .str "a1"), ("status", .str "fire"), ("time", .str "1970-01-01T00:00:00Z")]

def probeDigest : String := "8f1acfe9fdfcc24f5d4866b1ddcb97cd8ab87d5d80c5646f074afd0746302bfd"

def probeWire : Wire where
  hexdigest := fun key body => if key = "topsecret" ∧ body = probeBody then probeDigest else "00"
  decode := fun body => if body = probeBody then some probePayload else none

def probeRegistration (members : Dict) : Dict :=
  [("source_id", .str "probe"), ("source_type", .str "custom"),
    ("fields", .obj [("alert_id", .str "$.id"), ("action", .str "$.status"),
      ("timestamp", .str "$.time")])] ++ members

def probePost (signature : Option String) : Call :=
  .ingest "probe" probePayload (some probeBody) signature "now"

def World.afterAll (w : World) (calls : List Call) : World :=
  calls.foldl (World.after plainLibrary probeWire none) w

set_option maxRecDepth 8192 in
theorem careful_run_guarded_probe :
    (World.afterAll {} [.register (probeRegistration [("secret", .str "topsecret")]) false "now",
      probePost (some ("sha256=" ++ probeDigest)), probePost none]).service.alerts.length = 1 ∧
    GuardedRun plainLibrary probeWire none {}
      [.register (probeRegistration [("secret", .str "topsecret")]) false "now",
        probePost (some ("sha256=" ++ probeDigest)), probePost none] := by
  refine ⟨rfl, careful_run_guarded plainLibrary probeWire none _ ⟨?_, ?_, ?_, trivial⟩⟩
  · rintro template -
    refine ⟨fun h => absurd h (by decide), ?_, fun h => absurd h (by decide),
      fun h => absurd h (by decide)⟩
    rintro secret hsecret -
    have hvalue : some secret = some (.str "topsecret") := hsecret.symm
    cases hvalue
    rfl
  · refine fun _ => ⟨?_, fun _ => rfl⟩
    rintro text ⟨⟩
    rfl
  · refine fun _ => ⟨?_, fun _ => rfl⟩
    rintro text ⟨⟩

/-- A run that ends with more alerts, though nobody has set a secret, is not guarded. -/
theorem not_guarded_of_unsigned {w : World} {signature : Option String}
    (hdemands : w.Demands "probe") (hledger : w.ledger.secret (.str "probe") = none)
    (happended : (w.after plainLibrary probeWire none (probePost signature)).service.alerts ≠
      w.service.alerts) :
    ¬w.Guarded plainLibrary probeWire none (probePost signature) := by
  intro hguarded
  refine happended ((hguarded hdemands).2 ?_).2
  rintro ⟨key, text, hkey, -⟩
  rw [hledger] at hkey
  cases hkey

set_option maxRecDepth 8192 in
/-- An unsigned body makes an alert where no secret is given, the mask becomes a secret, and a
signature that is not in ASCII is no mismatch. -/
theorem unsigned_bodies_pass :
    ¬GuardedRun plainLibrary probeWire none {}
      [.register (probeRegistration [("require_signature", .bool true)]) false "now",
        probePost none] ∧
    (let shown := World.afterAll {}
      [.register (probeRegistration [("secret", .str "topsecret")]) false "now"]
    ∃ record, shown.service.getSource "probe" = .ok record ∧
      let registered := World.afterAll shown [.register record true "later"]
      (registered.service.sources.find (.str "probe")).bind (Dict.get? · "secret") =
        some (.str "***") ∧
      registered.ledger.secret (.str "probe") = some (.str "topsecret")) ∧
    ¬GuardedRun plainLibrary probeWire none {}
      [.register (probeRegistration [("secret", .str "topsecret")]) false "now",
        probePost (some "é")] := by
  refine ⟨?_, ⟨_, rfl, rfl, rfl⟩, ?_⟩
  · rintro ⟨-, hpost, -⟩
    refine not_guarded_of_unsigned ⟨_, rfl, .inl rfl⟩ rfl (fun hsame => ?_) hpost
    have hlength := congrArg List.length hsame
    cases hlength
  · rintro ⟨-, hpost, -⟩
    have hdemands : World.Demands (World.after plainLibrary probeWire none {}
        (.register (probeRegistration [("secret", .str "topsecret")]) false "now")) "probe" :=
      ⟨_, rfl, .inr rfl⟩
    have hmismatch := ((hpost hdemands).2 (by
      rintro ⟨key, text, hkey, htext, hdigest⟩
      cases hkey
      cases htext
      exact absurd hdigest (by decide))).1
    cases hmismatch

end OrbitalMesh.Webhooks
