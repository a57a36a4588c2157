import OrbitalMesh.Authority.Record
import OrbitalMesh.Base.HashChain

/-!
# Reading a record back together with its receipts

`_reconciliation_payload` re-derives the whole receipt chain of a record from raw
JSON, because a state file may have been edited by hand.

An accepted log is a linked hash chain (`accepted_linked`), so two logs accepted for
one record have the same hashed fields in every receipt.  The field `event_id` is
removed before hashing: it is the one field that the reader does not protect.
-/

namespace OrbitalMesh

/-- `event.get(field) != value`. -/
def fieldDiffers (event : Dict) (field : String) (value : Option Json) : Bool :=
  !Json.pyEqOpt (event.get? field) value

/-- The part of a receipt that is hashed: `event_id` and `event_digest` are
popped. -/
def hashedPart (event : Dict) : Dict := (event.pop "event_id").pop "event_digest"

variable (sha : Sha256)

/-- One turn of the loop in `_reconciliation_payload`; returns the digest the
next receipt has to follow. -/
def checkReceipt (record : Dict) (expectedSequence : Nat)
    (previous : String) (event : Json) : Except PyError String :=
  match event with
  | .obj event => do
    rejectIf (fieldDiffers event "sequence" (some (.int expectedSequence)))
      ⟨.authorityStoreError, "authority event sequence is not contiguous"⟩
    rejectIf (fieldDiffers event "schema_version" (some (.str authorityEventVersion)))
      ⟨.authorityStoreError, "authority event schema version is unsupported"⟩
    rejectIf (fieldDiffers event "state_version" (some (.int expectedSequence)))
      ⟨.authorityStoreError, "authority event state version is not contiguous"⟩
    rejectIf (fieldDiffers event "authority_id" (record.get? "authority_id"))
      ⟨.authorityStoreError, "authority event record binding mismatch"⟩
    rejectIf (fieldDiffers event "action_binding_digest"
        (record.get? "action_binding_digest"))
      ⟨.authorityStoreError, "authority event action binding mismatch"⟩
    rejectIf (fieldDiffers event "previous_event_digest" (some (.str previous)))
      ⟨.authorityStoreError, "authority event digest chain is broken"⟩
    let claimedDigest := Dict.get? event "event_digest"
    rejectIf (!Json.pyEqOpt claimedDigest
        (some (.str (canonicalDigest sha (.obj (hashedPart event))))))
      ⟨.authorityStoreError, "authority event digest is invalid"⟩
    return (claimedDigest.getD .null).asStr
  | _ => .error ⟨.authorityStoreError, "authority event receipt is malformed"⟩

/-- The loop of `_reconciliation_payload`, from the given position on; returns
the digest of the last receipt. -/
def checkReceipts (sha : Sha256) (record : Dict) :
    Nat → String → List Json → Except PyError String
  | _, previous, [] => .ok previous
  | sequence, previous, event :: rest => do
    let next ← checkReceipt sha record sequence previous event
    checkReceipts sha record (sequence + 1) next rest

/-- `events[-1].get("state_version")`. -/
def lastStateVersion (events : List Json) : Option Json :=
  events.getLast?.bind fun event => (event.asObj?.getD []).get? "state_version"

/-- What `_reconciliation_payload` returns for an accepted log. -/
def reconciledView (record : Dict) (events : List Json) : Dict :=
  [("schema_version", .str authorityStoreVersion),
   ("record", .obj record),
   ("events", .arr events),
   ("event_chain_valid", .bool true)]

def reconciliationPayload (record : Dict) (events : Json) :
    Except PyError Dict := do
  validateRecordBinding sha record
  match events with
  | .arr (first :: rest) =>
    let previous ← checkReceipts sha record 1 genesisDigest (first :: rest)
    rejectIf (fieldDiffers record "event_sequence"
        (some (.int (first :: rest).length)))
      ⟨.authorityStoreError, "authority record event sequence mismatch"⟩
    rejectIf (fieldDiffers record "latest_event_digest" (some (.str previous)))
      ⟨.authorityStoreError, "authority record latest event digest mismatch"⟩
    rejectIf (!Json.pyEqOpt (lastStateVersion (first :: rest)) (record.get? "version"))
      ⟨.authorityStoreError, "authority record version is not reconciled"⟩
    return reconciledView record (first :: rest)
  | _ => .error ⟨.authorityStoreError, "authority event receipts are missing"⟩

variable (event : Json)

def receiptField (field : String) : Option Json :=
  ((event.asObj?.getD []).get? field).map Json.canon

def receiptBefore : Option Json :=
  receiptField event "previous_event_digest"

def receiptAfter : Option Json := receiptField event "event_digest"

def receiptBody : Json := .obj (hashedPart (event.asObj?.getD []))

def ReceiptSealed (event : Json) : Prop :=
  receiptAfter event = some (.str (canonicalDigest sha (receiptBody event)))

variable {record : Dict} {sequence : Nat} {previous : String} {events : List Json}

theorem checkReceipt_ok {sha : Sha256} {next : String} {event : Json}
    (h : checkReceipt sha record sequence previous event = .ok next) :
    receiptBefore event = some (.str previous) ∧
      receiptAfter event = some (.str next) ∧ ReceiptSealed sha event := by
  unfold checkReceipt at h
  split at h
  · next event =>
    simp only [Except.bind_ok_iff, rejectIf_ok, fieldDiffers] at h
    obtain ⟨_, -, _, -, _, -, _, -, _, -, _, hprevious, _, hdigest, hnext⟩ := h
    have hbefore := Json.pyEqOpt_str_iff.mp (by simpa using hprevious)
    have hafter := Json.pyEqOpt_str_iff.mp (by simpa using hdigest)
    have hreturn : next = canonicalDigest sha (.obj (hashedPart event)) := by
      rw [hafter] at hnext
      exact (Except.ok.inj hnext).symm
    refine ⟨?_, ?_, ?_⟩
    · simp [receiptBefore, receiptField, Json.asObj?, hbefore, Json.canon]
    · simp [receiptAfter, receiptField, Json.asObj?, hafter, Json.canon, hreturn]
    · simp [ReceiptSealed, receiptAfter, receiptField, receiptBody, Json.asObj?, hafter,
        Json.canon]
  · cases h

/-- An accepted log is linked from the starting digest to the returned one. -/
theorem checkReceipts_linked {sha : Sha256} {last : String}
    (h : checkReceipts sha record sequence previous events = .ok last) :
    HashChain.Linked receiptBefore receiptAfter (some (.str previous)) events
        (some (.str last)) ∧
      ∀ event ∈ events, ReceiptSealed sha event := by
  induction events generalizing sequence previous with
  | nil =>
    have hlast : previous = last := Except.ok.inj h
    simp [hlast]
  | cons event rest ih =>
    simp only [checkReceipts, Except.bind_ok_iff] at h
    obtain ⟨next, hevent, hrest⟩ := h
    obtain ⟨hbefore, hafter, hsealed⟩ := checkReceipt_ok hevent
    obtain ⟨hlinked, hall⟩ := ih hrest
    refine ⟨⟨hbefore, ?_⟩, ?_⟩
    · rw [hafter]
      exact hlinked
    · intro other hother
      rcases List.mem_cons.mp hother with rfl | hmem
      · exact hsealed
      · exact hall other hmem

theorem accepted_linked {sha : Sha256} {payload : Dict}
    (h : reconciliationPayload sha record (.arr events) = .ok payload) :
    ∃ last, record.get? "latest_event_digest" = some (.str last) ∧
      Json.pyEqOpt (record.get? "event_sequence") (some (.int events.length)) = true ∧
      HashChain.Linked receiptBefore receiptAfter (some (.str genesisDigest)) events
        (some (.str last)) ∧
      ∀ event ∈ events, ReceiptSealed sha event := by
  unfold reconciliationPayload at h
  rw [Except.bind_ok_iff] at h
  obtain ⟨_, -, h⟩ := h
  cases events with
  | nil => cases h
  | cons first rest =>
    simp only [Except.bind_ok_iff, rejectIf_ok, fieldDiffers] at h
    obtain ⟨last, hchecked, _, hcount, _, hlatest, _⟩ := h
    obtain ⟨hlinked, hsealed⟩ := checkReceipts_linked hchecked
    exact ⟨last, Json.pyEqOpt_str_iff.mp (by simpa using hlatest), by simpa using hcount,
      hlinked, hsealed⟩

def SameReceipt (left right : Json) : Prop :=
  ∀ field, receiptField left field = receiptField right field

private def SameHashedFields (left right : Json) : Prop :=
  ∀ field, field ≠ "event_id" → receiptField left field = receiptField right field

def CollisionFree (left right : List Json) : Prop :=
  ∀ a ∈ left, ∀ b ∈ right,
    canonicalDigest sha (receiptBody a) = canonicalDigest sha (receiptBody b) →
      (receiptBody a).canon = (receiptBody b).canon

private theorem field_of_body {event : Json} {field : String}
    (hid : field ≠ "event_id") (hdigest : field ≠ "event_digest") :
    receiptField event field = ((hashedPart (event.asObj?.getD [])).get? field).map Json.canon := by
  unfold receiptField hashedPart
  rw [Dict.get?_pop_of_ne _ hdigest, Dict.get?_pop_of_ne _ hid]

private theorem sameHashedFields_of_digest {sha : Sha256} {a b : Json}
    (ha : ReceiptSealed sha a) (hb : ReceiptSealed sha b)
    (hfree : canonicalDigest sha (receiptBody a) = canonicalDigest sha (receiptBody b) →
      (receiptBody a).canon = (receiptBody b).canon)
    (hdigest : receiptAfter a = receiptAfter b) : SameHashedFields a b := by
  intro field hid
  by_cases hfield : field = "event_digest"
  · rw [hfield]
    exact hdigest
  · rw [ha, hb] at hdigest
    have hcanon : (receiptBody a).canon = (receiptBody b).canon :=
      hfree (by simpa using hdigest)
    rw [field_of_body hid hfield, field_of_body hid hfield]
    exact Json.get?_eq_of_canon_eq hcanon field

/-- **Receipt tamper evidence.**  Two logs accepted for the same record agree exactly when they
agree on the `event_id` values. -/
theorem accepted_logs_agree_iff (record payload payload' : Dict) (left right : List Json)
    (hleft : reconciliationPayload sha record (.arr left) = .ok payload)
    (hright : reconciliationPayload sha record (.arr right) = .ok payload')
    (hfree : CollisionFree sha left right) :
    List.Forall₂ SameReceipt left right ↔
      left.map (receiptField · "event_id") = right.map (receiptField · "event_id") := by
  obtain ⟨last, hlast, hcount, hlinked, hsealed⟩ := accepted_linked hleft
  obtain ⟨last', hlast', hcount', hlinked', hsealed'⟩ := accepted_linked hright
  have htip : last = last' := by
    rw [hlast] at hlast'
    simpa using hlast'
  have hlen : left.length = right.length := by
    exact_mod_cast Json.int_eq_of_pyEq hcount hcount'
  subst htip
  -- the hashed fields agree in any case
  have hhashed : List.Forall₂ SameHashedFields left right := by
    refine hlinked.forall₂ hlinked' hlen ?_ ?_
    · intro a ha b hb hdigest
      exact sameHashedFields_of_digest (hsealed a ha) (hsealed' b hb) (hfree a ha b hb)
        hdigest
    · intro a b h
      exact h "previous_event_digest" (by decide)
  constructor
  · intro h
    have hids : List.Forall₂ (fun a b => receiptField a "event_id" = receiptField b "event_id")
        left right := h.imp fun a b hab => hab "event_id"
    rw [← List.forall₂_eq_eq_eq, List.forall₂_map_left_iff, List.forall₂_map_right_iff]
    exact hids
  · intro hids
    rw [← List.forall₂_eq_eq_eq, List.forall₂_map_left_iff, List.forall₂_map_right_iff] at hids
    refine (List.Forall₂.mp (fun a b hab hid => ?_) hhashed hids)
    intro field
    by_cases hfield : field = "event_id"
    · rw [hfield]
      exact hid
    · exact hab field hfield

def sampleRequest : IssueRequest where
  authorityId := "authority-1"
  idempotencyKey := "decision-1:execute"
  nonce := hex64 1
  actionBinding := .obj [("target_file", .str "a.txt")]
  actionBindingDigest :=
    canonicalDigest checksumHash (.obj [("target_file", .str "a.txt")])

def sampleIssue : Option (AuthorityRecord × EventReceipt) :=
  (newIssue checksumHash sampleRequest (some 1783872000000000)).toOption

def sampleRecord : Dict := (sampleIssue.map (·.1.toDict)).getD []

def sampleReceipt : Dict := (sampleIssue.map (·.2.toDict)).getD []

def relabelledReceipt : Dict := sampleReceipt.set "event_id" (.str "forged")

private theorem sampleReceipt_accepted :
    reconciliationPayload checksumHash sampleRecord (.arr [.obj sampleReceipt]) =
      .ok (reconciledView sampleRecord [.obj sampleReceipt]) := by
  decide +kernel

private theorem relabelledReceipt_accepted :
    reconciliationPayload checksumHash sampleRecord (.arr [.obj relabelledReceipt]) =
      .ok (reconciledView sampleRecord [.obj relabelledReceipt]) := by
  decide +kernel

theorem sampleReceipt_agrees : List.Forall₂ SameReceipt [.obj sampleReceipt] [.obj sampleReceipt] :=
  (accepted_logs_agree_iff checksumHash sampleRecord _ _ [.obj sampleReceipt]
    [.obj sampleReceipt] sampleReceipt_accepted sampleReceipt_accepted
    (by simp [CollisionFree])).mpr rfl

/-- A receipt can be relabelled unnoticed: both logs are accepted and differ in `event_id`. -/
theorem relabelled_receipt_accepted_unnoticed :
    ¬ ∀ (record payload payload' : Dict) (left right : List Json),
      reconciliationPayload checksumHash record (.arr left) = .ok payload →
      reconciliationPayload checksumHash record (.arr right) = .ok payload' →
      CollisionFree checksumHash left right →
      List.Forall₂ SameReceipt left right := by
  intro h
  have hbody : receiptBody (.obj sampleReceipt) = receiptBody (.obj relabelledReceipt) := by
    decide +kernel
  have hagree := h sampleRecord _ _ [.obj sampleReceipt] [.obj relabelledReceipt]
    sampleReceipt_accepted relabelledReceipt_accepted (by simp [CollisionFree, hbody])
  cases hagree with
  | cons hsame _ =>
    have hid := hsame "event_id"
    have hne : receiptField (.obj sampleReceipt) "event_id" ≠
        receiptField (.obj relabelledReceipt) "event_id" := by
      decide +kernel
    exact hne hid

end OrbitalMesh
