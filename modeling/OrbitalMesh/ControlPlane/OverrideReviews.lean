import OrbitalMesh.Bridge.Admission
import OrbitalMesh.ControlPlane.ExecutionGate

/-!
# Reviews of overrides

The ids of steering commands, and the command that a review of an override finds.
-/

namespace OrbitalMesh

open Atomic Raising

section

/-- The id that `steer_run` makes of the second and of the notes of the session. -/
def commandId (stamp : String) (notes : Nat) : String :=
  "cmd_" ++ stamp ++ "_" ++ toString (notes + 1)

/-- What a call has read, and whether it has logged an event. -/
structure SteerReads where
  session : Option RunSession := none
  times : List String := []
  logged : Bool := false

/-- The first event that is logged has the id that is made of what was read. -/
def steerMonitor : Monitor RecordOp RecordOp.Answer SteerReads where
  admits
    | m, .store (.logNew draft) => m.logged = true ∨ ∃ session stamp issuedAt,
        m.session = some session ∧ m.times = [stamp, issuedAt] ∧
          draft.eventType = "steering_command" ∧ draft.payload.get? "command_id" =
            some (.str (commandId stamp session.operatorNotes.length))
    | _, _ => True
  next
    | m, .store (.getSession _), .ok found => { m with session := found }
    | m, .store .timestamp, .ok (time : String) => { m with times := m.times ++ [time] }
    | m, .store (.logNew _), _ => { m with logged := true }
    | m, _, _ => m

theorem obeys_logged {α : Type} (p : Prog RecordOp RecordOp.Answer α)
    {Q : α → SteerReads → Prop} (hQ : ∀ a m, m.logged = true → Q a m) {m : SteerReads}
    (h : m.logged = true) : steerMonitor.Obeys p Q m := by
  induction p generalizing m with
  | ret a => exact hQ a m h
  | call op k ih =>
    refine ⟨?_, fun r => ih r ?_⟩
    · unfold steerMonitor
      dsimp only
      split
      · exact .inl h
      · trivial
    · unfold steerMonitor
      dsimp only
      split <;> first | exact h | rfl

variable {β : Type} {m : SteerReads}

/-- A program ends as it may: only its sections are looked at. -/
abbrev anyEnd : Except PyError β → SteerReads → Prop := ends (fun _ _ => True) fun _ _ => True

theorem onStore_obeys {α : Type} {op : StoreOp} {k : StoreResp op → StoreProg α}
    {Q : Except PyError α → SteerReads → Prop} (hadmits : steerMonitor.admits m (.store op))
    (hraise : ∀ e m, Q (.error e) m)
    (hrest : ∀ value,
      steerMonitor.Obeys (onStore (k value)) Q (steerMonitor.next m (.store op) (.ok value))) :
    steerMonitor.Obeys (onStore (.call op k)) Q m := by
  rw [onStore]
  refine And.intro hadmits ?_
  rintro (e | value)
  · exact hraise e _
  · exact hrest value

theorem section_then {op : StoreOp} {f : StoreResp op → Recording β}
    (hadmits : steerMonitor.admits m (.store op))
    (hf : ∀ value,
      steerMonitor.Obeys (f value) anyEnd (steerMonitor.next m (.store op) (.ok value))) :
    steerMonitor.Obeys (onStore (FileStateStore.issue op) >>= f : Recording β) anyEnd m :=
  obeys_andThen (onStore_obeys hadmits (fun _ _ => trivial) hf)

theorem log_then {hash : MerkleHash} {draft : EventDraft} {f : RunEvent → Recording β}
    (hadmits : steerMonitor.admits m (.store (.logNew draft))) :
    steerMonitor.Obeys (onStore (FileStateStore.appendRunEvent hash draft) >>= f : Recording β)
      anyEnd m := by
  refine obeys_andThen (onStore_obeys hadmits (fun _ _ => trivial) fun event => ?_)
  refine obeys_logged _ (fun a m h => ?_) rfl
  cases a with
  | error e => trivial
  | ok event => exact obeys_logged _ (fun a _ _ => by cases a <;> trivial) h

theorem ask_then {question : Question} {f : question.Value → Recording β}
    (hf : ∀ value, steerMonitor.Obeys (f value) anyEnd m) :
    steerMonitor.Obeys (ask question >>= f : Recording β) anyEnd m := by
  refine obeys_andThen (And.intro trivial ?_)
  rintro (e | value)
  · trivial
  · exact hf value

theorem except_then {α : Type} {x : Except PyError α} {f : α → Recording β}
    (hf : ∀ value, x = .ok value → steerMonitor.Obeys (f value) anyEnd m) :
    steerMonitor.Obeys (Raising.ofExcept x >>= f : Recording β) anyEnd m := by
  refine obeys_andThen ?_
  cases x with
  | error e => trivial
  | ok value => exact hf value rfl

theorem steerRun_names (hash : MerkleHash) (runId : String) (cap : Nat) (payload : Dict) :
    steerMonitor.Obeys (steerRun hash runId cap payload) anyEnd {} := by
  refine except_then fun supported _ => ?_
  split
  · refine section_then trivial fun found => ?_
    cases found with
    | none => exact trivial
    | some session =>
      refine except_then fun _ _ => ?_
      dsimp only
      split
      · exact ask_then fun _ => section_then trivial fun stamp =>
          section_then trivial fun issuedAt =>
            log_then (.inr ⟨session, stamp, issuedAt, rfl, rfl, rfl, rfl⟩)
      · exact section_then trivial fun stamp =>
          section_then trivial fun issuedAt =>
            log_then (.inr ⟨session, stamp, issuedAt, rfl, rfl, rfl, rfl⟩)
  · exact trivial

end

section

/-- The digits after the last `_` are the number. -/
theorem commandId_injective {stamp stamp' : String} {notes notes' : Nat}
    (h : commandId stamp notes = commandId stamp' notes') : stamp = stamp' ∧ notes = notes' := by
  have hchars := congrArg (fun text => text.toList.reverse) h
  simp only [commandId, Nat.toString_eq_repr, String.toList_append, Nat.toList_repr,
    List.reverse_append, List.append_assoc] at hchars
  have hplain : ∀ n, ∀ c ∈ (Nat.toDigits 10 n).reverse, (c != '_') = true := fun n c hc =>
    bne_iff_ne.mpr fun heq =>
      Nat.underscore_not_in_toDigits (n := n) (heq ▸ List.mem_reverse.mp hc)
  have hdigits := congrArg (List.takeWhile (· != '_')) hchars
  have hrest := congrArg (List.dropWhile (· != '_')) hchars
  rw [List.takeWhile_append_of_pos (hplain _), List.takeWhile_append_of_pos (hplain _)] at hdigits
  rw [List.dropWhile_append_of_pos (hplain _), List.dropWhile_append_of_pos (hplain _)] at hrest
  have hnumber : Nat.toDigits 10 (notes + 1) = Nat.toDigits 10 (notes' + 1) := by
    simpa using hdigits
  have hvalue := congrArg (fun digits => Nat.ofDigitChars 10 digits 0) hnumber
  exact ⟨by simpa [String.toList_inj] using hrest, by simpa using hvalue⟩

theorem pyStrip_commandId (stamp : String) (notes : Nat) :
    pyStrip (commandId stamp notes) = commandId stamp notes := by
  obtain ⟨digit, rest, hdigits⟩ :=
    List.exists_cons_of_ne_nil (List.reverse_ne_nil_iff.mpr (Nat.toDigits_ne_nil (n := notes + 1)
      (b := 10)))
  have hdigit : digit.isDigit = true := Nat.isDigit_of_mem_toDigits (b := 10) (n := notes + 1)
    (by decide) (by decide) (List.mem_reverse.mp (hdigits ▸ List.mem_cons_self))
  have hplain : isPySpace digit = false := by
    have hrange : 48 ≤ digit.toNat ∧ digit.toNat ≤ 57 := by
      simpa [Char.isDigit, UInt32.le_iff_toNat_le] using hdigit
    grind [isPySpace]
  have hchars : (commandId stamp notes).toList.reverse =
      digit :: (rest ++ ("cmd_" ++ stamp ++ "_").toList.reverse) := by
    simp [commandId, Nat.toString_eq_repr, Nat.toList_repr, hdigits]
  have hfront : (commandId stamp notes).toList.dropWhile isPySpace =
      (commandId stamp notes).toList := by
    simp [commandId, show isPySpace 'c' = false by decide]
  rw [pyStrip, hfront, hchars, List.dropWhile_cons_of_neg (by simp [hplain]), ← hchars,
    List.reverse_reverse, String.ofList_toList]

/-- The entry of `matching_events` for an event. -/
def reviewedCommand (event : RunEvent) : Dict :=
  [("event_id", .str event.eventId),
   ("command_id", .str (pyStrip (textOrEmpty event.payload "command_id"))),
   ("command_type", .str (pyStrip (textOrEmpty event.payload "command_type"))),
   ("issued_at", .str (pyStr (orElse (event.payload.get? "issued_at") (.str event.recordedAt)))),
   ("operator_id", match (membersAt event.payload "operator").get? "operator_id" with
      | some (.str operator) => .str operator
      | _ => .null)]

def isReviewTarget (eventId commandId : String) (event : RunEvent) : Bool :=
  event.eventType == "steering_command" &&
    steeringDecisionCommands.contains (pyStrip (textOrEmpty event.payload "command_type")) &&
    (eventId == "" || event.eventId == eventId) &&
    (commandId == "" || pyStrip (textOrEmpty event.payload "command_id") == commandId)

def overrideEventId (payload : Dict) : String := pyStrip (textOrEmpty payload "override_event_id")

def overrideCommandId (payload : Dict) : String :=
  pyStrip (textOrEmpty payload
    (if truthyAt payload "command_id" then "command_id" else "override_command_id"))

/-- `_select_override_command_for_review`, in the events of the run. -/
def selectOverrideCommandForReview (events : List RunEvent) (payload : Dict) :
    Except PyError Dict :=
  let eventId := overrideEventId payload
  let commandId := overrideCommandId payload
  match (events.filter (isReviewTarget eventId commandId)).getLast? with
  | some event => .ok (reviewedCommand event)
  | none => valueError (if eventId != "" || commandId != "" then
      "override review target command was not found"
    else "override review requires a prior override command")

/-- A steering command as it stands in the log of the run. -/
structure Issued where
  stamp : String
  notes : Nat
  event : RunEvent
  steering : event.eventType = "steering_command"
  named : event.payload.get? "command_id" = some (.str (commandId stamp notes))

def Issued.id (issued : Issued) : String := commandId issued.stamp issued.notes

theorem Issued.id_ne (issued : Issued) : issued.id ≠ "" := fun h => by
  simpa [Issued.id, commandId] using congrArg String.toList h

theorem Issued.read_id (issued : Issued) :
    pyStrip (textOrEmpty issued.event.payload "command_id") = issued.id := by
  have hstrip : pyStrip issued.id = issued.id := pyStrip_commandId _ _
  have hnamed : issued.event.payload.get? "command_id" = some (.str issued.id) := issued.named
  simp [textOrEmpty, hnamed, truthy, issued.id_ne, pyStr, hstrip]

/-- The last match is the only one. -/
theorem select_of_only {events : List RunEvent} {payload : Dict} {event : RunEvent}
    (hmem : event ∈ events) (hid : overrideCommandId payload ≠ "")
    (honly : ∀ other ∈ events, isReviewTarget (overrideEventId payload)
      (overrideCommandId payload) other = true → other = event) :
    selectOverrideCommandForReview events payload =
      if isReviewTarget (overrideEventId payload) (overrideCommandId payload) event then
        .ok (reviewedCommand event)
      else valueError "override review target command was not found" := by
  unfold selectOverrideCommandForReview
  dsimp only
  cases hlast : (events.filter (isReviewTarget (overrideEventId payload)
      (overrideCommandId payload))).getLast? with
  | none =>
    rw [List.getLast?_eq_none_iff, List.filter_eq_nil_iff] at hlast
    simp [hlast event hmem, hid]
  | some found =>
    obtain ⟨hfound, htarget⟩ := List.mem_filter.mp (List.mem_of_getLast? hlast)
    cases honly found hfound htarget
    simp [htarget]

/-- The ids of the commands differ, and a review finds the command with its id and no other. -/
def ReviewsName (events : List RunEvent) (history : List Issued) : Prop :=
  (history.map Issued.id).Nodup ∧ ∀ issued ∈ history, ∀ payload,
    overrideCommandId payload = issued.id →
    selectOverrideCommandForReview events payload =
      if isReviewTarget (overrideEventId payload) issued.id issued.event then
        .ok (reviewedCommand issued.event)
      else valueError "override review target command was not found"

/-- **Reviews name their command** exactly if no two commands of the run have both the second
and the number of notes in common, of which every call of `steer_run` makes the id. -/
theorem override_review_names {events : List RunEvent} {history : List Issued}
    (h : events.filter (fun event => event.eventType == "steering_command") =
      history.map Issued.event) :
    (∀ hash runId cap payload,
      steerMonitor.Obeys (steerRun hash runId cap payload) anyEnd {}) ∧
    (ReviewsName events history ↔
      (history.map fun issued => (issued.stamp, issued.notes)).Nodup) := by
  refine ⟨steerRun_names, ?_⟩
  have hids : history.map Issued.id =
      (history.map fun issued => (issued.stamp, issued.notes)).map fun made =>
        commandId made.1 made.2 := by
    rw [List.map_map]
    rfl
  constructor
  · rintro ⟨hnodup, -⟩
    exact List.Nodup.of_map _ (hids ▸ hnodup)
  · intro hmade
    have hnodup : (history.map Issued.id).Nodup := hids ▸ hmade.map fun made made' heq =>
      Prod.ext_iff.mpr (commandId_injective heq)
    refine ⟨hnodup, fun issued hissued payload hid => ?_⟩
    have hmem := h ▸ List.mem_map_of_mem hissued
    have hne := hid ▸ issued.id_ne
    rw [← hid]
    refine select_of_only (List.mem_of_mem_filter hmem) hne fun other hother htarget => ?_
    simp only [isReviewTarget, Bool.and_eq_true, Bool.or_eq_true, beq_iff_eq] at htarget
    obtain ⟨⟨⟨hsteering, -⟩, -⟩, hsame⟩ := htarget
    have hlisted : other ∈ history.map Issued.event :=
      h ▸ List.mem_filter.mpr ⟨hother, beq_iff_eq.mpr hsteering⟩
    obtain ⟨found, hfound, rfl⟩ := List.mem_map.mp hlisted
    have heq := hsame.resolve_left hne
    rw [found.read_id, hid] at heq
    rw [List.inj_on_of_nodup_map hnodup hfound hissued heq]

/-- A command of a session without notes. -/
def issuedAt (stamp eventId commandType : String) : Issued where
  stamp := stamp
  notes := 0
  event :=
    { eventId, runId := "run", sequence := 1, stage := "awaiting_operator"
      eventType := "steering_command", recordedAt := stamp
      payload := [("command_id", .str (commandId stamp 0)), ("command_type", .str commandType)] }
  steering := rfl
  named := rfl

theorem override_review_names_sample :
    ReviewsName [(issuedAt "20260101120000" "e1" "override_decision").event]
      [issuedAt "20260101120000" "e1" "override_decision"] := by
  refine (override_review_names ?_).2.mpr (by simp)
  rfl

/-- Two commands within one second: a review of the first records the second. -/
theorem override_review_misnamed :
    ¬ ∀ events history, events.filter (fun event => event.eventType == "steering_command") =
      history.map Issued.event → ReviewsName events history := by
  intro hclaim
  have hfirst := (hclaim
    [(issuedAt "20260101120000" "e1" "override_decision").event,
      (issuedAt "20260101120000" "e2" "override_execution_parameters").event]
    [issuedAt "20260101120000" "e1" "override_decision",
      issuedAt "20260101120000" "e2" "override_execution_parameters"] rfl).2 _
    List.mem_cons_self [("command_id", .str "cmd_20260101120000_1")] (by decide +kernel)
  revert hfirst
  decide +kernel

end

end OrbitalMesh
