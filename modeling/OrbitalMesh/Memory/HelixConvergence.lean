import Mathlib.Data.List.Nodup
import OrbitalMesh.Memory.HelixOutbox

/-!
# Convergence of the Helix projection

The outbox replays its events in the order in which they were first enqueued.
So the projection ends with the newest version of a record as long as the newest
version is the last that waits, or none waits and it is in the projection
(`Shows`).  `OrderlyEnqueue`, `OrderlySuccess` and `Settled` say of one step what
it takes to keep that; `outbox_converges` concludes for every history of such
steps.
-/

namespace OrbitalMesh.Helix

open Atomic DurableHelixMemoryProjection

def waitingIn (key : Operation × String) (events : List OutboxEvent) : List (String × Dict) :=
  (events.filter fun event =>
    event.waits && decide (recordKey event.operation event.record = key)).map
    fun event => (event.eventId, event.record)

/-- What a replay of everything that waits would leave for a record. -/
def Shows (s : HelixStore) (key : Operation × String) (record : Dict) : Prop :=
  match (waitingIn key s.outbox).getLast? with
  | some last => SameVersion last.2 record
  | none => ∃ held, s.projection key = some held ∧ SameVersion held record

variable (config : HelixConfig)

/-- An event listed under the id of the record is of the same record and version, and no other
version of the record waits after it. -/
def OrderlyEnqueue (s : HelixStore) (operation : Operation)
    (record : Dict) : Prop :=
  ∀ before event after, s.outbox = before ++ event :: after →
    event.eventId = projectionEventId config operation record →
    recordKey event.operation event.record = recordKey operation record ∧
      SameVersion event.record record ∧ waitingIn (recordKey operation record) after = []

/-- When a version is projected, no other version of the record waits, or it
waits itself and is not the last that waits. -/
def OrderlySuccess (s : HelixStore) (operation : Operation)
    (record : Dict) : Prop :=
  (∀ other ∈ waitingIn (recordKey operation record) s.outbox,
      other.1 = projectionEventId config operation record) ∨
    (projectionEventId config operation record ∈
        (waitingIn (recordKey operation record) s.outbox).map Prod.fst ∧
      ∀ last, (waitingIn (recordKey operation record) s.outbox).getLast? = some last →
        last.1 ≠ projectionEventId config operation record)

/-- What is asked of each step. -/
def Orderly : (op : HelixOp) → HelixStore → HelixResp op → Prop
  | .enqueue operation record, s, _ => OrderlyEnqueue config s operation record
  | .call operation record, s, .ok () => OrderlySuccess config s operation record
  | _, _, _ => True

def orderlyStep (op : HelixOp) (s : HelixStore) (r : HelixResp op)
    (t : HelixStore) : Prop :=
  Orderly config op s r ∧ helixStep config op s r t

def settles : Event HelixOp HelixResp → Bool
  | ⟨.call _ _, .ok ()⟩ => true
  | ⟨.markFailed _ _, _⟩ => true
  | _ => false

/-- An upsert of a version that was applied before does not stop between
enqueueing it and the end of its projection. -/
def Settled (operation : Operation) (record : Dict) (s : HelixStore)
    (trace : Trace) : Prop :=
  (∃ event ∈ s.outbox, event.eventId = projectionEventId config operation record ∧
      event.waits = false) →
    trace = [] ∨ ∃ step ∈ trace, settles step = true

section

variable {key : Operation × String} {events before after : List OutboxEvent}
variable {event : OutboxEvent} {eventId : String} {change : OutboxEvent → OutboxEvent}

theorem waitingIn_append (key : Operation × String) (events others : List OutboxEvent) :
    waitingIn key (events ++ others) = waitingIn key events ++ waitingIn key others := by
  rw [waitingIn, List.filter_append, List.map_append]
  rfl

theorem waitingIn_cons (key : Operation × String) (event : OutboxEvent)
    (events : List OutboxEvent) :
    waitingIn key (event :: events) = waitingIn key [event] ++ waitingIn key events :=
  waitingIn_append key [event] events

theorem waitingIn_singleton_of_waits (h : event.waits = true) :
    waitingIn key [event] =
      if recordKey event.operation event.record = key then [(event.eventId, event.record)]
      else [] := by
  by_cases hkey : recordKey event.operation event.record = key <;> simp [waitingIn, h, hkey]

theorem waitingIn_singleton_of_applied (h : event.waits = false) : waitingIn key [event] = [] := by
  simp [waitingIn, h]

theorem waitingIn_singleton_of_ne (h : recordKey event.operation event.record ≠ key) :
    waitingIn key [event] = [] := by
  simp [waitingIn, h]

theorem updateFirst_append (hbefore : eventId ∉ before.map OutboxEvent.eventId)
    (hevent : event.eventId = eventId) :
    updateFirst eventId change (before ++ event :: after) =
      before ++ change event :: after := by
  induction before with
  | nil => simp [updateFirst, hevent]
  | cons first rest ih =>
    rw [List.map_cons, List.mem_cons, not_or] at hbefore
    have hne : first.eventId ≠ eventId := fun heq => hbefore.1 heq.symm
    rw [List.cons_append, updateFirst, if_neg hne, ih hbefore.2, List.cons_append]

theorem exists_place (hnodup : (events.map OutboxEvent.eventId).Nodup) (hmem : event ∈ events) :
    ∃ before after, events = before ++ event :: after ∧
      event.eventId ∉ before.map OutboxEvent.eventId ∧
      event.eventId ∉ after.map OutboxEvent.eventId := by
  obtain ⟨before, after, rfl⟩ := List.append_of_mem hmem
  rw [List.map_append, List.map_cons] at hnodup
  have hparts := List.nodup_append.mp hnodup
  refine ⟨before, after, rfl, fun hin => ?_, (List.nodup_cons.mp hparts.2.1).1⟩
  exact hparts.2.2 _ hin _ List.mem_cons_self rfl

theorem place_unique {before' after' : List OutboxEvent}
    (hnodup : (events.map OutboxEvent.eventId).Nodup) (hplace : events = before ++ event :: after)
    (hplace' : events = before' ++ event :: after') : before = before' ∧ after = after' := by
  have hnodup' : events.Nodup := List.Nodup.of_map _ hnodup
  have hsplit := hplace.symm.trans hplace'
  rw [hplace] at hnodup'
  have hparts := List.nodup_append.mp hnodup'
  have hbefore : event ∉ before := fun hin => hparts.2.2 _ hin _ List.mem_cons_self rfl
  have hafter : event ∉ after := (List.nodup_cons.mp hparts.2.1).1
  obtain ⟨hleft, -, hright⟩ := (List.append_cons_inj_of_notMem hbefore hafter).mp hsplit
  exact ⟨hleft, hright⟩

end

structure Listed (s : HelixStore) : Prop where
  nodup : (s.outbox.map OutboxEvent.eventId).Nodup
  ids : ∀ event ∈ s.outbox, event.eventId = projectionEventId config event.operation event.record

/-- What waits for a successful call is pending, and every record shows its
newest version. -/
structure Inv (past : Trace) (s : HelixStore) : Prop
    extends Listed config s where
  kept : ∀ eventId, awaits config past eventId = true →
    ∃ event ∈ s.outbox, event.eventId = eventId ∧ event.waits = true
  shows : ∀ key record, newest past key = some record → Shows s key record

/-- After a record was enqueued: all is well with the other events and records,
and the event of the record has its place. -/
structure Enqueued (past : Trace) (s : HelixStore)
    (operation : Operation) (record : Dict) : Prop extends Listed config s where
  kept : ∀ eventId, eventId ≠ projectionEventId config operation record →
    awaits config past eventId = true →
    ∃ event ∈ s.outbox, event.eventId = eventId ∧ event.waits = true
  shows : ∀ key other, key ≠ recordKey operation record → newest past key = some other →
    Shows s key other
  own : newest past (recordKey operation record) = some record
  place : ∃ before event after, s.outbox = before ++ event :: after ∧
    event.eventId = projectionEventId config operation record ∧
    recordKey event.operation event.record = recordKey operation record ∧
    SameVersion event.record record ∧ waitingIn (recordKey operation record) after = []

section

variable {config : HelixConfig} {past : Trace} {s t : HelixStore}
variable {operation : Operation} {record : Dict}

theorem awaits_concat (config : HelixConfig) (past : Trace) (step : Event HelixOp HelixResp)
    (eventId : String) :
    awaits config (past ++ [step]) eventId =
      awaitsAfter config eventId (awaits config past eventId) step := by
  rw [awaits, List.foldl_append]
  rfl

theorem newest_concat (past : Trace) (step : Event HelixOp HelixResp)
    (key : Operation × String) :
    newest (past ++ [step]) key = newestAfter key (newest past key) step := by
  rw [newest, List.foldl_append]
  rfl

theorem Enqueued.inv (h : Enqueued config past s operation record)
    (hwaits : ∃ event ∈ s.outbox,
      event.eventId = projectionEventId config operation record ∧ event.waits = true) :
    Inv config past s := by
  obtain ⟨before, event, after, hplace, hid, hkey, hversion, hafter⟩ := h.place
  obtain ⟨other, hother, hotherId, hwait⟩ := hwaits
  have hsame : other = event :=
    List.inj_on_of_nodup_map h.nodup hother (by simp [hplace]) (hotherId.trans hid.symm)
  subst hsame
  refine { h.toListed with kept := fun eventId hawaits => ?_, shows := fun key newer hnewer => ?_ }
  · by_cases heq : eventId = projectionEventId config operation record
    · exact ⟨other, hother, hid.trans heq.symm, hwait⟩
    · exact h.kept eventId heq hawaits
  · by_cases heq : key = recordKey operation record
    · subst heq
      obtain rfl := Option.some.inj (h.own.symm.trans hnewer)
      rw [Shows, hplace, waitingIn_append, waitingIn_cons, hafter, List.append_nil,
        waitingIn_singleton_of_waits hwait, if_pos hkey, List.getLast?_concat]
      exact hversion
    · exact h.shows key newer heq hnewer

structure Changes (change : OutboxEvent → OutboxEvent) (s t : HelixStore) (event : OutboxEvent) :
    Prop where
  eventId : (change event).eventId = event.eventId
  operation : (change event).operation = event.operation
  record : (change event).record = event.record
  outbox : t.outbox = updateFirst event.eventId change s.outbox
  projection : t.projection = s.projection

variable {event : OutboxEvent} {change : OutboxEvent → OutboxEvent}

theorem Listed.changes (h : Listed config s) (hmem : event ∈ s.outbox)
    (hchange : Changes change s t event) :
    Listed config t ∧ ∃ before after, s.outbox = before ++ event :: after ∧
      t.outbox = before ++ change event :: after := by
  obtain ⟨before, after, hplace, hbefore, -⟩ := exists_place h.nodup hmem
  have hresult : t.outbox = before ++ change event :: after := by
    rw [hchange.outbox, hplace, updateFirst_append hbefore rfl]
  refine ⟨⟨?_, fun other hother => ?_⟩, before, after, hplace, hresult⟩
  · have hnodup := h.nodup
    rw [hplace] at hnodup
    rw [hresult]
    simpa [hchange.eventId] using hnodup
  · rw [hresult] at hother
    rcases List.mem_append.mp hother with hother | hother
    · exact h.ids other (by simp [hplace, hother])
    rcases List.mem_cons.mp hother with rfl | hother
    · rw [hchange.eventId, hchange.operation, hchange.record]
      exact h.ids event hmem
    · exact h.ids other (by simp [hplace, hother])

variable {before after : List OutboxEvent} {step : Event HelixOp HelixResp}

theorem Changes.mem_of_ne {other : OutboxEvent} (hplace : s.outbox = before ++ event :: after)
    (hresult : t.outbox = before ++ change event :: after) (hother : other ∈ s.outbox)
    (hne : other ≠ event) : other ∈ t.outbox := by
  rw [hplace] at hother
  rw [hresult]
  rcases List.mem_append.mp hother with hother | hother
  · exact List.mem_append_left _ hother
  · exact List.mem_append_right _
      (List.mem_cons_of_mem _ ((List.mem_cons.mp hother).resolve_left hne))

theorem Changes.shows_of_ne (hchange : Changes change s t event)
    (hplace : s.outbox = before ++ event :: after)
    (hresult : t.outbox = before ++ change event :: after) {key : Operation × String}
    (hkey : recordKey event.operation event.record ≠ key) {newer : Dict} :
    Shows t key newer ↔ Shows s key newer := by
  have hsame : waitingIn key t.outbox = waitingIn key s.outbox := by
    have hnew : recordKey (change event).operation (change event).record ≠ key := by
      rwa [hchange.operation, hchange.record]
    rw [hresult, hplace, waitingIn_append, waitingIn_append, waitingIn_cons,
      waitingIn_cons key event, waitingIn_singleton_of_ne hkey, waitingIn_singleton_of_ne hnew]
  rw [Shows, Shows, hsame, hchange.projection]

theorem Inv.stillWaits (h : Inv config past s) (hmem : event ∈ s.outbox)
    (hchange : Changes change s t event) (hwaits : event.waits = true)
    (hstill : (change event).waits = true) : Inv config past t := by
  obtain ⟨hlisted, before, after, hplace, hresult⟩ := h.toListed.changes hmem hchange
  refine { hlisted with kept := fun eventId hawaits => ?_, shows := fun key newer hnewer => ?_ }
  · obtain ⟨other, hother, hid, hwait⟩ := h.kept eventId hawaits
    by_cases heq : other = event
    · subst heq
      exact ⟨change other, by simp [hresult], hchange.eventId.trans hid, hstill⟩
    · exact ⟨other, Changes.mem_of_ne hplace hresult hother heq, hid, hwait⟩
  · have hsame : waitingIn key t.outbox = waitingIn key s.outbox := by
      rw [hresult, hplace, waitingIn_append, waitingIn_append, waitingIn_cons,
        waitingIn_cons key event, waitingIn_singleton_of_waits hwaits,
        waitingIn_singleton_of_waits hstill, hchange.eventId, hchange.operation, hchange.record]
    rw [Shows, hsame, hchange.projection]
    exact h.shows key newer hnewer

theorem Enqueued.nowWaits (h : Enqueued config past s operation record) (hmem : event ∈ s.outbox)
    (hid : event.eventId = projectionEventId config operation record)
    (hchange : Changes change s t event) (hstill : (change event).waits = true) :
    Inv config past t := by
  obtain ⟨hlisted, before, after, hplace, hresult⟩ := h.toListed.changes hmem hchange
  obtain ⟨before', event', after', hplace', hid', hkey, hversion, hafter⟩ := h.place
  have hsame : event' = event :=
    List.inj_on_of_nodup_map h.nodup (by simp [hplace']) hmem (hid'.trans hid.symm)
  subst hsame
  have hmem' : change event' ∈ t.outbox := by simp [hresult]
  suffices hqueued : Enqueued config past t operation record from
    hqueued.inv ⟨change event', hmem', hchange.eventId.trans hid, hstill⟩
  refine { hlisted with kept := ?_, shows := ?_, own := h.own, place := ?_ }
  · intro eventId hne hawaits
    obtain ⟨other, hother, hotherId, hwait⟩ := h.kept eventId hne hawaits
    have hother' : other ≠ event' := fun heq => hne (hotherId.symm.trans (heq ▸ hid))
    exact ⟨other, Changes.mem_of_ne hplace hresult hother hother', hotherId, hwait⟩
  · intro key newer hne hnewer
    exact (hchange.shows_of_ne hplace hresult (fun heq => hne (heq.symm.trans hkey))).mpr
      (h.shows key newer hne hnewer)
  · -- the changed event stands where the event stood
    obtain ⟨rfl, rfl⟩ := place_unique h.nodup hplace hplace'
    exact ⟨before, change event', after, hresult, hchange.eventId.trans hid,
      by rw [hchange.operation, hchange.record, hkey], by rwa [hchange.record], hafter⟩

theorem SameVersion.trans {a b c : Dict} (h : SameVersion a b) (h' : SameVersion b c) :
    SameVersion a c := Eq.trans h h'

/-- **A record is enqueued.**  It is the newest version from then on; its event
waits, unless it was listed as applied. -/
theorem Inv.enqueued (h : Inv config past s) (horderly : OrderlyEnqueue config s operation record)
    {now eventId : String} (henqueue : s.enqueue config operation record now = (eventId, t)) :
    eventId = projectionEventId config operation record ∧
      Enqueued config (past ++ [⟨.enqueue operation record, eventId⟩]) t operation record ∧
      ((∃ event ∈ t.outbox, event.eventId = eventId ∧ event.waits = true) ∨
        ∃ event ∈ s.outbox, event.eventId = eventId ∧ event.waits = false) := by
  set id := projectionEventId config operation record with hid
  have hown : newest (past ++ [⟨.enqueue operation record, eventId⟩])
      (recordKey operation record) = some record := by
    rw [newest_concat]
    exact if_pos rfl
  have hkept : ∀ other, other ≠ id →
      awaits config (past ++ [⟨.enqueue operation record, eventId⟩]) other = true →
      ∃ event ∈ s.outbox, event.eventId = other ∧ event.waits = true := by
    intro other hne hawaits
    rw [awaits_concat] at hawaits
    have hbeq : (projectionEventId config operation record == other) = false :=
      beq_false_of_ne fun heq => hne heq.symm
    simp only [awaitsAfter, hbeq, Bool.or_false] at hawaits
    exact h.kept other hawaits
  have hshows : ∀ key newer, key ≠ recordKey operation record →
      newest (past ++ [⟨.enqueue operation record, eventId⟩]) key = some newer →
      Shows s key newer := by
    intro key newer hne hnewer
    rw [newest_concat] at hnewer
    simp only [newestAfter, if_neg (Ne.symm hne)] at hnewer
    exact h.shows key newer hnewer
  unfold HelixStore.enqueue at henqueue
  dsimp only at henqueue
  have hbuilt : (buildEvent config operation record now).eventId = id := rfl
  rw [hbuilt] at henqueue
  split at henqueue
  · next hany =>
    obtain ⟨rfl, rfl⟩ := Prod.mk.inj henqueue
    obtain ⟨event, hmem, hlisted⟩ := List.any_eq_true.mp hany
    have heventId : event.eventId = id := of_decide_eq_true hlisted
    obtain ⟨before, after, hplace, hbefore, hafterIds⟩ := exists_place h.nodup hmem
    obtain ⟨hkey, hversion, hafter⟩ := horderly before event after hplace heventId
    rw [heventId] at hbefore hafterIds
    set renewed : OutboxEvent := if event.status ≠ .applied then
      { event with
        operation := operation, record := record, status := .pending, updatedAt := now }
      else event with hrenewed
    have hnewId : renewed.eventId = id := by
      rw [hrenewed]
      split <;> exact heventId
    have hnewKey : recordKey renewed.operation renewed.record = recordKey operation record := by
      rw [hrenewed]
      split
      · rfl
      · exact hkey
    have hnewVersion : SameVersion renewed.record record := by
      rw [hrenewed]
      split
      · rfl
      · exact hversion
    have hnewIdOf : renewed.eventId =
        projectionEventId config renewed.operation renewed.record := by
      rw [hrenewed]
      split
      · exact heventId
      · exact h.ids event hmem
    refine ⟨rfl, ⟨⟨?_, ?_⟩, ?_, ?_, hown, ?_⟩, ?_⟩
    all_goals simp only [hplace, updateFirst_append hbefore heventId]
    · have hnodup := h.nodup
      rw [hplace] at hnodup
      change ((before ++ renewed :: after).map OutboxEvent.eventId).Nodup
      simpa [hnewId, heventId] using hnodup
    · intro other hother
      change other ∈ before ++ renewed :: after at hother
      rcases List.mem_append.mp hother with hother | hother
      · exact h.ids other (by simp [hplace, hother])
      rcases List.mem_cons.mp hother with rfl | hother
      · exact hnewIdOf
      · exact h.ids other (by simp [hplace, hother])
    · intro other hne hawaits
      obtain ⟨waiting, hwaiting, hwaitingId, hwait⟩ := hkept other hne hawaits
      refine ⟨waiting, ?_, hwaitingId, hwait⟩
      have hnot : waiting ≠ event := fun heq => hne (hwaitingId.symm.trans (heq ▸ heventId))
      rw [hplace] at hwaiting
      rcases List.mem_append.mp hwaiting with hwaiting | hwaiting
      · exact List.mem_append_left _ hwaiting
      · exact List.mem_append_right _
          (List.mem_cons_of_mem _ ((List.mem_cons.mp hwaiting).resolve_left hnot))
    · intro key newer hne hnewer
      have hold := hshows key newer hne hnewer
      have hthen : recordKey event.operation event.record ≠ key :=
        fun heq => hne (heq.symm.trans hkey)
      have hnow : recordKey renewed.operation renewed.record ≠ key :=
        fun heq => hne (heq.symm.trans hnewKey)
      have hsame : waitingIn key (before ++ renewed :: after) = waitingIn key s.outbox := by
        rw [hplace, waitingIn_append, waitingIn_append, waitingIn_cons,
          waitingIn_cons key event, waitingIn_singleton_of_ne hthen,
          waitingIn_singleton_of_ne hnow]
      rw [Shows, ← hsame] at hold
      exact hold
    · exact ⟨before, renewed, after, rfl, hnewId, hnewKey, hnewVersion, hafter⟩
    · by_cases happlied : event.status = .applied
      · exact .inr ⟨event, by simp, heventId, by simp [OutboxEvent.waits, happlied]⟩
      · refine .inl ⟨renewed, ?_, hnewId, ?_⟩
        · exact List.mem_append_right _ List.mem_cons_self
        · rw [hrenewed, if_pos happlied]
          rfl
  · next hnone =>
    obtain ⟨rfl, rfl⟩ := Prod.mk.inj henqueue
    have hfresh : ∀ event ∈ s.outbox, event.eventId ≠ id := by
      intro event hevent heq
      exact hnone (List.any_eq_true.mpr ⟨event, hevent, decide_eq_true heq⟩)
    refine ⟨rfl, ⟨⟨?_, ?_⟩, ?_, ?_, hown, ?_⟩, ?_⟩
    · have hid' : id ∉ s.outbox.map OutboxEvent.eventId := by
        intro hin
        obtain ⟨event, hevent, heq⟩ := List.mem_map.mp hin
        exact hfresh event hevent heq
      rw [List.map_append, List.map_singleton, hbuilt]
      exact List.nodup_append.mpr ⟨h.nodup, List.nodup_singleton _, fun a ha b hb heq =>
        hid' (by rw [← List.mem_singleton.mp hb, ← heq]; exact ha)⟩
    · intro event hevent
      rcases List.mem_append.mp hevent with hevent | hevent
      · exact h.ids event hevent
      · rw [List.mem_singleton.mp hevent]
        rfl
    · intro other hne hawaits
      obtain ⟨event, hevent, hrest⟩ := hkept other hne hawaits
      exact ⟨event, List.mem_append_left _ hevent, hrest⟩
    · intro key newer hne hnewer
      have hold := hshows key newer hne hnewer
      have hnew : recordKey (buildEvent config operation record now).operation
          (buildEvent config operation record now).record ≠ key := fun heq => hne heq.symm
      have hsame : waitingIn key (s.outbox ++ [buildEvent config operation record now]) =
          waitingIn key s.outbox := by
        rw [waitingIn_append, waitingIn_singleton_of_ne hnew, List.append_nil]
      rw [Shows, ← hsame] at hold
      exact hold
    · exact ⟨s.outbox, _, [], rfl, rfl, rfl, rfl, rfl⟩
    · exact .inl ⟨_, List.mem_append_right _ (List.mem_singleton_self _), rfl, rfl⟩

/-- **An event is marked as applied**: no call is awaited, and it is shown unless one waits. -/
theorem Inv.applied (h : Inv config past s) (hmem : event ∈ s.outbox)
    (hchange : Changes change s t event) (hdone : (change event).waits = false)
    (hcalled : awaits config past event.eventId = false)
    (hlast : ((∀ other ∈ waitingIn (recordKey event.operation event.record) s.outbox,
        other.1 = event.eventId) ∧
        ∃ held, s.projection (recordKey event.operation event.record) = some held ∧
          SameVersion held event.record) ∨
      ∀ last, (waitingIn (recordKey event.operation event.record) s.outbox).getLast? = some last →
        last.1 ≠ event.eventId) : Inv config past t := by
  obtain ⟨hlisted, before, after, hplace, hresult⟩ := h.toListed.changes hmem hchange
  refine { hlisted with kept := fun eventId hawaits => ?_, shows := fun key newer hnewer => ?_ }
  · obtain ⟨other, hother, hid, hwait⟩ := h.kept eventId hawaits
    have hne : other ≠ event := by
      rintro rfl
      rw [hid, hawaits] at hcalled
      cases hcalled
    exact ⟨other, Changes.mem_of_ne hplace hresult hother hne, hid, hwait⟩
  · by_cases hkey : recordKey event.operation event.record = key
    · subst hkey
      have hold := h.shows _ newer hnewer
      set left := waitingIn (recordKey event.operation event.record) before with hleft
      set right := waitingIn (recordKey event.operation event.record) after with hright
      have hnow : waitingIn (recordKey event.operation event.record) t.outbox = left ++ right := by
        rw [hresult, waitingIn_append, waitingIn_cons, waitingIn_singleton_of_applied hdone,
          List.nil_append]
      cases hwait : event.waits with
      | false =>
        have hthen : waitingIn (recordKey event.operation event.record) s.outbox =
            left ++ right := by
          rw [hplace, waitingIn_append, waitingIn_cons, waitingIn_singleton_of_applied hwait,
            List.nil_append]
        rw [Shows, hnow, ← hthen, hchange.projection]
        exact hold
      | true =>
        have hthen : waitingIn (recordKey event.operation event.record) s.outbox =
            left ++ (event.eventId, event.record) :: right := by
          rw [hplace, waitingIn_append, waitingIn_cons, waitingIn_singleton_of_waits hwait,
            if_pos rfl]
          rfl
        rw [hthen] at hlast
        rw [Shows, hthen] at hold
        rw [Shows, hnow, hchange.projection]
        rcases List.eq_nil_or_concat' right with hnil | ⟨earlier, last, hconcat⟩
        · -- the event was the last that waited, hence the only one
          rw [hnil, List.getLast?_concat] at hold
          rw [hnil] at hlast
          obtain ⟨honly, held, hheld, hversion⟩ := hlast.resolve_right fun hne =>
            hne _ List.getLast?_concat rfl
          have hempty : left = [] := by
            refine List.eq_nil_iff_forall_not_mem.mpr fun pair hpair => ?_
            have hid := honly pair (List.mem_append_left _ hpair)
            obtain ⟨other, hother, rfl⟩ := List.mem_map.mp hpair
            have hnodup := h.nodup
            rw [hplace, List.map_append, List.map_cons] at hnodup
            exact (List.nodup_append.mp hnodup).2.2 _
              (List.mem_map_of_mem (List.mem_filter.mp hother).1) _ List.mem_cons_self hid
          rw [hempty, hnil]
          exact ⟨held, hheld, hversion.trans hold⟩
        · rw [hconcat, ← List.append_assoc, List.getLast?_concat]
          rw [hconcat, ← List.cons_append, ← List.append_assoc, List.getLast?_concat] at hold
          exact hold
    · exact (hchange.shows_of_ne hplace hresult hkey).mpr (h.shows key newer hnewer)

theorem mem_waitingIn (hmem : event ∈ s.outbox) (hwaits : event.waits = true) :
    (event.eventId, event.record) ∈
      waitingIn (recordKey event.operation event.record) s.outbox := by
  refine List.mem_map.mpr ⟨event, List.mem_filter.mpr ⟨hmem, ?_⟩, rfl⟩
  simp [hwaits]

/-- **A version is projected.**  Where it waits, or was just enqueued with no
other version waiting, all records still show their newest version. -/
theorem Enqueued.projected (h : Enqueued config past s operation record)
    (horderly : OrderlySuccess config s operation record) :
    Inv config (past ++ [⟨.call operation record, .ok ()⟩]) (s.project operation record) ∧
      (∀ other ∈ waitingIn (recordKey operation record) s.outbox,
        other.1 = projectionEventId config operation record) := by
  obtain ⟨before, event, after, hplace, hid, hkey, hversion, hafter⟩ := h.place
  -- the event is the last version that waits, if it waits
  have honly : ∀ other ∈ waitingIn (recordKey operation record) s.outbox,
      other.1 = projectionEventId config operation record := by
    rcases horderly with honly | ⟨hin, hlast⟩
    · exact honly
    · exfalso
      cases hwait : event.waits with
      | true =>
        refine hlast (event.eventId, event.record) ?_ hid
        rw [hplace, waitingIn_append, waitingIn_cons, hafter, List.append_nil,
          waitingIn_singleton_of_waits hwait, if_pos hkey, List.getLast?_concat]
      | false =>
        obtain ⟨pair, hpair, hpairId⟩ := List.mem_map.mp hin
        obtain ⟨other, hother, rfl⟩ := List.mem_map.mp hpair
        obtain ⟨hother, hcond⟩ := List.mem_filter.mp hother
        have hsame : other = event :=
          List.inj_on_of_nodup_map h.nodup hother (by simp [hplace]) (hpairId.trans hid.symm)
        rw [hsame, hwait] at hcond
        simp at hcond
  refine ⟨{ h.toListed with kept := fun eventId hawaits => ?_, shows := ?_ }, honly⟩
  · rw [awaits_concat] at hawaits
    simp only [awaitsAfter, Bool.and_eq_true, bne_iff_ne, ne_eq] at hawaits
    exact h.kept eventId (fun heq => hawaits.2 heq.symm) hawaits.1
  · intro key newer hnewer
    rw [newest_concat] at hnewer
    change newest past key = some newer at hnewer
    by_cases heq : key = recordKey operation record
    · subst heq
      obtain rfl := Option.some.inj (h.own.symm.trans hnewer)
      show match (waitingIn (recordKey operation record) s.outbox).getLast? with
        | some last => SameVersion last.2 record
        | none => _
      split
      · next last hlast =>
        obtain ⟨other, hother, rfl⟩ := List.mem_map.mp (List.mem_of_getLast? hlast)
        obtain ⟨hother', -⟩ := List.mem_filter.mp hother
        have hsame : other = event := by
          refine List.inj_on_of_nodup_map h.nodup hother' (by simp [hplace]) ?_
          exact (honly _ (List.mem_map.mpr ⟨other, hother, rfl⟩)).trans hid.symm
        rw [hsame]
        exact hversion
      · exact ⟨record, by simp [HelixStore.project], rfl⟩
    · have hshows := h.shows key newer heq hnewer
      have hprojection : (s.project operation record).projection key = s.projection key := by
        simp [HelixStore.project, heq]
      rw [Shows, hprojection]
      exact hshows

theorem Inv.projected (h : Inv config past s) (hmem : event ∈ s.outbox)
    (hwaits : event.waits = true) :
    Inv config (past ++ [⟨.call event.operation event.record, .ok ()⟩])
      (s.project event.operation event.record) := by
  refine { h.toListed with kept := fun eventId hawaits => ?_, shows := ?_ }
  · rw [awaits_concat] at hawaits
    simp only [awaitsAfter, Bool.and_eq_true] at hawaits
    exact h.kept eventId hawaits.1
  · intro key newer hnewer
    rw [newest_concat] at hnewer
    have hshows := h.shows key newer hnewer
    by_cases heq : key = recordKey event.operation event.record
    · -- the event waits, so the projection does not matter yet
      have hne := List.ne_nil_of_mem (mem_waitingIn hmem hwaits)
      rw [← heq] at hne
      have hlast := List.getLast?_eq_some_getLast hne
      rw [Shows, hlast] at hshows
      show match (waitingIn key s.outbox).getLast? with
        | some last => SameVersion last.2 newer
        | none => _
      rw [hlast]
      exact hshows
    · have hprojection : (s.project event.operation event.record).projection key =
          s.projection key := by
        simp [HelixStore.project, heq]
      rw [Shows, hprojection]
      exact hshows

def Neutral (step : Event HelixOp HelixResp) : Prop :=
  (∀ config eventId before, awaitsAfter config eventId before step = before) ∧
    ∀ key before, newestAfter key before step = before

theorem Inv.neutral (h : Inv config past s) (hstep : Neutral step) :
    Inv config (past ++ [step]) s := by
  refine { h.toListed with kept := fun eventId hawaits => ?_, shows := fun key newer hnewer => ?_ }
  · rw [awaits_concat, hstep.1] at hawaits
    exact h.kept eventId hawaits
  · rw [newest_concat, hstep.2] at hnewer
    exact h.shows key newer hnewer

theorem Enqueued.neutral (h : Enqueued config past s operation record) (hstep : Neutral step) :
    Enqueued config (past ++ [step]) s operation record := by
  refine { h.toListed with kept := ?_, shows := ?_, own := ?_, place := h.place }
  · intro eventId hne hawaits
    rw [awaits_concat, hstep.1] at hawaits
    exact h.kept eventId hne hawaits
  · intro key other hne hnewer
    rw [newest_concat, hstep.2] at hnewer
    exact h.shows key other hne hnewer
  · rw [newest_concat, hstep.2]
    exact h.own

theorem neutral_error (operation : Operation) (record : Dict) (failure : Failure) :
    Neutral ⟨.call operation record, .error failure⟩ := ⟨fun _ _ _ => rfl, fun _ _ => rfl⟩

theorem neutral_markApplied (eventId : String) (answer : HelixResp (.markApplied eventId)) :
    Neutral ⟨.markApplied eventId, answer⟩ := ⟨fun _ _ _ => rfl, fun _ _ => rfl⟩

theorem neutral_markFailed (eventId text : String)
    (answer : HelixResp (.markFailed eventId text)) :
    Neutral ⟨.markFailed eventId text, answer⟩ := ⟨fun _ _ _ => rfl, fun _ _ => rfl⟩

theorem changes_markApplied (s : HelixStore) (event : OutboxEvent) (now : String) :
    ∃ change, Changes change s (s.markApplied event.eventId now) event ∧
      (change event).waits = false :=
  ⟨_, ⟨rfl, rfl, rfl, rfl, rfl⟩, rfl⟩

theorem changes_markFailed (s : HelixStore) (event : OutboxEvent) (text now : String) :
    ∃ change, Changes change s (s.markFailed event.eventId text now) event ∧
      (change event).waits = true :=
  ⟨_, ⟨rfl, rfl, rfl, rfl, rfl⟩, rfl⟩

section

variable {trace : Trace} {p : HelixProg (Except Failure Unit)}

theorem Enqueued.failing (h : Enqueued config past s operation record) {eventId text : String}
    (hid : eventId = projectionEventId config operation record) {outcome : Except Failure Unit}
    (run : Runs (orderlyStep config)
      (Prog.call (.markFailed eventId text) fun _ => .ret outcome) s trace p t)
    (hcover : (∃ event ∈ s.outbox, event.eventId = eventId ∧ event.waits = true) ∨
      ∃ step ∈ trace, settles step = true) : Inv config (past ++ trace) t := by
  obtain ⟨before, event, after, hplace, heventId, -⟩ := h.place
  have hmem : event ∈ s.outbox := by simp [hplace]
  cases run with
  | refl =>
    rw [List.append_nil]
    exact h.inv (hid ▸ hcover.resolve_right (by simp))
  | cons head tail =>
    cases tail
    obtain ⟨-, now, rfl⟩ := head
    rw [hid, ← heventId]
    obtain ⟨change, hchange, hwaits⟩ := changes_markFailed s event text now
    exact (h.nowWaits hmem heventId hchange hwaits).neutral (neutral_markFailed _ _ _)

/-- **An upsert keeps the invariant**, wherever it stops. -/
theorem Inv.upsert (h : Inv config past s)
    (run : Runs (orderlyStep config) (project config operation record) s trace p t)
    (hsettled : Settled config operation record s trace) : Inv config (past ++ trace) t := by
  change Runs _ (Prog.call (.enqueue operation record) _) s trace p t at run
  cases run with
  | refl => rwa [List.append_nil]
  | @cons _ _ eventId _ u _ trace _ head tail =>
    obtain ⟨horderly, now, henqueue⟩ := head
    obtain ⟨hid, henqueued, hwaits⟩ := h.enqueued horderly henqueue
    have hcover : (∃ event ∈ u.outbox, event.eventId = eventId ∧ event.waits = true) ∨
        ∃ step ∈ trace, settles step = true := by
      refine hwaits.imp_right fun ⟨event, hmem, heventId, happlied⟩ => ?_
      have hstep := (hsettled ⟨event, hmem, heventId.trans hid, happlied⟩).resolve_left (by simp)
      simpa [settles] using hstep
    rw [List.append_cons]
    change Runs _ (Prog.call (.call operation record) _) u trace p t at tail
    cases tail with
    | refl =>
      rw [List.append_nil]
      exact henqueued.inv (hid ▸ hcover.resolve_right (by simp))
    | @cons _ _ answer _ v _ trace _ head tail =>
      cases answer with
      | ok answer =>
        cases answer
        obtain ⟨horderly, rfl⟩ := head
        obtain ⟨hinv, honly⟩ := henqueued.projected horderly
        rw [List.append_cons]
        change Runs _ (Prog.call (.markApplied eventId) _) _ trace p t at tail
        cases tail with
        | refl => rwa [List.append_nil]
        | cons head tail =>
          cases tail
          obtain ⟨-, now, rfl⟩ := head
          obtain ⟨before, event, after, hplace, heventId, hkey, hversion, -⟩ :=
            henqueued.place
          have hmem : event ∈ (u.project operation record).outbox := by
            show event ∈ u.outbox
            simp [hplace]
          obtain ⟨change, hchange, hdone⟩ :=
            changes_markApplied (u.project operation record) event now
          obtain rfl : eventId = event.eventId := hid.trans heventId.symm
          refine Inv.neutral (hinv.applied hmem hchange hdone ?_ (.inl ⟨?_, ?_⟩))
            (neutral_markApplied _ _)
          · rw [awaits_concat]
            simp [awaitsAfter, heventId]
          · rw [hkey, heventId]
            exact honly
          · rw [hkey]
            exact ⟨record, by simp [HelixStore.project], hversion.symm⟩
      | error failure =>
        obtain ⟨-, rfl⟩ := head
        have hfailed := henqueued.neutral (neutral_error operation record failure)
        have hcover' : (∃ event ∈ v.outbox, event.eventId = eventId ∧
            event.waits = true) ∨ ∃ step ∈ trace, settles step = true :=
          hcover.imp_right fun hstep => by simpa [settles] using hstep
        rw [List.append_cons]
        obtain ⟨cls, text⟩ := failure
        cases cls with
        | recordError | projectionError | exception => exact hfailed.failing hid tail hcover'
        | interrupt =>
          cases tail
          rw [List.append_nil]
          exact hfailed.inv (hid ▸ hcover'.resolve_right (by simp))

end

section

variable {trace : Trace} {events : List OutboxEvent}

def Waiting (events : List OutboxEvent) (s : HelixStore) : Prop :=
  ∀ event ∈ events, ∃ listed ∈ s.outbox, listed.eventId = event.eventId ∧
    listed.operation = event.operation ∧ listed.record = event.record ∧ listed.waits = true

theorem Waiting.of_changes (h : Waiting events s) (hlisted : Listed config s)
    {event : OutboxEvent} {change : OutboxEvent → OutboxEvent} (hmem : event ∈ s.outbox)
    (hchange : Changes change s t event) (hid : event.eventId ∉ events.map OutboxEvent.eventId) :
    Waiting events t := by
  obtain ⟨-, before, after, hplace, hresult⟩ := hlisted.changes hmem hchange
  intro other hother
  obtain ⟨listed, hlistedMem, heq, hrest⟩ := h other hother
  refine ⟨listed, Changes.mem_of_ne hplace hresult hlistedMem ?_, heq, hrest⟩
  rintro rfl
  exact hid (heq ▸ List.mem_map_of_mem hother)

variable {result : ReplayResult} {limit : Option Int}
  {outcome : Except Failure (ReplayResult × OutboxStatus)}

/-- **A replay keeps the invariant**, wherever it stops. -/
theorem Inv.replayEvents (h : Inv config past s) (hwaiting : Waiting events s)
    (hnodup : (events.map OutboxEvent.eventId).Nodup) {p : HelixProg (Except Failure ReplayResult)}
    (run : Runs (orderlyStep config) (replayEvents events result) s trace p t) :
    Inv config (past ++ trace) t := by
  induction events generalizing past s trace result with
  | nil =>
    cases run
    rwa [List.append_nil]
  | cons event rest ih =>
    obtain ⟨hfresh, hnodup⟩ := List.nodup_cons.mp hnodup
    obtain ⟨listed, hmem, hid, hoperation, hrecord, hwaits⟩ :=
      hwaiting event List.mem_cons_self
    have hrest : Waiting rest s := fun other hother =>
      hwaiting other (List.mem_cons_of_mem _ hother)
    have hids : event.eventId = projectionEventId config event.operation event.record := by
      rw [← hid, ← hoperation, ← hrecord]
      exact h.ids listed hmem
    have hne : event.eventId ≠ "" := hids ▸ projectionEventId_ne_empty _ _ _
    rw [DurableHelixMemoryProjection.replayEvents, if_neg hne] at run
    change Runs _ (Prog.call (.call event.operation event.record) _) s trace p t at run
    cases run with
    | refl => rwa [List.append_nil]
    | @cons _ _ answer _ u _ trace _ head tail =>
      rw [List.append_cons]
      cases answer with
      | ok answer =>
        cases answer
        obtain ⟨horderly, rfl⟩ := head
        have hinv := h.projected hmem hwaits
        rw [hoperation, hrecord] at hinv
        change Runs _ (Prog.call (.markApplied event.eventId) _) _ trace p t at tail
        cases tail with
        | refl => rwa [List.append_nil]
        | cons head tail =>
          obtain ⟨-, now, rfl⟩ := head
          obtain ⟨change, hchange, hdone⟩ :=
            changes_markApplied (s.project event.operation event.record) listed now
          rw [List.append_cons]
          rw [hid] at hchange
          refine ih (Inv.neutral (hinv.applied hmem hchange hdone ?_ ?_)
            (neutral_markApplied _ _)) (hrest.of_changes (s := s.project _ _)
              hinv.toListed hmem hchange (hid ▸ hfresh)) hnodup tail
          · rw [awaits_concat, hid]
            simp [awaitsAfter, hids]
          · rw [hoperation, hrecord, hid]
            refine horderly.imp (fun honly => ⟨hids ▸ honly, ?_⟩)
              fun hlast => hids ▸ hlast.2
            exact ⟨event.record, by simp [HelixStore.project], rfl⟩
      | error failure =>
        obtain ⟨-, rfl⟩ := head
        have hinv := h.neutral (neutral_error event.operation event.record failure)
        by_cases hhandled : failure.isProjectionError = true
        · change
            Runs _ (if failure.isProjectionError = true then _ else _) u trace p t at tail
          rw [if_pos hhandled] at tail
          change Runs _ (Prog.call (.markFailed event.eventId failure.text) _) _ trace p t
            at tail
          cases tail with
          | refl => rwa [List.append_nil]
          | cons head tail =>
            obtain ⟨-, now, rfl⟩ := head
            obtain ⟨change, hchange, hstill⟩ :=
              changes_markFailed u listed failure.text now
            rw [List.append_cons]
            rw [hid] at hchange
            exact ih ((hinv.stillWaits hmem hchange hwaits hstill).neutral
              (neutral_markFailed _ _ _)) (hrest.of_changes hinv.toListed hmem hchange
                (hid ▸ hfresh)) hnodup tail
        · change
            Runs _ (if failure.isProjectionError = true then _ else _) u trace p t at tail
          rw [if_neg hhandled] at tail
          cases tail
          rwa [List.append_nil]

variable {step : (op : HelixOp) → HelixStore → HelixResp op → HelixStore → Prop}

theorem called_of_replayEvents
    (hids : ∀ event ∈ events, event.eventId ≠ "") {outcome : Except Failure ReplayResult}
    (run : Runs step (replayEvents events result) s trace (.ret outcome) t)
    (hhandled : ∀ failure ∈ raised trace, failure.isProjectionError = true) :
    (∃ final, outcome = .ok final) ∧
      called trace = events.map fun event => (event.operation, event.record) := by
  induction events generalizing s trace result with
  | nil =>
    obtain ⟨rfl, rfl, -⟩ := Runs.ret_inv run
    exact ⟨⟨result, rfl⟩, rfl⟩
  | cons event rest ih =>
    have hrest : ∀ other ∈ rest, other.eventId ≠ "" := fun other hother =>
      hids other (List.mem_cons_of_mem _ hother)
    rw [DurableHelixMemoryProjection.replayEvents, if_neg (hids event List.mem_cons_self)] at run
    obtain ⟨answer, u, trace, rfl, -, tail⟩ := Runs.call_inv
      (show Runs step (Prog.call (.call event.operation event.record) _) s trace _ t from run)
    cases answer with
    | ok answer =>
      obtain ⟨_, v, trace, rfl, -, tail⟩ := Runs.call_inv
        (show Runs step (Prog.call (.markApplied event.eventId) _) u trace _ t from tail)
      obtain ⟨hfinal, hcalled⟩ := ih hrest tail hhandled
      exact ⟨hfinal, congrArg (List.cons _) hcalled⟩
    | error failure =>
      have hthis : failure.isProjectionError = true := hhandled failure List.mem_cons_self
      change Runs _ (if failure.isProjectionError = true then _ else _) u trace _ t at tail
      rw [if_pos hthis] at tail
      obtain ⟨_, v, trace, rfl, -, tail⟩ := Runs.call_inv
        (show Runs step (Prog.call (.markFailed event.eventId failure.text) _) u trace _ t
          from tail)
      obtain ⟨hfinal, hcalled⟩ := ih hrest tail fun other hother =>
        hhandled other (List.mem_cons_of_mem _ hother)
      exact ⟨hfinal, congrArg (List.cons _) hcalled⟩

theorem waits_of_replayEvents (hlisted : Listed config s) (hwaiting : Waiting events s)
    (hnodup : (events.map OutboxEvent.eventId).Nodup) {outcome : Except Failure ReplayResult}
    (run : Runs (orderlyStep config) (replayEvents events result) s trace (.ret outcome) t)
    (hraised : raised trace = []) {event : OutboxEvent} (hmem : event ∈ t.outbox)
    (hwaits : event.waits = true) :
    event ∈ s.outbox ∧ event.eventId ∉ events.map OutboxEvent.eventId := by
  induction events generalizing s trace result with
  | nil =>
    obtain ⟨-, -, rfl⟩ := Runs.ret_inv run
    exact ⟨hmem, by simp⟩
  | cons first rest ih =>
    obtain ⟨hfresh, hnodup⟩ := List.nodup_cons.mp hnodup
    obtain ⟨listed, hfirst, hid, hoperation, hrecord, hfirstWaits⟩ :=
      hwaiting first List.mem_cons_self
    have hrest : Waiting rest s := fun other hother =>
      hwaiting other (List.mem_cons_of_mem _ hother)
    have hids : first.eventId = projectionEventId config first.operation first.record := by
      rw [← hid, ← hoperation, ← hrecord]
      exact hlisted.ids listed hfirst
    have hne : first.eventId ≠ "" := hids ▸ projectionEventId_ne_empty _ _ _
    rw [DurableHelixMemoryProjection.replayEvents, if_neg hne] at run
    obtain ⟨answer, u, trace, rfl, hcall, tail⟩ := Runs.call_inv
      (show Runs _ (Prog.call (.call first.operation first.record) _) s trace _ t from run)
    cases answer with
    | error failure => cases hraised
    | ok answer =>
      obtain ⟨_, v, trace, rfl, hmark, tail⟩ := Runs.call_inv
        (show Runs _ (Prog.call (.markApplied first.eventId) _) u trace _ t from tail)
      cases answer
      obtain ⟨-, rfl⟩ := hcall
      obtain ⟨-, now, rfl⟩ := hmark
      obtain ⟨change, hchange, hdone⟩ :=
        changes_markApplied (s.project first.operation first.record) listed now
      rw [hid] at hchange
      have hlisted' : Listed config (s.project first.operation first.record) :=
        ⟨hlisted.nodup, hlisted.ids⟩
      obtain ⟨hlisted'', before, after, hplace, hresult⟩ := hlisted'.changes hfirst hchange
      obtain ⟨hin, hnot⟩ := ih hlisted''
        (hrest.of_changes (s := s.project _ _) hlisted' hfirst hchange (hid ▸ hfresh))
        hnodup tail hraised
      -- the event that was marked does not wait any more
      have hother : event.eventId ≠ first.eventId := by
        intro heq
        have hmarked : change listed ∈
            (HelixStore.markApplied first.eventId now
              (s.project first.operation first.record)).outbox := by simp [hresult]
        have hsame := List.inj_on_of_nodup_map hlisted''.nodup hin hmarked
          (heq.trans (hid.symm.trans hchange.eventId.symm))
        rw [hsame, hdone] at hwaits
        cases hwaits
      refine ⟨?_, by simpa using ⟨hother, by simpa using hnot⟩⟩
      rw [hresult] at hin
      show event ∈ (s.project first.operation first.record).outbox
      rw [hplace]
      rcases List.mem_append.mp hin with hin | hin
      · exact List.mem_append_left _ hin
      rcases List.mem_cons.mp hin with rfl | hin
      · exact absurd (hchange.eventId.trans hid) hother
      · exact List.mem_append_right _ (List.mem_cons_of_mem _ hin)

theorem neutral_pendingEvents (limit : Option Int) (events : List OutboxEvent) :
    Neutral ⟨.pendingEvents limit, events⟩ := ⟨fun _ _ _ => rfl, fun _ _ => rfl⟩

theorem neutral_status (counts : OutboxStatus) : Neutral ⟨.status, counts⟩ :=
  ⟨fun _ _ _ => rfl, fun _ _ => rfl⟩

theorem pendingEvents_sublist (s : HelixStore) (limit : Option Int) :
    (s.pendingEvents limit).Sublist (s.outbox.filter OutboxEvent.waits) := by
  cases limit with
  | none => exact List.Sublist.refl _
  | some limit => exact List.take_sublist _ _

theorem waiting_pendingEvents (s : HelixStore) (limit : Option Int) :
    Waiting (s.pendingEvents limit) s := by
  intro event hevent
  obtain ⟨hmem, hwaits⟩ := List.mem_filter.mp ((pendingEvents_sublist s limit).subset hevent)
  exact ⟨event, hmem, rfl, rfl, rfl, hwaits⟩

theorem Listed.nodup_pendingEvents (h : Listed config s) (limit : Option Int) :
    ((s.pendingEvents limit).map OutboxEvent.eventId).Nodup :=
  h.nodup.sublist (((pendingEvents_sublist s limit).trans List.filter_sublist).map _)

/-- **`replay_pending` keeps the invariant**, wherever it stops. -/
theorem Inv.replayPending (h : Inv config past s)
    {p : HelixProg (Except Failure (ReplayResult × OutboxStatus))}
    (run : Runs (orderlyStep config) (replayPending limit) s trace p t) :
    Inv config (past ++ trace) t := by
  change Runs _ (Prog.call (.pendingEvents limit) fun events =>
    (DurableHelixMemoryProjection.replayEvents events {}).bind withStatus) s trace p t at run
  cases run with
  | refl => rwa [List.append_nil]
  | @cons _ _ events _ u _ trace _ head tail =>
    obtain ⟨-, rfl, rfl⟩ := head
    rw [List.append_cons]
    have hinv := h.neutral (neutral_pendingEvents limit (u.pendingEvents limit))
    have hwaiting := waiting_pendingEvents u limit
    have hnodup := h.toListed.nodup_pendingEvents limit
    obtain ⟨p', -, hrun⟩ | ⟨outcome, v, left, right, rfl, hleft, hright⟩ := tail.bind_cut
    · exact hinv.replayEvents hwaiting hnodup hrun
    · rw [← List.append_assoc]
      have hinv' := hinv.replayEvents hwaiting hnodup hleft
      cases outcome with
      | error failure =>
        cases hright
        rwa [List.append_nil]
      | ok result =>
        change Runs _ (Prog.call .status _) v right p t at hright
        cases hright with
        | refl => rwa [List.append_nil]
        | cons head tail =>
          cases tail
          obtain ⟨-, -, rfl⟩ := head
          exact hinv'.neutral (neutral_status _)

theorem replayPending_inv (hread : ∀ limit s events t, step (.pendingEvents limit) s events t →
      events = s.pendingEvents limit ∧ t = s)
    (hstatus : ∀ s counts t, step .status s counts t → t = s)
    (run : Runs step (replayPending limit) s trace (.ret outcome) t) :
    ∃ part result, Runs step (replayEvents (s.pendingEvents limit) {}) s part (.ret result) t ∧
      called trace = called part ∧ raised trace = raised part := by
  obtain ⟨events, u, rest, rfl, head, tail⟩ := Runs.call_inv
    (show Runs step (Prog.call (.pendingEvents limit) fun events =>
      (replayEvents events {}).bind withStatus) s trace _ t from run)
  obtain ⟨rfl, rfl⟩ := hread _ _ _ _ head
  obtain ⟨result, v, left, right, rfl, hleft, hright⟩ := tail.bind_inv
  refine ⟨left, result, ?_⟩
  have hend : t = v ∧ called right = [] ∧ raised right = [] := by
    cases result with
    | error failure =>
      obtain ⟨rfl, -, rfl⟩ := Runs.ret_inv hright
      exact ⟨rfl, rfl, rfl⟩
    | ok result =>
      obtain ⟨counts, w, rest, rfl, head, tail⟩ := Runs.call_inv
        (show Runs step (Prog.call .status _) v right _ t from hright)
      obtain ⟨rfl, -, rfl⟩ := Runs.ret_inv tail
      exact ⟨hstatus _ _ _ head, rfl, rfl⟩
  obtain ⟨rfl, hcalled, hraised⟩ := hend
  refine ⟨hleft, ?_, ?_⟩
  · show called (left ++ right) = _
    rw [called, List.filterMap_append]
    change called left ++ called right = _
    rw [hcalled, List.append_nil]
  · show raised (left ++ right) = _
    rw [raised, List.filterMap_append]
    change raised left ++ raised right = _
    rw [hraised, List.append_nil]

theorem Listed.attempted (h : Listed config s)
    (run : Runs (orderlyStep config) (replayPending limit) s trace (.ret outcome) t)
    (hhandled : ∀ failure ∈ raised trace, failure.isProjectionError = true) :
    called trace = (s.pendingEvents limit).map fun event => (event.operation, event.record) := by
  obtain ⟨part, result, hpart, hcalled, hraised⟩ :=
    replayPending_inv (fun _ _ _ _ h => h.2) (fun _ _ _ h => h.2.2) run
  rw [hcalled]
  refine (called_of_replayEvents ?_ hpart (hraised ▸ hhandled)).2
  intro event hevent
  obtain ⟨hmem, -⟩ := List.mem_filter.mp ((pendingEvents_sublist s limit).subset hevent)
  rw [h.ids event hmem]
  exact projectionEventId_ne_empty _ _ _

theorem Listed.nothing_waits (h : Listed config s)
    (run : Runs (orderlyStep config) (replayPending limit) s trace (.ret outcome) t)
    (hraised : raised trace = []) (hall : s.pendingEvents limit = s.pendingEvents none) :
    ∀ event ∈ t.outbox, event.waits = false := by
  obtain ⟨part, result, hpart, -, hsame⟩ :=
    replayPending_inv (fun _ _ _ _ h => h.2) (fun _ _ _ h => h.2.2) run
  intro event hmem
  by_contra hwaits
  rw [Bool.not_eq_false] at hwaits
  obtain ⟨hold, hnot⟩ := waits_of_replayEvents h (waiting_pendingEvents s limit)
    (h.nodup_pendingEvents limit) hpart (hsame.symm.trans hraised) hmem hwaits
  rw [hall] at hnot
  exact hnot (List.mem_map_of_mem (List.mem_filter.mpr ⟨hold, hwaits⟩))

end

end

def EnqueuesNot (op : HelixOp) : Prop := ∀ operation record, op ≠ .enqueue operation record

theorem newest_of_no_enqueue (past : Trace) (key : Operation × String) {trace : Trace}
    (h : ∀ step ∈ trace, EnqueuesNot step.op) : newest (past ++ trace) key = newest past key := by
  induction trace generalizing past with
  | nil => rw [List.append_nil]
  | cons step rest ih =>
    rw [List.append_cons, ih _ fun other hother => h other (List.mem_cons_of_mem _ hother),
      newest_concat]
    obtain ⟨op, answer⟩ := step
    cases op with
    | enqueue operation record => exact absurd rfl (h _ List.mem_cons_self operation record)
    | call | markApplied | markFailed | pendingEvents | status => rfl

theorem uses_replayEvents (events : List OutboxEvent) (result : ReplayResult) :
    (replayEvents events result).Uses EnqueuesNot := by
  induction events generalizing result with
  | nil => trivial
  | cons event rest ih =>
    rw [replayEvents]
    split
    · exact ih _
    · refine ⟨fun _ _ => HelixOp.noConfusion, fun answer => ?_⟩
      cases answer with
      | ok answer => exact ⟨fun _ _ => HelixOp.noConfusion, fun _ => ih _⟩
      | error failure =>
        show (if failure.isProjectionError = true then _ else _ :
          HelixProg (Except Failure ReplayResult)).Uses EnqueuesNot
        split
        · exact ⟨fun _ _ => HelixOp.noConfusion, fun _ => ih _⟩
        · trivial

theorem uses_replayPending (limit : Option Int) : (replayPending limit).Uses EnqueuesNot := by
  refine ⟨fun _ _ => HelixOp.noConfusion, fun events => ?_⟩
  show (Prog.bind (replayEvents events {}) withStatus).Uses EnqueuesNot
  refine Prog.uses_bind (uses_replayEvents events {}) fun outcome => ?_
  cases outcome with
  | error failure => trivial
  | ok result => exact ⟨fun _ _ => HelixOp.noConfusion, fun _ => trivial⟩

theorem History.inv {config : HelixConfig} {past : Trace} {s : HelixStore}
    (h : History config (orderlyStep config) (Settled config) past s) : Inv config past s := by
  induction h with
  | start =>
    exact {
      nodup := List.nodup_nil
      ids := fun event hevent => absurd hevent List.not_mem_nil
      kept := fun eventId hawaits => by cases hawaits
      shows := fun key record hnewest => by cases hnewest }
  | upsert _ run hwhole ih => exact ih.upsert run hwhole
  | replay _ run ih => exact ih.replayPending run

/-- **The outbox loses nothing and converges**, where every step is in order and
no upsert of an applied version stops half-way. -/
theorem outbox_converges {config : HelixConfig} {past : Trace} {s : HelixStore}
    (h : History config (orderlyStep config) (Settled config) past s) :
    Converges config (orderlyStep config) (fun failure => failure.isProjectionError = true)
      past s := by
  have hinv := h.inv
  refine ⟨fun eventId hawaits => ?_, fun limit trace outcome t run hhandled =>
    hinv.toListed.attempted run hhandled,
    fun limit trace outcome t run hraised hall key record hnewest => ?_⟩
  · obtain ⟨event, hmem, hid, hwaits⟩ := hinv.kept eventId hawaits
    exact ⟨event, List.mem_filter.mpr ⟨hmem, hwaits⟩, hid⟩
  · have hdone := hinv.toListed.nothing_waits run hraised hall
    have hempty : waitingIn key t.outbox = [] := by
      rw [waitingIn, List.filter_eq_nil_iff.mpr fun event hmem => by simp [hdone event hmem]]
      rfl
    have hkeeps : newest (past ++ trace) key = some record := by
      rw [newest_of_no_enqueue past key (run.uses (uses_replayPending limit))]
      exact hnewest
    have hshows := (hinv.replayPending run).shows key record hkeeps
    rw [Shows, hempty] at hshows
    exact hshows

def plainConfig : HelixConfig where
  sha := checksumHash
  isAlnum := Char.isAlphanum

variable (state : String)

def claimRecord : Dict := [("claim_id", .str "c"), ("state", .str state)]

def failedEvent : OutboxEvent where
  eventId := projectionEventId plainConfig .upsertClaim (claimRecord state)
  operation := .upsertClaim
  record := claimRecord state
  status := .failed
  attempts := 1
  lastError := some "down"
  createdAt := "t"
  updatedAt := "t"

def failedOnce : HelixStore where
  outbox := [failedEvent state]

def failedTrace : Trace :=
  let eventId := projectionEventId plainConfig .upsertClaim (claimRecord state)
  [⟨.enqueue .upsertClaim (claimRecord state), eventId⟩,
    ⟨.call .upsertClaim (claimRecord state), .error ⟨.projectionError, "down"⟩⟩,
    ⟨.markFailed eventId "down", ()⟩]

/-- A claim whose first projection fails waits, and the replay projects it. -/
theorem outbox_converges_retry :
    Converges plainConfig (orderlyStep plainConfig)
      (fun failure => failure.isProjectionError = true) (failedTrace "open")
      (failedOnce "open") := by
  have hfirst : OrderlyEnqueue plainConfig {} .upsertClaim (claimRecord "open") := by
    intro before event after hplace
    simp at hplace
  have hrun : Runs (orderlyStep plainConfig) (project plainConfig .upsertClaim (claimRecord "open"))
      {} (failedTrace "open") (.ret (.ok ())) (failedOnce "open") := by
    refine .cons ⟨hfirst, "t", rfl⟩ (.cons ⟨trivial, rfl⟩ (.cons ⟨trivial, "t", ?_⟩ (.refl _ _)))
    simp [failedOnce, failedEvent, HelixStore.markFailed, updateFirst, buildEvent]
  have hhistory : History plainConfig (orderlyStep plainConfig) (Settled plainConfig)
      ([] ++ failedTrace "open") (failedOnce "open") := by
    refine .upsert .start hrun fun ⟨event, hevent, _⟩ => ?_
    cases hevent
  exact outbox_converges hhistory

def overtaken : HelixStore where
  outbox := (failedOnce "open").outbox ++ [{
    buildEvent plainConfig .upsertClaim (claimRecord "closed") "t" with
    status := .applied
    attempts := 1
    appliedAt := some "t" }]
  projection := Function.update (fun _ => none) (.upsertClaim, "c") (some (claimRecord "closed"))

/-- The first version of a claim waits; the second is projected at once, and the replay then
writes the first one over it. -/
theorem replay_overwrites_newer :
    ¬ ∀ (config : HelixConfig) (past : Trace) (s : HelixStore),
      History config (helixStep config) (fun _ _ _ _ => True) past s →
      Converges config (helixStep config) (fun _ => True) past s := by
  intro hclaim
  set oldId := projectionEventId plainConfig .upsertClaim (claimRecord "open") with holdId
  set newId := projectionEventId plainConfig .upsertClaim (claimRecord "closed") with hnewId
  have hids : oldId ≠ newId := by decide +kernel
  have hone : History plainConfig (helixStep plainConfig) (fun _ _ _ _ => True)
      ([] ++ failedTrace "open") (failedOnce "open") := by
    have hrun : Runs (helixStep plainConfig) (project plainConfig .upsertClaim (claimRecord "open"))
        {} (failedTrace "open") (.ret (.ok ())) (failedOnce "open") := by
      refine .cons ⟨"t", rfl⟩ (.cons rfl (.cons ⟨"t", ?_⟩ (.refl _ _)))
      simp [failedOnce, failedEvent, HelixStore.markFailed, updateFirst, buildEvent]
    exact .upsert .start hrun trivial
  have htwo : History plainConfig (helixStep plainConfig) (fun _ _ _ _ => True)
      ([] ++ failedTrace "open" ++ [⟨.enqueue .upsertClaim (claimRecord "closed"), newId⟩,
        ⟨.call .upsertClaim (claimRecord "closed"), .ok ()⟩, ⟨.markApplied newId, ()⟩])
      overtaken := by
    have henqueue :
        (failedOnce "open").enqueue plainConfig .upsertClaim (claimRecord "closed") "t" =
        (newId, { failedOnce "open" with outbox := (failedOnce "open").outbox ++
          [buildEvent plainConfig .upsertClaim (claimRecord "closed") "t"] }) := by
      rw [HelixStore.enqueue]
      rw [if_neg]
      · rfl
      · intro hany
        obtain ⟨event, hevent, heq⟩ := List.any_eq_true.mp hany
        rw [List.mem_singleton.mp hevent] at heq
        exact hids (of_decide_eq_true heq)
    have hrun : Runs (helixStep plainConfig)
        (project plainConfig .upsertClaim (claimRecord "closed")) (failedOnce "open")
        [⟨.enqueue .upsertClaim (claimRecord "closed"), newId⟩,
          ⟨.call .upsertClaim (claimRecord "closed"), .ok ()⟩, ⟨.markApplied newId, ()⟩]
        (.ret (.ok ())) overtaken := by
      refine .cons ⟨"t", henqueue⟩ (.cons rfl (.cons ⟨"t", ?_⟩ (.refl _ _)))
      have hbefore : newId ∉ (failedOnce "open").outbox.map OutboxEvent.eventId := by
        simpa [failedOnce, failedEvent] using fun heq => hids heq.symm
      rw [HelixStore.markApplied, HelixStore.project, overtaken, updateFirst_append hbefore rfl]
      rfl
    exact .upsert hone hrun trivial
  set waiting := (failedOnce "open").outbox with hwaiting
  have hpending : overtaken.pendingEvents none = waiting := rfl
  obtain ⟨trace, result, t, hreplay, hraised, hprojection⟩ : ∃ trace result t,
      Runs (helixStep plainConfig) (replayEvents waiting {}) overtaken trace
        (.ret (.ok result)) t ∧ raised trace = [] ∧
      t.projection (.upsertClaim, "c") = some (claimRecord "open") := by
    refine ⟨[⟨.call .upsertClaim (claimRecord "open"), .ok ()⟩, ⟨.markApplied oldId, ()⟩],
      { attempted := 1, applied := 1 },
      (overtaken.project .upsertClaim (claimRecord "open")).markApplied oldId "t", ?_, rfl, ?_⟩
    · have hne : (failedEvent "open").eventId ≠ "" := projectionEventId_ne_empty _ _ _
      exact .cons rfl (.cons ⟨"t", rfl⟩ (.refl _ _))
    · rfl
  have hrun : Runs (helixStep plainConfig) (replayPending none) overtaken
      (⟨.pendingEvents none, waiting⟩ :: (trace ++ [⟨.status, t.status⟩]))
      (.ret (.ok (result, t.status))) t :=
    .cons ⟨hpending.symm, rfl⟩ (hreplay.bind (.cons ⟨rfl, rfl⟩ (.refl _ _)))
  have hnone :
      raised (⟨.pendingEvents none, waiting⟩ :: (trace ++ [⟨.status, t.status⟩])) = [] := by
    rw [raised, List.filterMap_cons_none rfl, List.filterMap_append]
    change raised trace ++ [] = []
    rw [hraised, List.append_nil]
  obtain ⟨held, hheld, hversion⟩ :=
    (hclaim plainConfig _ _ htwo).converges none _ _ t hrun hnone rfl
    (.upsertClaim, "c") (claimRecord "closed") rfl
  rw [hprojection] at hheld
  obtain rfl := Option.some.inj hheld
  exact absurd hversion (by decide +kernel)

end OrbitalMesh.Helix
