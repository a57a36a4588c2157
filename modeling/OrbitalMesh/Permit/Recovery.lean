import OrbitalMesh.Permit.LedgerStep
import OrbitalMesh.Permit.Store

/-!
# What restoring a preimage does

The methods that restore a preimage, run without another writer.  Each lemma
says what its program has done when it returns, and that a condition `I` holds
wherever it may be cut off, if `I` holds of the states it can leave behind.
`Closing` sums up one round of `recover_incomplete_actions`, `Pending` is what
its loop keeps about the candidates still to come.
-/

namespace OrbitalMesh

open Atomic Atomic.Raising

variable {host : Host} {I : World → Prop} {w : World}

theorem keeps_onFiles {call : FileCall} {Q : Except PyError call.Value → World → Prop} :
    Keeps (worldStep host) I (onFiles call) Q w ↔
      I w ∧ ∀ answer files, fileStep call w.files answer files → Q answer { w with files } := by
  show Keeps (worldStep host) I (.call (Section.file call) Prog.ret) Q w ↔ _
  refine keeps_call.trans ?_
  refine and_congr_right fun _ => ?_
  constructor
  · intro h answer files hstep
    exact keeps_ret.mp (h answer _ ⟨files, hstep, rfl⟩)
  · rintro h answer _ ⟨files, hstep, rfl⟩
    exact keeps_ret.mpr (h answer files hstep)

theorem keeps_onLedger {call : LedgerSection} {Q : Except PyError call.Value → World → Prop} :
    Keeps (worldStep host) I (onLedger call) Q w ↔
      I w ∧
        (∀ value ledger, ledgerCall host.sha host.permits w.ledger call = .ok (value, ledger) →
          Q (.ok value) { w with ledger }) ∧
        ∀ e, ledgerCall host.sha host.permits w.ledger call = .error e → Q (.error e) w := by
  show Keeps (worldStep host) I (.call (Section.ledger call) Prog.ret) Q w ↔ _
  refine keeps_call.trans ?_
  refine and_congr_right fun _ => ?_
  simp only [worldStep]
  cases ledgerCall host.sha host.permits w.ledger call with
  | ok pair =>
    refine ⟨fun h => ⟨?_, by simp⟩, fun h => ?_⟩
    · rintro value ledger ⟨rfl⟩
      exact keeps_ret.mp (h _ _ ⟨rfl, rfl⟩)
    · rintro _ _ ⟨rfl, rfl⟩
      exact keeps_ret.mpr (h.1 _ _ rfl)
  | error e =>
    refine ⟨fun h => ⟨by simp, ?_⟩, fun h => ?_⟩
    · rintro _ ⟨rfl⟩
      exact keeps_ret.mp (h _ _ ⟨rfl, rfl⟩)
    · rintro _ _ ⟨rfl, rfl⟩
      exact keeps_ret.mpr (h.2 _ rfl)

theorem keeps_clockNow {Q : Except PyError Instant → World → Prop} :
    Keeps (worldStep host) I clockNow Q w ↔ I w ∧ ∀ now, Q (.ok now) w := by
  show Keeps (worldStep host) I (.call Section.now fun now => .ret (.ok now)) Q w ↔ _
  refine keeps_call.trans ?_
  refine and_congr_right fun _ => ?_
  constructor
  · intro h now
    exact keeps_ret.mp (h now w rfl)
  · rintro h now _ rfl
    exact keeps_ret.mpr (h now)

variable {err : PyError → World → Prop} {path : String} {record : PermitRecord} {ledger : Ledger}
  {w' : World}

theorem keeps_raiseIf {condition : Bool} {text : String} {ok : Unit → World → Prop}
    (hok : condition = false → ok () w) (herr : condition = true → err ⟨.valueError, text⟩ w) :
    Keeps (worldStep host) I (raiseIf condition text) (ends ok err) w := by
  refine keeps_ofExcept.mpr ?_
  cases condition with
  | false => exact hok rfl
  | true => exact herr rfl

theorem keeps_tryExcept {α : Type} {classes : List ErrorClass} {body : Py α}
    {Q : Except PyError (Except PyError α) → World → Prop}
    (h : Keeps (worldStep host) I body
      (ends (fun a t => Q (.ok (.ok a)) t)
        fun e t => Q (if e.caughtBy classes then .ok (.error e) else .error e) t) w) :
    Keeps (worldStep host) I (tryExcept classes body) Q w := by
  refine keeps_bind (Keeps.mono h ?_)
  rintro (e | a) t ht
  · exact keeps_ret.mpr ht
  · exact keeps_ret.mpr ht

def HasDigest (host : Host) (files : Table Node) (path digest : String) : Prop :=
  ∃ content, files[path]? = some (.file content) ∧ bytesDigest host.sha content = digest

theorem fileDigest_keeps {ok : String → World → Prop} (hI : I w)
    (hok : ∀ content, (w.files[path]? = some (.file content) ∨ w.files[path]? = some .link) →
      ok (bytesDigest host.sha content) w) (herr : ∀ e, e.cls = .osError → err e w) :
    Keeps (worldStep host) I (fileDigest host path) (ends ok err) w := by
  refine keeps_andThen (keeps_onFiles.mpr ⟨hI, ?_⟩)
  rintro answer files ⟨rfl, ⟨e, rfl, he⟩ | ⟨content, rfl, hcontent⟩⟩
  · exact herr e he
  · exact keeps_pure.mpr (hok content hcontent)

/-- Restoring a preimage changes nothing, or writes the backup over a target that had the
authorised preimage or postimage. -/
inductive Restoring (host : Host) (permit : Permit) (files : Table Node) : Table Node → Prop
  | untouched : Restoring host permit files files
  | written {content backup : Bytes} (named : String)
      (target : files[permit.targetPath]? = some (.file content))
      (digest : bytesDigest host.sha content = permit.targetPreimageDigest ∨
        bytesDigest host.sha content = permit.targetPostimageDigest)
      (copied : files[host.resolve named]? = some (.file backup) ∧
          bytesDigest host.sha backup = permit.targetPreimageDigest ∨
        files[host.resolve named]? = some .link) :
      Restoring host permit files (files.insert permit.targetPath (.file backup))

variable {permit : Permit} {candidate : Candidate}

theorem Restoring.elsewhere {files files' : Table Node} (h : Restoring host permit files files')
    (hne : path ≠ permit.targetPath) : files'[path]? = files[path]? := by
  cases h with
  | untouched => rfl
  | written _ _ _ _ => exact Table.get_insert_of_ne _ _ hne

/-- The exceptions of the file-system calls and of the checks are caught. -/
theorem caught_of_osError {e : PyError} (h : e.cls = .osError) :
    e.caughtBy restorationErrors = true := by
  unfold PyError.caughtBy
  rw [h]
  decide

theorem caught_of_valueError (text : String) :
    PyError.caughtBy ⟨.valueError, text⟩ restorationErrors = true := rfl

theorem validatedBackupPath_keeps {details : Dict} (hI : I w) :
    Keeps (worldStep host) I (validatedBackupPath host details permit)
      (ends
        (fun path t => t = w ∧ (∃ named, path = host.resolve named) ∧
          (HasDigest host w.files path permit.targetPreimageDigest ∨
            w.files[path]? = some .link))
        fun e t => t = w ∧ e.caughtBy restorationErrors = true) w := by
  refine keeps_andThen (keeps_raiseIf (fun _ => ?_) fun _ => ⟨rfl, caught_of_valueError _⟩)
  refine keeps_andThen (keeps_onFiles.mpr ⟨hI, ?_⟩)
  rintro answer files ⟨rfl, ⟨e, rfl, he⟩ | ⟨regular, rfl, -⟩⟩
  · exact ⟨rfl, caught_of_osError he⟩
  · refine keeps_andThen (keeps_raiseIf (fun _ => ?_) fun _ => ⟨rfl, caught_of_valueError _⟩)
    refine keeps_andThen (fileDigest_keeps hI ?_ fun e he => ⟨rfl, caught_of_osError he⟩)
    intro content hcontent
    refine keeps_andThen (keeps_raiseIf (fun hsame => ?_) fun _ => ⟨rfl, caught_of_valueError _⟩)
    refine keeps_pure.mpr ⟨rfl, ⟨_, rfl⟩, ?_⟩
    have hdigest : bytesDigest host.sha content = permit.targetPreimageDigest := by
      simpa using hsame
    rcases hcontent with hfile | hlink
    · exact .inl ⟨content, hfile, hdigest⟩
    · exact .inr hlink

/-- **Restoring a preimage** leaves the authorised preimage, or raises what the callers turn into
a fence. -/
theorem restorePreimage_keeps {details : Option Dict} {message : String}
    (hI : ∀ files, Restoring host permit w.files files → I { w with files }) :
    Keeps (worldStep host) I (restorePreimage host permit details message)
      (ends
        (fun _ t => ∃ files, t = { w with files } ∧ Restoring host permit w.files files ∧
          HasDigest host files permit.targetPath permit.targetPreimageDigest)
        fun e t => e.caughtBy restorationErrors = true ∧
          ∃ files, t = { w with files } ∧ Restoring host permit w.files files) w := by
  have hw : I w := hI w.files .untouched
  have hraised : ∀ {e : PyError}, e.caughtBy restorationErrors = true →
      e.caughtBy restorationErrors = true ∧
        ∃ files, w = { w with files } ∧ Restoring host permit w.files files :=
    fun he => ⟨he, w.files, rfl, .untouched⟩
  cases details with
  | none => exact keeps_ofExcept.mpr (hraised (caught_of_valueError _))
  | some details =>
    refine keeps_andThen (keeps_mono (validatedBackupPath_keeps hw) ?_ ?_)
    · rintro backupPath t ⟨ht, ⟨named, rfl⟩, hbackup⟩
      subst t
      refine keeps_andThen (keeps_onFiles.mpr ⟨hw, ?_⟩)
      rintro answer files ⟨rfl, ⟨e, rfl, he⟩ | rfl⟩
      · exact hraised (caught_of_osError he)
      refine keeps_andThen (keeps_raiseIf (fun hlinked => ?_)
        fun _ => hraised (caught_of_valueError _))
      have hnotLink : ¬ w.files[permit.targetPath]? = some .link := by simpa using hlinked
      refine keeps_andThen (fileDigest_keeps hw ?_ fun e he => hraised (caught_of_osError he))
      intro content hcontent
      have htarget : w.files[permit.targetPath]? = some (.file content) :=
        hcontent.resolve_right hnotLink
      refine keeps_andThen (keeps_raiseIf (fun hdigest => ?_)
        fun _ => hraised (caught_of_valueError _))
      have hauthorised : bytesDigest host.sha content = permit.targetPreimageDigest ∨
          bytesDigest host.sha content = permit.targetPostimageDigest := by
        simpa [Classical.or_iff_not_imp_left] using hdigest
      refine keeps_andThen (keeps_onFiles.mpr ⟨hw, ?_⟩)
      rintro answer files ⟨rfl, ⟨e, rfl, he⟩ | ⟨backup, rfl, hread⟩⟩
      · exact hraised (caught_of_osError he)
      have hrestoring : Restoring host permit w.files
          (w.files.insert permit.targetPath (.file backup)) := by
        refine .written named htarget hauthorised ?_
        rcases hread with hfile | hlink
        · rcases hbackup with ⟨bytes, hbytes, hdigest⟩ | hlink
          · rw [hfile] at hbytes
            obtain ⟨rfl⟩ := Node.file.inj (Option.some.inj hbytes)
            exact .inl ⟨hfile, hdigest⟩
          · exact .inr hlink
        · exact .inr hlink
      refine keeps_andThen (keeps_onFiles.mpr ⟨hw, ?_⟩)
      rintro answer files (⟨⟨e, rfl, he⟩, rfl⟩ | ⟨-, rfl, ⟨e, rfl, he⟩ | rfl⟩)
      · exact hraised (caught_of_osError he)
      · exact ⟨caught_of_osError he, _, rfl, hrestoring⟩
      -- the replacement has taken place; the digest is checked once more
      have hafter := hI _ hrestoring
      refine keeps_andThen (fileDigest_keeps hafter ?_
        fun e he => ⟨caught_of_osError he, _, rfl, hrestoring⟩)
      intro restored hrestored
      refine keeps_andThen (keeps_raiseIf (fun hsame => ?_)
        fun _ => ⟨caught_of_valueError _, _, rfl, hrestoring⟩)
      refine keeps_pure.mpr ⟨_, rfl, hrestoring, restored, ?_, by simpa using hsame⟩
      simpa using hrestored
    · rintro e t ⟨ht, he⟩
      subst t
      exact hraised he

section

variable {permitId : String} {record : PermitRecord} {err : PyError → World → Prop}
  {details : Option Dict} {ok : PermitRecord → World → Prop}

theorem transitionPermit_keeps {expectedState newState : PermitState}
    {terminalResult : Option Dict} (hI : I w)
    (hok : ∀ record updated now, w.ledger.permits[permitId]? = some record →
      record.state = expectedState → RecordMove record updated newState terminalResult now →
      ok updated { w with ledger := w.ledger.withRecord permitId updated }) (herr : ∀ e, err e w) :
    Keeps (worldStep host) I
      (transitionPermit permitId expectedState newState details terminalResult)
      (ends ok err) w := by
  refine keeps_andThen (keeps_clockNow.mpr ⟨hI, fun now => ?_⟩)
  refine keeps_onLedger.mpr ⟨hI, ?_, fun e _ => herr e⟩
  intro updated ledger hcall
  simp only [ledgerCall, recordTransition, Except.bind_ok_iff] at hcall
  obtain ⟨_, -, _, -, _, -, current, hcurrent, moved, hmove, hreturn⟩ := hcall
  obtain ⟨rfl, rfl⟩ := Prod.mk.inj (Except.ok.inj hreturn)
  obtain ⟨hstate, hmoved⟩ := transitionRecord_ok hmove
  exact hok current _ now (presentRecord_ok hcurrent) hstate hmoved

theorem presentRecord_of_found {ledger : Ledger}
    (hfound : ledger.permits[permitId]? = some record) :
    presentRecord ledger permitId = .ok record := by
  have hnonempty : ledger.permits.isEmpty = false := by
    refine Std.ExtTreeMap.isEmpty_eq_false_iff.mpr ?_
    intro hempty
    rw [hempty, Table.get_empty] at hfound
    cases hfound
  simp [presentRecord, hnonempty, hfound, rejectIf]

theorem transitionPermit_aborts {terminal : Dict} (hI : I w)
    (hfound : w.ledger.permits[permitId]? = some record)
    (hmutation : record.state.isMutation = true)
    (hok : ∀ updated now, RecordMove record updated .aborted (some terminal) now →
      ok updated { w with ledger := w.ledger.withRecord permitId updated }) :
    Keeps (worldStep host) I
      (transitionPermit permitId record.state .aborted details (some terminal))
      (ends ok err) w := by
  refine keeps_andThen (keeps_clockNow.mpr ⟨hI, fun now => ?_⟩)
  have hallowed : record.state.allowedTransitions.contains .aborted = true := by
    revert hmutation
    cases record.state <;> decide
  have hcall : ledgerCall host.sha host.permits w.ledger
      (.recordTransition permitId record.state .aborted details (some terminal) now) =
        (transitionRecord record record.state .aborted now details (some terminal)).map
          fun updated => (updated, w.ledger.withRecord permitId updated) := by
    simp only [ledgerCall, recordTransition, hallowed, presentRecord_of_found hfound]
    rfl
  refine keeps_onLedger.mpr ⟨hI, ?_, ?_⟩
  · intro value ledger hvalue
    rw [hcall] at hvalue
    obtain ⟨updated, hmove, heq⟩ := map_snd_ok hvalue
    obtain ⟨rfl, rfl⟩ := Prod.mk.inj heq
    exact hok _ now (transitionRecord_ok hmove).2
  · intro e herror
    rw [hcall] at herror
    simp [transitionRecord, rejectIf, Except.map] at herror

theorem fenceRecovery_keeps {permit : Permit} {reason : String} {ok : Dict → World → Prop}
    (hI : I w) (hfound : w.ledger.permits[permitId]? = some record)
    (hok : ∀ updated result terminal now,
      RecordMove record updated .recoveryRequired (some terminal) now →
      ok result { w with
        ledger := Ledger.withFence (w.ledger.withRecord permitId updated) permit.repoPath
          ⟨permitId, reason, now⟩ }) :
    Keeps (worldStep host) I (fenceRecovery permitId record.state permit reason)
      (ends ok err) w := by
  refine keeps_andThen (keeps_clockNow.mpr ⟨hI, fun now => ?_⟩)
  have hcall : ledgerCall host.sha host.permits w.ledger
      (.fenceRecovery permitId record.state permit.repoPath reason now) =
        (transitionRecord record record.state .recoveryRequired now
          (some [("recovery_failure", .str reason)])
          (some (fencedResult permitId permit.repoPath reason))).map
          fun updated => ((), Ledger.withFence (w.ledger.withRecord permitId updated)
            permit.repoPath ⟨permitId, reason, now⟩) := by
    simp only [ledgerCall, fenceSection, hfound, transitionRecord, rejectIf, Ledger.withFence]
    by_cases hroot : permit.repoPath = "" <;>
      simp [hroot, Except.map, bind, Except.bind, pure, Except.pure, Ledger.withRecord]
  refine keeps_andThen (keeps_onLedger.mpr ⟨hI, ?_, ?_⟩)
  · intro value ledger hvalue
    rw [hcall] at hvalue
    obtain ⟨updated, hmove, heq⟩ := map_snd_ok hvalue
    obtain ⟨-, rfl⟩ := Prod.mk.inj heq
    exact keeps_pure.mpr (hok updated _ _ now (transitionRecord_ok hmove).2)
  · intro e herror
    rw [hcall] at herror
    simp [transitionRecord, rejectIf, Except.map] at herror

end

/-- What becomes of an incomplete record: the target has its preimage again and
the record is aborted, or the record is fenced. -/
inductive Closing (host : Host) (permitId : String) (record : PermitRecord) (w : World) :
    World → Prop
  | aborted {files : Table Node} {updated : PermitRecord} {terminal : Dict} {now : Instant}
      (restored : Restoring host record.permit w.files files)
      (digest : HasDigest host files record.permit.targetPath record.permit.targetPreimageDigest)
      (move : RecordMove record updated .aborted (some terminal) now) :
      Closing host permitId record w
        { w with files, ledger := w.ledger.withRecord permitId updated }
  | fenced {files : Table Node} {updated : PermitRecord} {terminal : Dict} {now : Instant}
      {reason : String} (restored : Restoring host record.permit w.files files)
      (move : RecordMove record updated .recoveryRequired (some terminal) now) :
      Closing host permitId record w
        { w with
          files
          ledger := Ledger.withFence (w.ledger.withRecord permitId updated)
            record.permit.repoPath ⟨permitId, reason, now⟩ }

theorem recoverCandidate_keeps
    (hfound : w.ledger.permits[candidate.permitId]? = some candidate.record)
    (hI : ∀ files, Restoring host candidate.record.permit w.files files → I { w with files }) :
    Keeps (worldStep host) I (recoverCandidate host candidate)
      (ends (fun _ t => Closing host candidate.permitId candidate.record w t)
        fun _ _ => False) w := by
  refine keeps_andThen (keeps_tryExcept (keeps_mono (restorePreimage_keeps hI) ?_ ?_))
  · rintro backupPath _ ⟨files, rfl, hrestored, hdigest⟩
    have hfiles := hI files hrestored
    refine keeps_andThen (keeps_clockNow.mpr ⟨hfiles, fun recoveredAt => ?_⟩)
    refine keeps_andThen (transitionPermit_aborts hfiles hfound candidate.incomplete ?_)
    intro updated now hmove
    exact keeps_pure.mpr (.aborted hrestored hdigest hmove)
  · rintro e _ ⟨hcaught, files, rfl, hrestored⟩
    rw [if_pos hcaught]
    have hfiles := hI files hrestored
    refine keeps_andThen (fenceRecovery_keeps hfiles hfound ?_)
    intro updated result terminal now hmove
    exact keeps_pure.mpr (.fenced hrestored hmove)

theorem abortWithRestoration_keeps {reason : String} {tests : List Json}
    (hfound : w.ledger.permits[permit.permitId]? = some record) (hpermit : record.permit = permit)
    (hmutation : record.state.isMutation = true)
    (hI : ∀ files, Restoring host permit w.files files → I { w with files }) :
    Keeps (worldStep host) I (abortWithRestoration host permit record.state reason tests)
      (ends (fun _ t => Closing host permit.permitId record w t) fun _ _ => False) w := by
  have hw : I w := hI w.files .untouched
  have hdetails : ledgerCall host.sha host.permits w.ledger
      (.restorationDetails permit.permitId record.state) = .ok (record.transaction, w.ledger) := by
    simp [ledgerCall, restorationDetails, hfound, Except.map]
  refine keeps_andThen (keeps_tryExcept (keeps_andThen (keeps_onLedger.mpr ⟨hw, ?_, ?_⟩)))
  · intro details ledger hcall
    rw [hdetails] at hcall
    obtain ⟨rfl, rfl⟩ := Prod.mk.inj (Except.ok.inj hcall)
    refine keeps_mono (restorePreimage_keeps hI) ?_ ?_
    · rintro backupPath _ ⟨files, rfl, hrestored, hdigest⟩
      have hfiles := hI files hrestored
      refine keeps_andThen (keeps_clockNow.mpr ⟨hfiles, fun restoredAt => ?_⟩)
      refine keeps_andThen (transitionPermit_aborts hfiles hfound hmutation ?_)
      intro updated now hmove
      rw [← hpermit] at hrestored hdigest
      exact keeps_pure.mpr (.aborted hrestored hdigest hmove)
    · rintro e _ ⟨hcaught, files, rfl, hrestored⟩
      rw [if_pos hcaught]
      have hfiles := hI files hrestored
      refine fenceRecovery_keeps hfiles hfound ?_
      intro updated result terminal now hmove
      rw [← hpermit] at hrestored ⊢
      exact .fenced hrestored hmove
  · intro e herror
    rw [hdetails] at herror
    cases herror

/-- The candidates still to come: each is on file as it was collected, none
comes twice, and no other record is incomplete. -/
structure Pending (candidates : List Candidate) (ledger : Ledger) : Prop where
  onFile : ∀ candidate ∈ candidates,
    ledger.permits[candidate.permitId]? = some candidate.record
  distinct : (candidates.map (·.permitId)).Nodup
  complete : ∀ (id : String) (record : PermitRecord), ledger.permits[id]? = some record →
    record.state.isMutation = true → ∃ candidate ∈ candidates, candidate.permitId = id

theorem mem_recoveryCandidates :
    candidate ∈ recoveryCandidates ledger ↔
      ledger.permits[candidate.permitId]? = some candidate.record := by
  unfold recoveryCandidates
  rw [List.mem_filterMap]
  constructor
  · rintro ⟨⟨id, record⟩, hmem, hcandidate⟩
    have hfound := Std.ExtTreeMap.mem_toList_iff_getElem?_eq_some.mp hmem
    by_cases hmutation : record.state.isMutation = true
    · simp only [hmutation, dite_true, Option.some.injEq] at hcandidate
      rw [← hcandidate]
      exact hfound
    · simp [hmutation] at hcandidate
  · intro hfound
    refine ⟨(candidate.permitId, candidate.record),
      Std.ExtTreeMap.mem_toList_iff_getElem?_eq_some.mpr hfound, ?_⟩
    exact dif_pos candidate.incomplete

theorem pending_recoveryCandidates (ledger : Ledger) :
    Pending (recoveryCandidates ledger) ledger := by
  refine ⟨fun candidate hmem => mem_recoveryCandidates.mp hmem, ?_, ?_⟩
  · have hkeys : (ledger.permits.toList.map Prod.fst).Nodup := by
      rw [Std.ExtTreeMap.map_fst_toList_eq_keys]
      exact Std.ExtTreeMap.nodup_keys
    refine List.Nodup.sublist ?_ hkeys
    unfold recoveryCandidates
    generalize ledger.permits.toList = records
    induction records with
    | nil => exact .slnil
    | cons entry rest ih =>
      simp only [List.filterMap_cons, List.map_cons]
      split
      · exact ih.cons _
      · next candidate hcandidate =>
        split at hcandidate
        · rw [← Option.some.inj hcandidate]
          exact ih.cons_cons _
        · cases hcandidate
  · intro id record hfound hmutation
    exact ⟨⟨id, record, hmutation⟩, mem_recoveryCandidates.mpr hfound, rfl⟩

theorem Pending.done (h : Pending [] ledger) : recoveryCandidates ledger = [] := by
  refine List.eq_nil_iff_forall_not_mem.mpr ?_
  intro candidate hmem
  obtain ⟨_, hnone, -⟩ := h.complete candidate.permitId candidate.record
    (mem_recoveryCandidates.mp hmem) candidate.incomplete
  cases hnone

theorem Closing.permits {permitId : String} (h : Closing host permitId record w w') :
    ∃ updated, w'.ledger.permits = w.ledger.permits.insert permitId updated ∧
      updated.state.isMutation = false ∧ updated.permit = record.permit := by
  cases h with
  | aborted _ _ hmove =>
    exact ⟨_, rfl, by rw [hmove.state]; rfl, hmove.permit⟩
  | fenced _ hmove =>
    refine ⟨_, ?_, by rw [hmove.state]; rfl, hmove.permit⟩
    unfold Ledger.withFence
    split <;> rfl

theorem Pending.closing {rest : List Candidate} (h : Pending (candidate :: rest) w.ledger)
    (hclosing : Closing host candidate.permitId candidate.record w w') :
    Pending rest w'.ledger := by
  obtain ⟨updated, hpermits, hclosed, -⟩ := hclosing.permits
  have hdistinct := List.nodup_cons.mp h.distinct
  refine ⟨?_, hdistinct.2, ?_⟩
  · intro other hmem
    have hne : other.permitId ≠ candidate.permitId := by
      intro heq
      exact hdistinct.1 (List.mem_map.mpr ⟨other, hmem, heq⟩)
    rw [hpermits, Table.get_insert_of_ne _ _ hne]
    exact h.onFile other (List.mem_cons_of_mem _ hmem)
  · intro id record hfound hmutation
    rw [hpermits, Table.get_insert] at hfound
    split at hfound
    · rw [← Option.some.inj hfound, hclosed] at hmutation
      cases hmutation
    · next hne =>
      obtain ⟨other, hmem, heq⟩ := h.complete id record hfound hmutation
      rcases List.mem_cons.mp hmem with rfl | hrest
      · exact absurd heq.symm hne
      · exact ⟨other, hrest, heq⟩

section

variable {K : World → Prop}

/-- **The loop of recovery.**  `K` holds between the rounds, and `I` where a round is cut off. -/
theorem recoverCandidates_keeps
    (hI : ∀ (candidate : Candidate) w files, K w →
      w.ledger.permits[candidate.permitId]? = some candidate.record →
      Restoring host candidate.record.permit w.files files → I { w with files })
    (hnext : ∀ (candidate : Candidate) w w', K w →
      w.ledger.permits[candidate.permitId]? = some candidate.record →
      Closing host candidate.permitId candidate.record w w' → K w')
    (candidates : List Candidate) (w : World) (hpending : Pending candidates w.ledger)
    (hK : K w) :
    Keeps (worldStep host) I (recoverCandidates host candidates)
      (ends (fun _ t => K t ∧ Pending [] t.ledger) fun _ _ => False) w := by
  induction candidates generalizing w with
  | nil => exact keeps_pure.mpr ⟨hK, hpending⟩
  | cons candidate rest ih =>
    have hfound := hpending.onFile candidate List.mem_cons_self
    have hround := recoverCandidate_keeps hfound
      fun files hrestored => hI candidate w files hK hfound hrestored
    refine keeps_andThen (keeps_mono hround ?_ fun _ _ hfalse => hfalse)
    intro first t hclosing
    have hrest := ih t (hpending.closing hclosing) (hnext candidate w t hK hfound hclosing)
    refine keeps_andThen (keeps_mono hrest ?_ fun _ _ hfalse => hfalse)
    intro others t hdone
    exact keeps_pure.mpr hdone

theorem recoverIncompleteActions_keeps (hw : I w) (hK : K w)
    (hI : ∀ (candidate : Candidate) w files, K w →
      w.ledger.permits[candidate.permitId]? = some candidate.record →
      Restoring host candidate.record.permit w.files files → I { w with files })
    (hnext : ∀ (candidate : Candidate) w w', K w →
      w.ledger.permits[candidate.permitId]? = some candidate.record →
      Closing host candidate.permitId candidate.record w w' → K w') :
    Keeps (worldStep host) I (recoverIncompleteActions host)
      (ends (fun _ t => K t ∧ Pending [] t.ledger) fun _ _ => False) w := by
  refine keeps_andThen (keeps_onLedger.mpr ⟨hw, ?_, ?_⟩)
  · intro candidates ledger hcall
    obtain ⟨rfl, rfl⟩ := Prod.mk.inj (Except.ok.inj hcall)
    exact recoverCandidates_keeps hI hnext _ w (pending_recoveryCandidates w.ledger) hK
  · intro e herror
    cases herror

end

theorem recoverIncompleteActions_idle (h : Pending [] w.ledger) :
    Keeps (worldStep host) (· = w) (recoverIncompleteActions host)
      (ends (fun _ t => t = w) fun _ _ => False) w := by
  refine keeps_andThen (keeps_onLedger.mpr ⟨rfl, ?_, ?_⟩)
  · intro candidates ledger hcall
    obtain ⟨rfl, rfl⟩ := Prod.mk.inj (Except.ok.inj hcall)
    rw [h.done]
    exact keeps_pure.mpr rfl
  · intro e herror
    cases herror

end OrbitalMesh
