import OrbitalMesh.Patch.Executor
import OrbitalMesh.Permit.Recovery
import OrbitalMesh.Permit.LedgerRuns
import Mathlib.Logic.Relation

/-!
# Crash atomicity of the patch transaction

`Settled` is what holds of a permit's record, its target and the fences at every
point where `execute_patch` or a recovery may be cut off.  A record that is in
none of the mutation states speaks the truth about the target: the preimage is
there while the permit is issued and after an abort, the postimage after a
commit, and the root is fenced where recovery has given up.  A recovery that
runs to its end leaves no record in a mutation state.
-/

namespace OrbitalMesh

open Atomic Atomic.Raising

variable {host : Host} {I : World → Prop} {w : World}

def bindingPaths (host : Host) (parameters : Dict) : Option (String × String) :=
  match parameters.get? "repo_path", parameters.get? "patch_template" with
  | some given, some (.obj template) =>
    let repoPath := host.resolve (pathText (pyStr given))
    let named := pathText (textOrEmpty template "target_file")
    some (repoPath,
      host.resolve (if isAbsolutePath named then named else joinPath repoPath named))
  | _, _ => none

/-- The attached context does not enter the binding. -/
theorem bindingPaths_canonical (parameters : Dict) :
    bindingPaths host (canonicalActuationParameters parameters) =
      bindingPaths host parameters := by
  have hrepo : (canonicalActuationParameters parameters).get? "repo_path" =
      parameters.get? "repo_path" := Dict.get?_pop_of_ne _ (by decide)
  have htemplate : (canonicalActuationParameters parameters).get? "patch_template" =
      parameters.get? "patch_template" := Dict.get?_pop_of_ne _ (by decide)
  simp only [bindingPaths, hrepo, htemplate]

variable {parameters : Dict} {decision : Decision} {idempotencyKey path : String}

theorem repoPatchTargetBinding_keeps (hI : I w) :
    Keeps (worldStep host) I (repoPatchTargetBinding host parameters)
      (ends (fun bound t => t = w ∧ bindingPaths host parameters = some (bound.1, bound.2.1))
        fun _ t => t = w) w := by
  refine keeps_andThen (keeps_ofExcept.mpr ?_)
  cases hgiven : parameters.get? "repo_path" with
  | none => simp [requireKey, hgiven, ends]
  | some given =>
    simp only [requireKey, hgiven, ends]
    have hrefused : Keeps (worldStep host) I (rootRefused (pathText (pyStr given)))
        (ends (fun _ t => t = w) fun _ t => t = w) w := by
      unfold rootRefused
      split
      · refine keeps_onFiles.mpr ⟨hI, ?_⟩
        rintro answer files ⟨rfl, ⟨e, rfl, -⟩ | rfl⟩ <;> rfl
      · exact keeps_pure.mpr rfl
    refine keeps_andThen (keeps_mono hrefused ?_ fun _ _ ht => ht)
    rintro refused t ht
    subst t
    refine keeps_andThen (keeps_raiseIf (fun _ => ?_) fun _ => rfl)
    split
    · next template htemplate =>
      refine keeps_andThen (keeps_onFiles.mpr ⟨hI, ?_⟩)
      rintro answer files ⟨rfl, ⟨e, rfl, -⟩ | rfl⟩
      · rfl
      refine keeps_andThen (keeps_raiseIf (fun _ => ?_) fun _ => rfl)
      split
      · exact keeps_ofExcept.mpr rfl
      · refine keeps_andThen (keeps_ofExcept.mpr ?_)
        cases allowedPaths parameters with
        | error e => rfl
        | ok allowed =>
          refine keeps_andThen (keeps_raiseIf (fun _ => ?_) fun _ => rfl)
          refine keeps_andThen (keeps_onFiles.mpr ⟨hI, ?_⟩)
          rintro answer files ⟨rfl, ⟨e, rfl, -⟩ | ⟨regular, rfl, -⟩⟩
          · rfl
          refine keeps_andThen (keeps_raiseIf (fun _ => ?_) fun _ => rfl)
          refine keeps_andThen (fileDigest_keeps hI (fun content _ => ?_) fun _ _ => rfl)
          refine keeps_pure.mpr ⟨rfl, ?_⟩
          simp only [bindingPaths, hgiven, htemplate]
    · exact keeps_ofExcept.mpr rfl

variable {targetPath : String}

theorem readPostimage_keeps (hI : I w) :
    Keeps (worldStep host) I (readPostimage host parameters targetPath)
      (ends (fun _ t => t = w) fun _ t => t = w) w := by
  have hpost : ∀ read, Keeps (worldStep host) I
      (pure? (repoPatchPostimage host.sha parameters read) : Py (Bytes × String))
      (ends (fun _ t => t = w) fun _ t => t = w) w := by
    intro read
    refine keeps_ofExcept.mpr ?_
    cases repoPatchPostimage host.sha parameters read <;> rfl
  refine keeps_andThen (keeps_tryExcept (keeps_onFiles.mpr ⟨hI, ?_⟩))
  rintro answer files ⟨rfl, ⟨e, rfl, he⟩ | ⟨content, rfl, -⟩⟩
  · show ends _ _ (if e.caughtBy [.osError] then _ else _) _
    split
    · exact hpost (.error e)
    · rfl
  · exact hpost (.ok content)

variable {permit : Permit}

theorem requireBound_target {now : Instant} {repoPath preimageDigest : String} {u : Unit}
    (h : requireBound host permit decision idempotencyKey parameters now repoPath targetPath
      preimageDigest = .ok u) : permit.targetPath = targetPath := by
  simp only [requireBound, Except.bind_ok_iff, rejectIf_ok] at h
  obtain ⟨_, -, _, -, _, -, _, -, _, -, _, -, _, hpaths, -⟩ := h
  simp only [Bool.or_eq_false_iff, bne_eq_false_iff_eq] at hpaths
  exact hpaths.2

theorem validatePermit_keeps (hI : I w) :
    Keeps (worldStep host) I (validatePermit host permit decision idempotencyKey parameters)
      (ends (fun _ t => t = w ∧ ∃ root, bindingPaths host parameters =
          some (root, permit.targetPath)) fun _ t => t = w) w := by
  refine keeps_andThen (keeps_ofExcept.mpr ?_)
  cases requireAuthentic host permit with
  | error e => rfl
  | ok _ =>
    refine keeps_andThen (keeps_mono (repoPatchTargetBinding_keeps hI) ?_ fun _ _ ht => ht)
    rintro ⟨repoPath, targetPath, preimageDigest⟩ t ⟨ht, hpaths⟩
    subst t
    refine keeps_andThen (keeps_clockNow.mpr ⟨hI, fun now => ?_⟩)
    refine keeps_andThen (keeps_ofExcept.mpr ?_)
    cases hbound : requireBound host permit decision idempotencyKey
        (canonicalActuationParameters parameters) now repoPath targetPath preimageDigest with
    | error e => rfl
    | ok _ =>
      rw [bindingPaths_canonical, ← requireBound_target hbound] at hpaths
      refine keeps_andThen (keeps_mono (readPostimage_keeps hI) ?_ fun _ _ ht => ht)
      rintro ⟨_, postimageDigest⟩ t ht
      subst t
      refine keeps_andThen (keeps_raiseIf (fun _ => ?_) fun _ => rfl)
      refine keeps_ofExcept.mpr ?_
      cases requireContext permit decision with
      | error e => rfl
      | ok _ => exact ⟨rfl, repoPath, hpaths⟩

theorem consumePermit_keeps {ok : Dict → World → Prop} {err : PyError → World → Prop} (hI : I w)
    (hok : ∀ receipt record updated now root,
      bindingPaths host parameters = some (root, permit.targetPath) →
      w.ledger.permits[permit.permitId]? = some record → record.permit = permit →
      RecordMove record updated .claimed none now →
      ok receipt { w with
        ledger := (w.ledger.withRecord permit.permitId updated).withNonce permit.authorityNonce
          permit.permitId }) (herr : ∀ e, err e w) :
    Keeps (worldStep host) I (consumePermit host permit decision idempotencyKey parameters)
      (ends ok err) w := by
  refine keeps_andThen (keeps_mono (validatePermit_keeps hI) ?_ ?_)
  · rintro _ t ⟨ht, root, hpaths⟩
    subst t
    refine keeps_andThen (keeps_clockNow.mpr ⟨hI, fun now => ?_⟩)
    refine keeps_andThen (keeps_onLedger.mpr ⟨hI, ?_, fun e _ => herr e⟩)
    intro value ledger hcall
    refine keeps_pure.mpr ?_
    have hstep : LedgerStep w.ledger (.consume permit now) none ledger := ledgerCall_step hcall
    cases hstep with
    | claim hfound hbound _ _ hmove => exact hok _ _ _ _ root hpaths hfound hbound hmove
    | read hreads => cases hreads
  · rintro e t ht
    subst t
    exact herr e

def KeepsFiles (files files' : Table Node) : Prop :=
  ∀ (path : String) (content : Bytes),
    files[path]? = some (.file content) → files'[path]? = some (.file content)

theorem KeepsFiles.refl (files : Table Node) : KeepsFiles files files := fun _ _ h => h

theorem KeepsFiles.elsewhere {files files' : Table Node}
    (hfree : ∀ content, files[path]? ≠ some (.file content))
    (hsame : ∀ other, other ≠ path → files'[other]? = files[other]?) : KeepsFiles files files' := by
  intro other content hcontent
  have hne : other ≠ path := by
    rintro rfl
    exact hfree content hcontent
  rw [hsame other hne]
  exact hcontent

variable {content : Bytes}

theorem holdsContent_keeps (hI : I w) :
    Keeps (worldStep host) I (holdsContent path content)
      (ends (fun _ t => t = w) fun _ t => t = w) w := by
  refine keeps_andThen (keeps_onFiles.mpr ⟨hI, ?_⟩)
  rintro answer files ⟨rfl, ⟨e, rfl, -⟩ | rfl⟩
  · rfl
  show Keeps _ _ (ite _ _ _) _ _
  split
  · exact keeps_pure.mpr rfl
  refine keeps_andThen (keeps_onFiles.mpr ⟨hI, ?_⟩)
  rintro answer files ⟨rfl, ⟨e, rfl, -⟩ | ⟨regular, rfl, -⟩⟩
  · rfl
  show Keeps _ _ (ite _ _ _) _ _
  split
  · refine keeps_andThen (keeps_onFiles.mpr ⟨hI, ?_⟩)
    rintro answer files ⟨rfl, ⟨e, rfl, -⟩ | ⟨found, rfl, -⟩⟩
    · rfl
    · exact keeps_pure.mpr rfl
  · exact keeps_pure.mpr rfl

theorem removePartialBackup_keeps {e : PyError} (hI : I w) :
    Keeps (worldStep host) I (removePartialBackup path content e)
      (ends (fun _ _ => False) fun _ t => t = w ∨ t = { w with files := w.files.erase path })
      w := by
  have hraised : ∀ t, (t = w ∨ t = { w with files := w.files.erase path }) →
      Keeps (worldStep host) I (pure? (.error e) : Py Unit)
        (ends (fun _ _ => False) fun _ t => t = w ∨ t = { w with files := w.files.erase path })
        t := fun t ht => keeps_ofExcept.mpr ht
  refine keeps_andThen (keeps_andThen (keeps_onFiles.mpr ⟨hI, ?_⟩))
  rintro answer files ⟨rfl, ⟨e', rfl, -⟩ | ⟨present, rfl, -⟩⟩
  · exact .inl rfl
  show Keeps _ _ (ite _ _ _) _ _
  split
  · refine keeps_andThen (keeps_onFiles.mpr ⟨hI, ?_⟩)
    rintro answer files ⟨rfl, ⟨e', rfl, -⟩ | ⟨written, rfl, -⟩⟩
    · exact .inl rfl
    show Keeps _ _ (ite _ _ _) _ _
    split
    · refine keeps_onFiles.mpr ⟨hI, ?_⟩
      rintro answer files (⟨⟨e', rfl, -⟩, rfl⟩ | ⟨rfl, rfl⟩)
      · exact .inl rfl
      · exact hraised _ (.inr rfl)
    · exact keeps_pure.mpr (hraised _ (.inl rfl))
  · exact keeps_pure.mpr (hraised _ (.inl rfl))

/-- **Writing a backup** never touches a regular file that is already there. -/
theorem writeImmutableBackup_keeps (hI : ∀ files, KeepsFiles w.files files → I { w with files }) :
    Keeps (worldStep host) I (writeImmutableBackup path content)
      (ends (fun _ t => ∃ files, t = { w with files } ∧ KeepsFiles w.files files)
        fun _ t => ∃ files, t = { w with files } ∧ KeepsFiles w.files files) w := by
  have hw : I w := hI w.files (.refl _)
  have hsame : ∃ files, w = { w with files } ∧ KeepsFiles w.files files :=
    ⟨w.files, rfl, .refl _⟩
  refine keeps_andThen (keeps_onFiles.mpr ⟨hw, ?_⟩)
  rintro answer files ⟨rfl, ⟨e, rfl, -⟩ | rfl⟩
  · exact hsame
  refine keeps_andThen (keeps_onFiles.mpr ⟨hw, ?_⟩)
  rintro answer files ⟨rfl, ⟨e, rfl, -⟩ | ⟨present, rfl, hpresent⟩⟩
  · exact hsame
  show Keeps _ _ (ite _ _ _) _ _
  split
  · refine keeps_andThen (keeps_mono (holdsContent_keeps hw) ?_ ?_)
    · rintro same t ht
      subst t
      exact keeps_raiseIf (fun _ => hsame) fun _ => hsame
    · rintro e t ht
      subst t
      exact hsame
  · next habsent =>
    have hfree : ∀ found, w.files[path]? ≠ some (.file found) := by
      intro found hfound
      rcases hpresent with hlink | rfl
      · rw [hlink] at hfound
        cases hfound
      · rw [hfound] at habsent
        exact habsent rfl
    -- from here on only `path` changes
    have hremoved : ∀ e files, (∀ other, other ≠ path → files[other]? = w.files[other]?) →
        Keeps (worldStep host) I (removePartialBackup path content e)
          (ends (fun _ t => ∃ files, t = { w with files } ∧ KeepsFiles w.files files)
            fun _ t => ∃ files, t = { w with files } ∧ KeepsFiles w.files files)
          { w with files } := by
      intro e files helse
      have hkept := KeepsFiles.elsewhere hfree helse
      refine keeps_mono (removePartialBackup_keeps (hI files hkept))
        (fun _ _ hfalse => hfalse.elim) ?_
      rintro _ _ (rfl | rfl)
      · exact ⟨files, rfl, hkept⟩
      · refine ⟨_, rfl, KeepsFiles.elsewhere hfree fun other hne => ?_⟩
        rw [Table.get_erase_of_ne _ hne]
        exact helse other hne
    refine keeps_tryCatch (keeps_andThen (keeps_onFiles.mpr ⟨hw, ?_⟩))
    rintro answer files (⟨⟨e, rfl, -⟩, rfl⟩ | ⟨-, rfl, rfl⟩)
    · exact hremoved e w.files fun _ _ => rfl
    have hcreated : ∀ other, other ≠ path →
        (w.files.insert path (.file []))[other]? = w.files[other]? :=
      fun other hne => Table.get_insert_of_ne _ _ hne
    have hwritten : ∀ (bytes : Bytes) (other : String), other ≠ path →
        ((w.files.insert path (.file [])).insert path (.file bytes))[other]? =
          w.files[other]? := by
      intro bytes other hne
      rw [Table.get_insert_of_ne _ _ hne]
      exact hcreated other hne
    refine keeps_andThen (keeps_onFiles.mpr ⟨hI _ (.elsewhere hfree hcreated), ?_⟩)
    rintro answer files (⟨rfl, rfl⟩ | ⟨⟨e, rfl, -⟩, written, -, rfl⟩)
    · have hkept := KeepsFiles.elsewhere hfree (hwritten content)
      refine keeps_andThen (keeps_onFiles.mpr ⟨hI _ hkept, ?_⟩)
      rintro answer files ⟨rfl, ⟨e, rfl, -⟩ | rfl⟩
      · exact hremoved e _ (hwritten content)
      · exact keeps_pure.mpr ⟨_, rfl, hkept⟩
    · exact hremoved e _ (hwritten written)

def Truthful (host : Host) (record : PermitRecord) (w : World) : Prop :=
  match record.state with
  | .issued | .aborted =>
    HasDigest host w.files record.permit.targetPath record.permit.targetPreimageDigest
  | .committed =>
    HasDigest host w.files record.permit.targetPath record.permit.targetPostimageDigest
  | .recoveryRequired => (w.ledger.fencedRoots[record.permit.repoPath]?).isSome = true
  | _ => True

structure Settled (host : Host) (id : String) (stored : Permit) (w : World) : Prop where
  record : ∃ record, w.ledger.permits[id]? = some record ∧ record.permit = stored ∧
    Truthful host record w
  alone : ∀ (other : String) (record : PermitRecord), w.ledger.permits[other]? = some record →
    other ≠ id → record.state.isMutation = true →
      record.permit.targetPath ≠ stored.targetPath

def Standing (id : String) (stored : Permit) (state : PermitState) (w : World) : Prop :=
  ∃ record, w.ledger.permits[id]? = some record ∧ record.permit = stored ∧ record.state = state

theorem Truthful.of_mutation {record : PermitRecord} (h : record.state.isMutation = true) :
    Truthful host record w := by
  unfold Truthful
  split <;> simp_all [PermitState.isMutation]

section

variable {id : String} {stored : Permit} {w' : World} {updated : PermitRecord}

section

variable (h : Settled host id stored w)

include h

theorem Settled.update
    (hpermits : w'.ledger.permits = w.ledger.permits.insert id updated)
    (hpermit : updated.permit = stored) (htruth : Truthful host updated w') :
    Settled host id stored w' := by
  refine ⟨⟨updated, by simp [hpermits], hpermit, htruth⟩, ?_⟩
  intro other record hfound hne hmutation
  rw [hpermits, Table.get_insert_of_ne _ _ hne] at hfound
  exact h.alone other record hfound hne hmutation

theorem Settled.files {files : Table Node}
    (hkept : ∀ content, w.files[stored.targetPath]? = some (.file content) →
      files[stored.targetPath]? = some (.file content)) :
    Settled host id stored { w with files } := by
  obtain ⟨record, hfound, hpermit, htruth⟩ := h.record
  refine ⟨⟨record, hfound, hpermit, ?_⟩, h.alone⟩
  rw [← hpermit] at hkept
  unfold Truthful at htruth ⊢
  split at htruth
  · obtain ⟨content, hcontent, hdigest⟩ := htruth
    exact ⟨content, hkept content hcontent, hdigest⟩
  · obtain ⟨content, hcontent, hdigest⟩ := htruth
    exact ⟨content, hkept content hcontent, hdigest⟩
  · obtain ⟨content, hcontent, hdigest⟩ := htruth
    exact ⟨content, hkept content hcontent, hdigest⟩
  · exact htruth
  · trivial

theorem Settled.anyFiles {state : PermitState}
    (hstanding : Standing id stored state w) (hmutation : state.isMutation = true)
    (files : Table Node) : Settled host id stored { w with files } := by
  obtain ⟨record, hfound, hpermit, hstate⟩ := hstanding
  rw [← hstate] at hmutation
  exact ⟨⟨record, hfound, hpermit, .of_mutation hmutation⟩, h.alone⟩

theorem Settled.closing {record : PermitRecord}
    (hroot : stored.repoPath ≠ "") (hpermit : record.permit = stored)
    (hclosing : Closing host id record w w') : Settled host id stored w' := by
  cases hclosing with
  | aborted hrestored hdigest hmove =>
    refine h.update rfl (hmove.permit.trans hpermit) ?_
    rw [Truthful, hmove.state, hmove.permit]
    exact hdigest
  | @fenced files updated terminal now reason hrestored hmove =>
    have hnonempty : record.permit.repoPath ≠ "" := by
      rw [hpermit]
      exact hroot
    refine h.update ?_ (hmove.permit.trans hpermit) ?_
    · simp [Ledger.withFence, hnonempty, Ledger.withRecord]
    · rw [Truthful, hmove.state, hmove.permit]
      simp [Ledger.withFence, hnonempty, Ledger.withRecord]

end

variable {err : PyError → World → Prop} {repoPath : String} {candidate : Candidate}

theorem keeps_tryThen {α β : Type} {classes : List ErrorClass} {body : Py α}
    {next : Except PyError α → Py β} {ok : β → World → Prop}
    (h : Keeps (worldStep host) I body
      (ends (fun a t => Keeps (worldStep host) I (next (.ok a)) (ends ok err) t)
        fun e t => Keeps (worldStep host) I (next (.error e)) (ends ok err) t ∧ err e t) w) :
    Keeps (worldStep host) I (tryExcept classes body >>= next : Py β) (ends ok err) w := by
  refine keeps_andThen (keeps_tryExcept (keeps_mono h (fun _ _ hnext => hnext) ?_))
  rintro e t ⟨hnext, herr⟩
  split
  · exact hnext
  · exact herr

theorem transition_settles {expectedState newState : PermitState} {details : Option Dict}
    (h : Settled host id stored w) (hmutation : newState.isMutation = true) :
    Keeps (worldStep host) (Settled host id stored)
      (transitionPermit id expectedState newState details none)
      (ends (fun _ t => Settled host id stored t ∧ Standing id stored newState t ∧
          t.files = w.files) fun _ t => t = w) w := by
  refine transitionPermit_keeps h ?_ fun _ => rfl
  intro record updated now hfound _ hmove
  obtain ⟨current, hcurrent, hpermit, -⟩ := h.record
  rw [hfound] at hcurrent
  rw [← Option.some.inj hcurrent] at hpermit
  have hupdated : updated.permit = stored := hmove.permit.trans hpermit
  refine ⟨h.update rfl hupdated ?_, ⟨updated, ?_, hupdated, hmove.state⟩, rfl⟩
  · refine .of_mutation ?_
    rw [hmove.state]
    exact hmutation
  · simp [Ledger.withRecord]

theorem abort_settles {state : PermitState} {reason : String} {tests : List Json}
    (h : Settled host id stored w) (hroot : stored.repoPath ≠ "") (hid : stored.permitId = id)
    (hstanding : Standing id stored state w) (hmutation : state.isMutation = true) :
    Keeps (worldStep host) (Settled host id stored)
      (abortWithRestoration host stored state reason tests)
      (ends (fun _ t => Settled host id stored t) fun _ t => Settled host id stored t) w := by
  have hfiles := h.anyFiles hstanding hmutation
  obtain ⟨record, hfound, hpermit, rfl⟩ := hstanding
  rw [← hid] at hfound
  refine keeps_mono (abortWithRestoration_keeps hfound hpermit hmutation
    fun files _ => hfiles files) ?_ fun _ _ hfalse => hfalse.elim
  intro _ t hclosing
  rw [hid] at hclosing
  exact h.closing hroot hpermit hclosing

theorem runTestCommand_keeps {arguments : List String} {ok : CompletedProcess → World → Prop}
    (hI : I w) (hok : ∀ completed files, ok completed { w with files })
    (herr : ∀ e files, err e { w with files }) :
    Keeps (worldStep host) I (runTestCommand arguments repoPath) (ends ok err) w := by
  refine keeps_call.mpr ⟨hI, ?_⟩
  rintro answer _ ⟨files, -, rfl⟩
  refine keeps_ret.mpr ?_
  cases answer with
  | ok completed => exact hok completed files
  | error e => exact herr e files

theorem runTestCommands_settles (hroot : stored.repoPath ≠ "") (hid : stored.permitId = id)
    (commands : List (List String)) (results : List Json) (w : World)
    (h : Settled host id stored w) (hstanding : Standing id stored .verifying w) :
    Keeps (worldStep host) (Settled host id stored)
      (runTestCommands host stored repoPath commands results)
      (ends
        (fun outcome t => Settled host id stored t ∧
          ((∃ results, outcome = .passed results) → Standing id stored .verifying t))
        fun _ t => Settled host id stored t) w := by
  induction commands generalizing results w with
  | nil => exact keeps_pure.mpr ⟨h, fun _ => hstanding⟩
  | cons arguments rest ih =>
    -- whatever the command does to the files, the permit stays where it is
    have hfiles := h.anyFiles hstanding rfl
    have hfailed : ∀ reason tests files, Keeps (worldStep host) (Settled host id stored)
        (do
          let result ← abortWithRestoration host stored .verifying reason tests
          return TestOutcome.aborted result : Py TestOutcome)
        (ends
          (fun outcome t => Settled host id stored t ∧
            ((∃ results, outcome = .passed results) → Standing id stored .verifying t))
          fun _ t => Settled host id stored t) { w with files } := by
      intro reason tests files
      refine keeps_andThen (keeps_mono
        (abort_settles (hfiles files) hroot hid hstanding rfl) ?_ fun _ _ ht => ht)
      intro result t ht
      refine keeps_pure.mpr ⟨ht, ?_⟩
      rintro ⟨_, hpassed⟩
      cases hpassed
    refine keeps_tryThen (runTestCommand_keeps h ?_ ?_)
    · intro completed files
      show Keeps _ _ (ite _ _ _) _ _
      split
      · exact hfailed _ _ files
      · exact ih _ _ (hfiles files) hstanding
    · intro e files
      exact ⟨hfailed _ _ files, hfiles files⟩

variable {task : PatchTask} {receipt : Dict}

theorem commitPatch_settles {results : List Json} (hroot : stored.repoPath ≠ "")
    (hid : stored.permitId = id) (htarget : task.targetPath = stored.targetPath)
    (h : Settled host id stored w) (hstanding : Standing id stored .verifying w) :
    Keeps (worldStep host) (Settled host id stored) (commitPatch host stored task receipt results)
      (ends (fun _ t => Settled host id stored t) fun _ t => Settled host id stored t) w := by
  have habort := @abort_settles host w id stored .verifying
    "repo patch target drifted during bounded verification" results h hroot hid hstanding rfl
  refine keeps_tryThen (keeps_andThen (keeps_onFiles.mpr ⟨h, ?_⟩))
  rintro answer files ⟨rfl, ⟨e, rfl, -⟩ | rfl⟩
  · exact ⟨habort, h⟩
  show Keeps _ _ (ite _ _ _) _ _
  split
  · exact keeps_pure.mpr habort
  · next hlinked =>
    have hnotLink : ¬ w.files[task.targetPath]? = some .link := by simpa using hlinked
    refine keeps_andThen (fileDigest_keeps h ?_ fun e _ => ⟨habort, h⟩)
    intro content hcontent
    refine keeps_pure.mpr ?_
    cases hverified : bytesDigest host.sha content == stored.targetPostimageDigest with
    | false => exact habort
    | true =>
      have hpostimage : HasDigest host w.files stored.targetPath
          stored.targetPostimageDigest := by
        rw [← htarget]
        exact ⟨content, hcontent.resolve_right hnotLink, eq_of_beq hverified⟩
      dsimp only
      split
      · exact keeps_ofExcept.mpr h
      · refine keeps_andThen (fileDigest_keeps h (fun again _ => ?_) fun _ _ => h)
        rw [hid]
        refine keeps_andThen (transitionPermit_keeps h ?_ fun _ => h)
        intro record updated now hfound _ hmove
        obtain ⟨current, hcurrent, hpermit, -⟩ := hstanding
        rw [hfound] at hcurrent
        rw [← Option.some.inj hcurrent] at hpermit
        have hupdated : updated.permit = stored := hmove.permit.trans hpermit
        refine keeps_pure.mpr (h.update rfl hupdated ?_)
        rw [Truthful, hmove.state, hupdated]
        exact hpostimage

theorem verifyPatch_settles (hroot : stored.repoPath ≠ "") (hid : stored.permitId = id)
    (htarget : task.targetPath = stored.targetPath) (h : Settled host id stored w)
    (hstanding : Standing id stored .applied w) :
    Keeps (worldStep host) (Settled host id stored) (verifyPatch host stored task receipt)
      (ends (fun _ t => Settled host id stored t) fun _ t => Settled host id stored t) w := by
  refine keeps_andThen (fileDigest_keeps h (fun content _ => ?_) fun _ _ => h)
  show Keeps _ _ (ite _ _ _) _ _
  split
  · exact abort_settles h hroot hid hstanding rfl
  · rw [hid]
    refine keeps_andThen (keeps_mono (transition_settles h rfl) ?_ ?_)
    · rintro _ t ⟨ht, hverifying, -⟩
      refine keeps_andThen (keeps_mono
        (runTestCommands_settles hroot hid task.commands [] t ht hverifying) ?_
        fun _ _ hdone => hdone)
      rintro outcome u ⟨hu, hpassed⟩
      cases outcome with
      | aborted result => exact keeps_pure.mpr hu
      | passed results =>
        exact commitPatch_settles hroot hid htarget hu (hpassed ⟨results, rfl⟩)
    · rintro e t ht
      subst t
      exact h

theorem applyPatch_settles (hroot : stored.repoPath ≠ "") (hid : stored.permitId = id)
    (htarget : task.targetPath = stored.targetPath) (h : Settled host id stored w) :
    Keeps (worldStep host) (Settled host id stored) (applyPatch host stored task receipt)
      (ends (fun _ t => Settled host id stored t) fun _ t => Settled host id stored t) w := by
  unfold applyPatch
  rw [hid]
  refine keeps_andThen (keeps_mono (transition_settles h rfl) ?_ ?_)
  · rintro _ t ⟨ht, hstanding, -⟩
    have hfiles := ht.anyFiles hstanding rfl
    refine keeps_tryThen (keeps_andThen (keeps_onFiles.mpr ⟨ht, ?_⟩))
    rintro answer files ⟨rfl, ⟨e, rfl, -⟩ | rfl⟩
    · exact ⟨abort_settles ht hroot hid hstanding rfl, ht⟩
    show Keeps _ _ (ite _ _ _) _ _
    split
    · exact keeps_pure.mpr (abort_settles ht hroot hid hstanding rfl)
    refine keeps_andThen (fileDigest_keeps ht ?_
      fun _ _ => ⟨abort_settles ht hroot hid hstanding rfl, ht⟩)
    intro content _
    refine keeps_pure.mpr ?_
    cases bytesDigest host.sha content != stored.targetPreimageDigest with
    | true => exact abort_settles ht hroot hid hstanding rfl
    | false =>
      refine keeps_tryThen (keeps_onFiles.mpr ⟨ht, ?_⟩)
      rintro answer files (⟨⟨e, rfl, -⟩, rfl⟩ | ⟨-, rfl, ⟨e, rfl, -⟩ | rfl⟩)
      · exact ⟨abort_settles ht hroot hid hstanding rfl, ht⟩
      · exact ⟨abort_settles (hfiles _) hroot hid hstanding rfl, hfiles _⟩
      · refine keeps_andThen (keeps_mono (transition_settles (hfiles _) rfl) ?_ ?_)
        · rintro _ u ⟨hu, happlied, -⟩
          exact verifyPatch_settles hroot hid htarget hu happlied
        · rintro e u hu
          subst u
          exact hfiles _
  · rintro e t ht
    subst t
    exact h

variable {attached parameters : Dict} {decision : Decision} {idempotencyKey : String}

theorem permitOfDict_id {permit : Permit} (h : permitOfDict? attached = some permit)
    (hattached : attached.get? "permit_id" = some (.str id)) : permit.permitId = id := by
  unfold permitOfDict? at h
  split at h
  · rw [← Option.some.inj h]
    simp [permitFields, textAt, hattached]
  · cases h

theorem consumeAttached_settles (hattached : attached.get? "permit_id" = some (.str id))
    (h : Settled host id stored w) :
    Keeps (worldStep host) (Settled host id stored)
      (consumeAttached host attached decision idempotencyKey parameters)
      (ends
        (fun consumed t => Settled host id stored t ∧ consumed.1 = stored ∧
          stored.permitId = id ∧
          ∃ root, bindingPaths host parameters = some (root, stored.targetPath))
        fun _ t => t = w) w := by
  unfold consumeAttached
  split
  · next permit hpermit =>
    have hpermitId := permitOfDict_id hpermit hattached
    refine keeps_andThen (consumePermit_keeps h ?_ fun _ => rfl)
    intro receipt record updated now root hpaths hfound hbound hmove
    obtain ⟨current, hcurrent, hstored, -⟩ := h.record
    rw [hpermitId, hcurrent] at hfound
    rw [Option.some.inj hfound, hbound] at hstored
    subst hstored
    refine keeps_pure.mpr ⟨?_, rfl, hpermitId, root, hpaths⟩
    refine h.update ?_ (hmove.permit.trans hbound) (.of_mutation ?_)
    · rw [← hpermitId]
      rfl
    · rw [hmove.state]
      rfl
  · refine keeps_andThen (keeps_ofExcept.mpr ?_)
    cases requireAuthorityConfiguration host.permits with
    | error e => rfl
    | ok _ => exact keeps_ofExcept.mpr rfl

theorem runTransaction_settles (hroot : stored.repoPath ≠ "")
    (hattached : attached.get? "permit_id" = some (.str id))
    (hpaths : bindingPaths host parameters = some (task.repoPath, task.targetPath))
    (h : Settled host id stored w) :
    Keeps (worldStep host) (Settled host id stored)
      (runTransaction host attached decision idempotencyKey parameters id task)
      (ends (fun _ t => Settled host id stored t) fun _ t => Settled host id stored t) w := by
  have hkept : ∀ files, KeepsFiles w.files files → Settled host id stored { w with files } :=
    fun files hfiles => h.files fun content hcontent => hfiles _ content hcontent
  refine keeps_tryThen (keeps_andThen (keeps_mono (writeImmutableBackup_keeps hkept) ?_ ?_))
  · rintro _ _ ⟨files, rfl, hfiles⟩
    have hbackup := hkept files hfiles
    refine keeps_mono (transition_settles hbackup rfl) ?_ ?_
    · rintro _ t ⟨ht, -, -⟩
      refine keeps_tryThen (keeps_mono (consumeAttached_settles hattached ht) ?_ ?_)
      · rintro ⟨permit, receipt⟩ u ⟨hu, rfl, hid, root, htarget⟩
        rw [hpaths] at htarget
        exact applyPatch_settles hroot hid (Prod.mk.inj (Option.some.inj htarget)).2 hu
      · rintro e u hu
        subst u
        exact ⟨keeps_pure.mpr ht, ht⟩
    · rintro e t ht
      subst t
      exact ⟨keeps_pure.mpr hbackup, hbackup⟩
  · rintro e _ ⟨files, rfl, hfiles⟩
    exact ⟨keeps_pure.mpr (hkept files hfiles), hkept files hfiles⟩

theorem bindTarget_keeps (hI : I w) :
    Keeps (worldStep host) I (bindTarget host attached parameters)
      (ends
        (fun outcome t => t = w ∧ ∀ repoPath targetPath postimage,
          outcome = .ok (repoPath, targetPath, postimage) →
            bindingPaths host parameters = some (repoPath, targetPath))
        fun _ t => t = w) w := by
  have hfailure : ∀ failure : Dict, Keeps (worldStep host) I
      (pure (.error failure) : Py (Except Dict (String × String × Bytes)))
      (ends
        (fun outcome t => t = w ∧ ∀ repoPath targetPath postimage,
          outcome = .ok (repoPath, targetPath, postimage) →
            bindingPaths host parameters = some (repoPath, targetPath))
        fun _ t => t = w) w :=
    fun failure => keeps_pure.mpr ⟨rfl, fun _ _ _ hok => by cases hok⟩
  refine keeps_tryThen (keeps_andThen (keeps_mono (repoPatchTargetBinding_keeps hI) ?_ ?_))
  · rintro ⟨repoPath, targetPath, preimageDigest⟩ t ⟨ht, hpaths⟩
    subst t
    show Keeps _ _ (ite _ _ _) _ _
    split
    · exact keeps_pure.mpr (hfailure _)
    · refine keeps_andThen (keeps_mono (readPostimage_keeps hI) ?_ ?_)
      · rintro ⟨postimage, postimageDigest⟩ t ht
        subst t
        show Keeps _ _ (ite _ _ _) _ _
        split
        · exact keeps_pure.mpr (hfailure _)
        · refine keeps_pure.mpr (keeps_pure.mpr ⟨rfl, ?_⟩)
          rintro _ _ _ ⟨rfl⟩
          exact hpaths
      · rintro e t ht
        subst t
        exact ⟨hfailure _, rfl⟩
  · rintro e t ht
    subst t
    exact ⟨hfailure _, rfl⟩

theorem executeBound_settles (hroot : stored.repoPath ≠ "")
    (hattached : attached.get? "permit_id" = some (.str id)) (h : Settled host id stored w) :
    Keeps (worldStep host) (Settled host id stored)
      (executeBound host attached decision idempotencyKey parameters)
      (ends (fun _ t => Settled host id stored t) fun _ t => Settled host id stored t) w := by
  refine keeps_andThen (keeps_mono (bindTarget_keeps h) ?_ ?_)
  · rintro outcome t ⟨ht, hbound⟩
    subst t
    cases outcome with
    | error failure => exact keeps_pure.mpr h
    | ok bound =>
      have hpaths := hbound _ _ _ rfl
      show Keeps _ _ (ite _ _ _) _ _
      split
      · exact keeps_pure.mpr h
      refine keeps_tryThen (keeps_ofExcept.mpr ?_)
      cases authorizeTestCommands host ((parameters.get? "test_commands").getD (.arr [])) with
      | error e => exact ⟨keeps_pure.mpr h, h⟩
      | ok commands =>
        refine keeps_tryThen (keeps_onFiles.mpr ⟨h, ?_⟩)
        rintro answer files ⟨rfl, ⟨e, rfl, -⟩ | ⟨original, rfl, -⟩⟩
        · exact ⟨keeps_pure.mpr h, h⟩
        refine keeps_andThen (fileDigest_keeps h (fun content _ => ?_) fun _ _ => h)
        refine keeps_andThen (keeps_ofExcept.mpr ?_)
        cases requireKey attached "target_preimage_digest" with
        | error e => exact h
        | ok preimageDigest =>
          show Keeps _ _ (ite _ _ _) _ _
          split
          · exact keeps_pure.mpr h
          refine keeps_andThen (keeps_ofExcept.mpr ?_)
          have hpermitId : attachedPermitId attached = .ok id := by
            simp [attachedPermitId, requireKey, hattached, pure, Except.pure]
          rw [hpermitId]
          exact runTransaction_settles hroot hattached hpaths h
  · rintro e t ht
    subst t
    exact h

/-- **The executor settles.**  Wherever `execute_patch` is cut off, and when it
returns or raises, its permit is settled. -/
theorem executePatch_settles {resolved : Option Dict} (hroot : stored.repoPath ≠ "")
    (hpermit : executionPermit? decision = some attached)
    (hattached : attached.get? "permit_id" = some (.str id)) (h : Settled host id stored w) :
    Keeps (worldStep host) (Settled host id stored)
      (executePatch host decision idempotencyKey resolved)
      (ends (fun _ t => Settled host id stored t) fun _ t => Settled host id stored t) w := by
  refine keeps_andThen (keeps_ofExcept.mpr ?_)
  cases repoPatchAdmissionFailure host decision with
  | error e => exact h
  | ok failure =>
    cases failure with
    | some failure => exact keeps_pure.mpr h
    | none =>
      simp only [ends, hpermit]
      split
      · exact keeps_pure.mpr h
      refine keeps_tryThen (keeps_onLedger.mpr ⟨h, ?_, fun e _ => ⟨keeps_pure.mpr h, h⟩⟩)
      intro terminal ledger hcall
      obtain ⟨_, -, heq⟩ := map_snd_ok hcall
      obtain ⟨-, rfl⟩ := Prod.mk.inj heq
      cases terminal with
      | some result => exact keeps_pure.mpr h
      | none => exact executeBound_settles hroot hattached h

/-- What a recovery round leaves behind of the target of the permit. -/
theorem Settled.restoring {files : Table Node} (h : Settled host id stored w)
    (hfound : w.ledger.permits[candidate.permitId]? = some candidate.record)
    (hrestoring : Restoring host candidate.record.permit w.files files) :
    Settled host id stored { w with files } := by
  by_cases hid : candidate.permitId = id
  · obtain ⟨record, hrecord, hpermit, -⟩ := h.record
    rw [hid, hrecord] at hfound
    refine h.anyFiles ⟨record, hrecord, hpermit, rfl⟩ ?_ files
    rw [Option.some.inj hfound]
    exact candidate.incomplete
  · have hother := h.alone _ _ hfound hid candidate.incomplete
    refine h.files fun content hcontent => ?_
    rw [hrestoring.elsewhere hother.symm]
    exact hcontent

theorem Settled.closing_any (h : Settled host id stored w) (hroot : stored.repoPath ≠ "")
    (hfound : w.ledger.permits[candidate.permitId]? = some candidate.record)
    (hclosing : Closing host candidate.permitId candidate.record w w') :
    Settled host id stored w' := by
  by_cases hid : candidate.permitId = id
  · obtain ⟨record, hrecord, hpermit, -⟩ := h.record
    rw [hid] at hfound hclosing
    rw [hrecord] at hfound
    rw [Option.some.inj hfound] at hpermit
    exact h.closing hroot hpermit hclosing
  · obtain ⟨updated, hpermits, hclosed, -⟩ := hclosing.permits
    have hne : id ≠ candidate.permitId := fun heq => hid heq.symm
    -- the files after the round, with the ledger before it
    obtain ⟨record, hrecord, hpermit, htruth⟩ := (show Settled host id stored
        { w with files := w'.files } by
      cases hclosing with
      | aborted hrestored _ _ => exact h.restoring hfound hrestored
      | fenced hrestored _ => exact h.restoring hfound hrestored).record
    refine ⟨⟨record, ?_, hpermit, ?_⟩, ?_⟩
    · rw [hpermits, Table.get_insert_of_ne _ _ hne]
      exact hrecord
    · unfold Truthful at htruth ⊢
      split at htruth
      · exact htruth
      · exact htruth
      · exact htruth
      · cases hclosing with
        | aborted _ _ _ => exact htruth
        | fenced _ _ =>
          unfold Ledger.withFence
          split
          · exact htruth
          · rw [Table.get_insert]
            split
            · rfl
            · exact htruth
      · trivial
    · intro other record hother hdifferent hmutation
      rw [hpermits, Table.get_insert] at hother
      split at hother
      · rw [← Option.some.inj hother, hclosed] at hmutation
        cases hmutation
      · exact h.alone other record hother hdifferent hmutation

/-- **Recovery settles.**  Wherever a recovery is cut off the permit is settled,
and one that returns leaves nothing pending. -/
theorem recovery_settles (hroot : stored.repoPath ≠ "") (h : Settled host id stored w) :
    Keeps (worldStep host) (Settled host id stored) (recoverIncompleteActions host)
      (ends (fun _ t => Settled host id stored t ∧ Pending [] t.ledger) fun _ _ => False) w :=
  recoverIncompleteActions_keeps h h
    (fun _ _ _ hsettled hfound hrestoring => hsettled.restoring hfound hrestoring)
    fun _ _ _ hsettled hfound hclosing => hsettled.closing_any hroot hfound hclosing

end

theorem world_answers (host : Host) (op : Section) (w : World) :
    ∃ answer w', worldStep host op w answer w' := by
  have hquiet := @scripted_step host (fun _ _ => True) _ (quiet 0 0) op w
  cases hanswer : scripted host (fun _ _ => True) (quiet 0 0) op w with
  | some pair => exact ⟨pair.1, pair.2, (hquiet pair.1 pair.2 hanswer).1⟩
  | none =>
    cases op with
    | authority call =>
      simp only [scripted] at hanswer
      split at hanswer <;> cases hanswer
    | ledger call =>
      simp only [scripted, if_true] at hanswer
      split at hanswer <;> cases hanswer
    | promote idempotencyKey permitId prepared =>
      simp only [scripted] at hanswer
      split at hanswer
      · split at hanswer <;> cases hanswer
      · cases hanswer
    | now | token | authorityClock | file call | consult question => cases hanswer

/-- A recovery was started and cut off, or came to its end. -/
def RecoveryAttempt (host : Host) (w w' : World) : Prop :=
  ∃ trace rest, Runs (worldStep host) (recoverIncompleteActions host) w trace rest w'

/-- How a transaction may end: committed with the postimage, aborted or never
started with the preimage, or given up on a fenced root. -/
def TransactionEnd (host : Host) (id : String) (permit : Permit) (w : World) : Prop :=
  ∃ record, w.ledger.permits[id]? = some record ∧ record.permit = permit ∧
    (record.state = .committed ∧
        HasDigest host w.files permit.targetPath permit.targetPostimageDigest ∨
      (record.state = .aborted ∨ record.state = .issued) ∧
        HasDigest host w.files permit.targetPath permit.targetPreimageDigest ∨
      record.state = .recoveryRequired ∧
        (w.ledger.fencedRoots[permit.repoPath]?).isSome = true)

theorem Settled.transactionEnd {id : String} {stored : Permit}
    (h : Settled host id stored w) (hpending : Pending [] w.ledger) :
    TransactionEnd host id stored w := by
  obtain ⟨record, hfound, hpermit, htruth⟩ := h.record
  refine ⟨record, hfound, hpermit, ?_⟩
  have hclosed : ¬ record.state.isMutation = true := by
    intro hmutation
    obtain ⟨_, hnone, -⟩ := hpending.complete id record hfound hmutation
    cases hnone
  unfold Truthful at htruth
  rw [hpermit] at htruth
  cases hstate : record.state with
  | committed =>
    rw [hstate] at htruth
    exact .inl ⟨rfl, htruth⟩
  | aborted =>
    rw [hstate] at htruth
    exact .inr (.inl ⟨.inl rfl, htruth⟩)
  | issued =>
    rw [hstate] at htruth
    exact .inr (.inl ⟨.inr rfl, htruth⟩)
  | recoveryRequired =>
    rw [hstate] at htruth
    exact .inr (.inr ⟨rfl, htruth⟩)
  | prepared => simp [hstate, PermitState.isMutation] at hclosed
  | claimed => simp [hstate, PermitState.isMutation] at hclosed
  | applying => simp [hstate, PermitState.isMutation] at hclosed
  | applied => simp [hstate, PermitState.isMutation] at hclosed
  | verifying => simp [hstate, PermitState.isMutation] at hclosed

/-- **Crash atomicity.**  Wherever `execute_patch` and recoveries are cut off, a recovery can run
to its end, and any that does leaves the transaction at one of its ends for good. -/
theorem patch_transaction_crash_atomic (host : Host) {decision : Decision}
    {idempotencyKey id : String} {resolved : Option Dict} {attached : Dict}
    {record : PermitRecord} {w w₁ w₂ : World} (hpermit : executionPermit? decision = some attached)
    (hid : attached.get? "permit_id" = some (.str id))
    (hfound : w.ledger.permits[id]? = some record) (hissued : record.state = .issued)
    (hroot : record.permit.repoPath ≠ "")
    (htarget : HasDigest host w.files record.permit.targetPath
      record.permit.targetPreimageDigest)
    (halone : ∀ (other : String) (incomplete : PermitRecord),
      w.ledger.permits[other]? = some incomplete → other ≠ id →
      incomplete.state.isMutation = true →
        incomplete.permit.targetPath ≠ record.permit.targetPath)
    {trace : List WorldEvent} {rest : Program (Except PyError Dict)}
    (hcrash : Runs (worldStep host) (executePatch host decision idempotencyKey resolved) w trace
      rest w₁)
    (hattempts : Relation.ReflTransGen (RecoveryAttempt host) w₁ w₂) :
    (∃ trace outcome w₃, Runs (worldStep host) (recoverIncompleteActions host) w₂ trace
      (.ret outcome) w₃) ∧
    ∀ trace outcome w₃, Runs (worldStep host) (recoverIncompleteActions host) w₂ trace
      (.ret outcome) w₃ →
        (∃ recovered, outcome = .ok recovered) ∧
          TransactionEnd host id record.permit w₃ ∧
          ∀ w₄, RecoveryAttempt host w₃ w₄ → w₄ = w₃ := by
  have hstart : Settled host id record.permit w := by
    refine ⟨⟨record, hfound, rfl, ?_⟩, halone⟩
    rw [Truthful, hissued]
    exact htarget
  have hcut : Settled host id record.permit w₁ := by
    refine (executePatch_settles hroot hpermit hid hstart).cut ?_ hcrash
    rintro (e | result) t ht
    · exact ht
    · exact ht
  have hbefore : Settled host id record.permit w₂ := by
    induction hattempts with
    | refl => exact hcut
    | tail _ hattempt ih =>
      obtain ⟨_, _, hruns⟩ := hattempt
      refine (recovery_settles hroot ih).cut ?_ hruns
      rintro (e | recovered) t ht
      · exact ht.elim
      · exact ht.1
  refine ⟨Runs.total (world_answers host) _ w₂, ?_⟩
  intro trace outcome w₃ hruns
  have hdone := keeps_ret.mp ((recovery_settles hroot hbefore).runs hruns)
  cases outcome with
  | error e => exact hdone.elim
  | ok recovered =>
    obtain ⟨hsettled, hpending⟩ := hdone
    refine ⟨⟨recovered, rfl⟩, hsettled.transactionEnd hpending, ?_⟩
    rintro w₄ ⟨_, _, hagain⟩
    refine (recoverIncompleteActions_idle hpending).cut ?_ hagain
    rintro (e | again) t ht
    · exact ht.elim
    · exact ht

def patchPermit : Permit :=
  { (default : Permit) with
    permitId := "permit-1"
    idempotencyKey := "d1:patch"
    repoPath := "/r"
    targetPath := "/r/a"
    targetPreimageDigest := bytesDigest checksumHash [98]
    targetPostimageDigest := bytesDigest checksumHash [99] }

def issuedWorld : World := { sampleWorld with ledger := Ledger.empty.withIssued patchPermit 0 }

def patchDecision : Decision :=
  { sampleDecision "d1" with
    parameters := (sampleDecision "d1").parameters.set hsaiExecutionContextKey
      (.obj [("execution_permit", .obj patchPermit.toDict)]) }

/-- The executor is cut off right after the permit is prepared, and every
recovery takes the transaction to one of its ends. -/
theorem patch_transaction_crash_atomic_sample :
    ∃ trace rest w₁, Runs (worldStep sampleHost)
        (executePatch sampleHost patchDecision "d1:patch" none) issuedWorld trace rest w₁ ∧
      (w₁.ledger.permits["permit-1"]?.map (·.state)) = some .prepared ∧
      ∀ trace outcome w₂, Runs (worldStep sampleHost) (recoverIncompleteActions sampleHost) w₁
        trace (.ret outcome) w₂ → TransactionEnd sampleHost "permit-1" patchPermit w₂ := by
  have hexec : (Prog.exec (scripted sampleHost (fun _ _ => True) (quiet 0 1)) 15
      (executePatch sampleHost patchDecision "d1:patch" none : Program (Except PyError Dict))
      issuedWorld).any (fun cut => decide
        ((cut.2.ledger.permits["permit-1"]?.map (·.state)) = some .prepared)) = true := by
    decide +kernel
  obtain ⟨⟨rest, w₁⟩, hcut, hstate⟩ := (Option.any_eq_true _ _).mp hexec
  obtain ⟨trace, hruns⟩ := Prog.exec_runs
    (fun op s r s' h => (scripted_step op s r s' h).1) hcut
  refine ⟨trace, rest, w₁, hruns, of_decide_eq_true hstate, ?_⟩
  intro trace' outcome w₂ hrecovered
  have hfound : issuedWorld.ledger.permits["permit-1"]? = some (issuedRecord patchPermit 0) :=
    Table.get_insert_self _ _ _
  refine ((patch_transaction_crash_atomic sampleHost rfl rfl hfound rfl (by decide)
    ⟨[98], Table.get_insert_self _ _ _, rfl⟩ ?_ hruns .refl).2 trace' outcome w₂
      hrecovered).2.1
  intro other incomplete hother hne _
  have hnone : issuedWorld.ledger.permits[other]? = none := Table.get_insert_of_ne _ _ hne
  rw [hnone] at hother
  cases hother

end OrbitalMesh
