import OrbitalMesh.Patch.CrashAtomicity

/-!
# Recovery and committed work

`recover_incomplete_actions` decides by digests alone whether the content of a
target is the work of the permit it recovers.  A file keeps its bytes as long as
no incomplete permit on it takes the current content for its own postimage.  A
permit that was left behind and a later one for the same patch have the same
postimage, and then recovery undoes the later one.
-/

namespace OrbitalMesh

open Atomic Atomic.Raising

/-- The incomplete permits on a path whose postimage has the digest of its
content have it as their preimage as well: restoring them changes nothing. -/
def Unclaimed (ledger : Ledger) (path digest : String) : Prop :=
  ∀ (id : String) (record : PermitRecord), ledger.permits[id]? = some record →
    record.state.isMutation = true → record.permit.targetPath = path →
    record.permit.targetPostimageDigest = digest → record.permit.targetPreimageDigest = digest

def NoCollision (host : Host) (files : Table Node) : Prop :=
  ∀ (path path' : String) (content content' : Bytes), files[path]? = some (.file content) →
    files[path']? = some (.file content') →
    bytesDigest host.sha content = bytesDigest host.sha content' → content = content'

def ResolvesLinks (host : Host) (files : Table Node) : Prop :=
  ∀ named, files[host.resolve named]? ≠ some .link

/-- What recovery keeps about a file: it has its content, the incomplete records are those of the
start, and no content or link is new. -/
structure Untouched (w : World) (path : String) (content : Bytes) (v : World) : Prop where
  here : v.files[path]? = some (.file content)
  incomplete : ∀ (id : String) (record : PermitRecord), v.ledger.permits[id]? = some record →
    record.state.isMutation = true → w.ledger.permits[id]? = some record
  contents : ∀ (other : String) (found : Bytes), v.files[other]? = some (.file found) →
    ∃ origin : String, w.files[origin]? = some (.file found)
  links : ∀ other : String, v.files[other]? = some .link → w.files[other]? = some .link

section

variable {host : Host} {w v v' : World} {path : String} {content : Bytes}

theorem Untouched.start (h : w.files[path]? = some (.file content)) : Untouched w path content w :=
  ⟨h, fun _ _ hfound _ => hfound, fun other _ hfound => ⟨other, hfound⟩, fun _ hlink => hlink⟩

variable {candidate : Candidate}

theorem Untouched.restoring {files : Table Node} (h : Untouched w path content v)
    (hunclaimed : Unclaimed w.ledger path (bytesDigest host.sha content))
    (hcollision : NoCollision host w.files) (hresolves : ResolvesLinks host w.files)
    (hfound : v.ledger.permits[candidate.permitId]? = some candidate.record)
    (hrestoring : Restoring host candidate.record.permit v.files files) :
    Untouched w path content { v with files } := by
  cases hrestoring with
  | untouched => exact h
  | @written current backup named htarget hdigest hcopied =>
    have hbackup : v.files[host.resolve named]? = some (.file backup) ∧
        bytesDigest host.sha backup = candidate.record.permit.targetPreimageDigest := by
      rcases hcopied with hfile | hlink
      · exact hfile
      · exact absurd (h.links _ hlink) (hresolves named)
    have horigin := h.contents _ _ hbackup.1
    refine ⟨?_, h.incomplete, ?_, ?_⟩
    · by_cases hpath : path = candidate.record.permit.targetPath
      · -- the content is the preimage of the permit, so the backup is the content
        have hcurrent : current = content := by
          have hhere := h.here
          rw [hpath, htarget] at hhere
          exact Node.file.inj (Option.some.inj hhere)
        rw [hcurrent] at hdigest
        have hpreimage : candidate.record.permit.targetPreimageDigest =
            bytesDigest host.sha content := by
          rcases hdigest with hpre | hpost
          · exact hpre.symm
          · exact hunclaimed _ _ (h.incomplete _ _ hfound candidate.incomplete)
              candidate.incomplete hpath.symm hpost.symm
        obtain ⟨origin, horigin⟩ := horigin
        obtain ⟨start, hstart⟩ := h.contents _ _ h.here
        have hsame : backup = content :=
          hcollision _ _ _ _ horigin hstart (hbackup.2.trans hpreimage)
        rw [hsame, hpath]
        exact Table.get_insert_self _ _ _
      · show (v.files.insert _ _)[path]? = _
        rw [Table.get_insert_of_ne _ _ hpath]
        exact h.here
    · intro other found hother
      rw [Table.get_insert] at hother
      split at hother
      · rw [← Node.file.inj (Option.some.inj hother)]
        exact horigin
      · exact h.contents other found hother
    · intro other hother
      rw [Table.get_insert] at hother
      split at hother
      · cases hother
      · exact h.links other hother

theorem Untouched.closing (h : Untouched w path content v)
    (hunclaimed : Unclaimed w.ledger path (bytesDigest host.sha content))
    (hcollision : NoCollision host w.files) (hresolves : ResolvesLinks host w.files)
    (hfound : v.ledger.permits[candidate.permitId]? = some candidate.record)
    (hclosing : Closing host candidate.permitId candidate.record v v') :
    Untouched w path content v' := by
  obtain ⟨updated, hpermits, hclosed, -⟩ := hclosing.permits
  have hfiles : Untouched w path content { v with files := v'.files } := by
    cases hclosing with
    | aborted hrestored _ _ | fenced hrestored _ =>
      exact h.restoring hunclaimed hcollision hresolves hfound hrestored
  refine ⟨hfiles.here, ?_, hfiles.contents, hfiles.links⟩
  intro id record hrecord hmutation
  rw [hpermits, Table.get_insert] at hrecord
  split at hrecord
  · rw [← Option.some.inj hrecord, hclosed] at hmutation
    cases hmutation
  · exact h.incomplete id record hrecord hmutation

/-- **Committed work is kept** by any recovery where no incomplete permit on the file takes its
content for its own postimage. -/
theorem recovery_keeps_committed_work (host : Host) {w w' : World} {path : String}
    {content : Bytes} {trace : List WorldEvent}
    {rest : Program (Except PyError (List RecoveredAction))}
    (hcontent : w.files[path]? = some (.file content))
    (hunclaimed : Unclaimed w.ledger path (bytesDigest host.sha content))
    (hcollision : NoCollision host w.files) (hresolves : ResolvesLinks host w.files)
    (hruns : Runs (worldStep host) (recoverIncompleteActions host) w trace rest w') :
    w'.files[path]? = some (.file content) := by
  have hstart : Untouched w path content w := .start hcontent
  have hkeeps := recoverIncompleteActions_keeps hstart hstart
    (fun candidate v files (h : Untouched w path content v) hfound hrestoring =>
      h.restoring hunclaimed hcollision hresolves hfound hrestoring)
    (fun candidate v v' h hfound hclosing =>
      h.closing hunclaimed hcollision hresolves hfound hclosing)
  have hcut : Untouched w path content w' := by
    refine hkeeps.cut ?_ hruns
    rintro (e | recovered) t ht
    · exact ht.elim
    · exact ht.1
  exact hcut.here

end

def permitTo (permitId : String) (postimage : Bytes) : Permit :=
  { patchPermit with
    permitId
    targetPostimageDigest := bytesDigest checksumHash postimage }

def committedWorld : World :=
  { sampleWorld with
    ledger :=
      (Ledger.empty.withRecord "permit-1"
        { issuedRecord (permitTo "permit-1" [100]) 0 with
          state := .prepared
          transaction := some [("backup_path", .str "/s/b/x")] }).withRecord "permit-2"
        { issuedRecord (permitTo "permit-2" [99]) 0 with state := .committed }
    files := ((∅ : Table Node).insert "/s/b/x" (.file [98])).insert "/r/a" (.file [99]) }

theorem committedWorld_file {path : String} {node : Node}
    (h : committedWorld.files[path]? = some node) :
    path = "/r/a" ∧ node = .file [99] ∨ path = "/s/b/x" ∧ node = .file [98] := by
  simp only [committedWorld, Table.get_insert, Table.get_empty] at h
  split at h
  · next hpath => exact .inl ⟨hpath, (Option.some.inj h).symm⟩
  · split at h
    · next hpath => exact .inr ⟨hpath, (Option.some.inj h).symm⟩
    · cases h

/-- Recovery gives up on the permit that was left behind, and the committed
patch stays. -/
theorem recovery_keeps_committed_work_sample :
    ∃ trace outcome w', Runs (worldStep sampleHost) (recoverIncompleteActions sampleHost)
        committedWorld trace (.ret outcome) w' ∧
      w'.files["/r/a"]? = some (.file [99]) := by
  obtain ⟨trace, outcome, w', hruns⟩ := Runs.total (world_answers sampleHost)
    (recoverIncompleteActions sampleHost : Program (Except PyError (List RecoveredAction)))
    committedWorld
  refine ⟨trace, outcome, w', hruns, ?_⟩
  have hhere : committedWorld.files["/r/a"]? = some (.file [99]) := Table.get_insert_self _ _ _
  have hdifferent : bytesDigest checksumHash [99] ≠ bytesDigest checksumHash [98] := by
    decide +kernel
  refine recovery_keeps_committed_work sampleHost hhere ?_ ?_ ?_ hruns
  · intro id record hfound hmutation _ hpostimage
    simp only [committedWorld, Ledger.withRecord, Table.get_insert] at hfound
    split at hfound
    · rw [← Option.some.inj hfound] at hmutation
      cases hmutation
    · split at hfound
      · rw [← Option.some.inj hfound] at hpostimage
        exact absurd hpostimage (by decide +kernel)
      · cases hfound
  · intro path path' content content' hcontent hcontent' hdigest
    rcases committedWorld_file hcontent with ⟨-, hnode⟩ | ⟨-, hnode⟩ <;>
      rcases committedWorld_file hcontent' with ⟨-, hnode'⟩ | ⟨-, hnode'⟩ <;>
      rw [Node.file.inj hnode, Node.file.inj hnode'] at hdigest ⊢
    · exact absurd hdigest hdifferent
    · exact absurd hdigest.symm hdifferent
  · intro named hlink
    rcases committedWorld_file hlink with ⟨-, hnode⟩ | ⟨-, hnode⟩ <;> cases hnode

inductive PatchMethod (host : Host) : Program Unit → Prop
  | issue (decision : Decision) (evaluation : EvaluationResult) (gate : Dict)
      (idempotencyKey : String) (ttlSeconds : Int) (permitId authorityNonce : Option String) :
      PatchMethod host (ignored (issuePermit host decision evaluation gate idempotencyKey
        ttlSeconds permitId authorityNonce))
  | execute (decision : Decision) (idempotencyKey : String) (resolved : Option Dict) :
      PatchMethod host (ignored (executePatch host decision idempotencyKey resolved))

def executionDecision (decisionId : String) (permit : Permit) : Decision :=
  match attachHsaiExecutionContext sampleHost (sampleDecision decisionId)
      (sampleGate decisionId) (some permit) with
  | .ok decision => decision
  | .error _ => sampleDecision decisionId

def callAt (token fuel : Nat) (program : Program Unit) :
    ((op : Section) → World → Option (op.Answer × World)) × Nat × Program Unit :=
  (scripted sampleHost (fun _ _ => True) (quiet 0 token), fuel, program)

/-- A permit is issued and its executor dies when the permit is prepared; the
same patch is issued again under another decision. -/
def leftBehind : List (((op : Section) → World → Option (op.Answer × World)) × Nat ×
    Program Unit) :=
  [callAt 1 100 (ignored (issueFor "d1")),
   callAt 1 15 (ignored (executePatch sampleHost
      (executionDecision "d1" (samplePermit "d1" 1)) "d1:patch" none)),
   callAt 2 100 (ignored (issueFor "d2"))]

def repeatedPermit : Permit :=
  match Prog.execAll leftBehind sampleWorld with
  | some w => ((w.ledger.permits["permit_" ++ hex64 2]?).map (·.permit)).getD default
  | none => default

def committedAgain : List (((op : Section) → World → Option (op.Answer × World)) × Nat ×
    Program Unit) :=
  leftBehind ++ [callAt 2 100 (ignored (executePatch sampleHost
    (executionDecision "d2" repeatedPermit) "d2:patch" none))]

def committedSecond (w : World) : Bool :=
  decide ((w.ledger.permits["permit_" ++ hex64 2]?.map (·.state)) = some .committed ∧
    w.files["/r/a"]? = some (.file [99]))

/-- **Recovery undoes a committed patch**: it takes the content for work of a permit left behind. -/
theorem recovery_undoes_committed_work :
    ∃ trace w trace' outcome w', PoolRun (worldStep sampleHost) (PatchMethod sampleHost)
        ⟨[], sampleWorld⟩ trace ⟨[], w⟩ ∧ committedSecond w = true ∧
      Runs (worldStep sampleHost) (recoverIncompleteActions sampleHost) w trace' (.ret outcome)
        w' ∧
      (w'.ledger.permits["permit_" ++ hex64 2]?.map (·.state)) = some .committed ∧
      w'.files["/r/a"]? = some (.file [98]) := by
  have hexec : (Prog.execAll committedAgain sampleWorld).any (fun w => committedSecond w &&
      (Prog.exec (scripted sampleHost (fun _ _ => True) (quiet 0 3)) 100
        (recoverIncompleteActions sampleHost :
          Program (Except PyError (List RecoveredAction))) w).any (fun ended =>
            ended.1.value?.isSome && decide
              ((ended.2.ledger.permits["permit_" ++ hex64 2]?.map (·.state)) = some .committed ∧
                ended.2.files["/r/a"]? = some (.file [98])))) = true := by
    decide +kernel
  obtain ⟨w, hw, hafter⟩ := (Option.any_eq_true _ _).mp hexec
  obtain ⟨hcommitted, hrecovered⟩ := (Bool.and_eq_true _ _).mp hafter
  obtain ⟨⟨program, w'⟩, hended, hundone⟩ := (Option.any_eq_true _ _).mp hrecovered
  obtain ⟨hreturned, hundone⟩ := (Bool.and_eq_true _ _).mp hundone
  have hanswers : ∀ entry ∈ committedAgain, ∀ op s r s', entry.1 op s = some (r, s') →
      worldStep sampleHost op s r s' := by
    simp only [committedAgain, leftBehind, callAt, List.cons_append, List.nil_append,
      List.mem_cons, List.not_mem_nil, or_false, forall_eq_or_imp, forall_eq]
    refine ⟨?_, ?_, ?_, ?_⟩ <;>
      exact fun op s r s' h => (scripted_step op s r s' h).1
  have hstarted : ∀ entry ∈ committedAgain, PatchMethod sampleHost entry.2.2 := by
    simp only [committedAgain, leftBehind, callAt, List.cons_append, List.nil_append,
      List.mem_cons, List.not_mem_nil, or_false, forall_eq_or_imp, forall_eq]
    exact ⟨.issue _ _ _ _ _ _ _, .execute _ _ _, .issue _ _ _ _ _ _ _, .execute _ _ _⟩
  obtain ⟨trace, hrun⟩ := Prog.execAll_poolRun hstarted hanswers hw
  obtain ⟨trace', hruns⟩ := Prog.exec_runs
    (fun op s r s' h => (scripted_step op s r s' h).1) hended
  cases program with
  | call op k => cases hreturned
  | ret outcome =>
    obtain ⟨hstill, hfile⟩ := of_decide_eq_true hundone
    exact ⟨trace, w, trace', outcome, w', hrun, hcommitted, hruns, hstill, hfile⟩

end OrbitalMesh
