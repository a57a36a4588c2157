import OrbitalMesh.Base.Text
import OrbitalMesh.Permit.Ledger

/-!
# Two computations of the postimage

The bytes a patch will leave in its target are computed twice, by different
code.  `repo_patch_postimage` (`shared/mesh_runtime/repo_patch_permits.py`)
binds their digest into the permit; `RepoPatchWorkspaceManager.prepare`
(`services/actuators/repo_patch_workspace.py`) computes the bytes that
`PreparedRepoPatch.promote` writes.  The first reads the target in text mode,
the second decodes its raw bytes.
-/

namespace OrbitalMesh

variable (content : Bytes) (find text : String)

/-- `content.decode("utf-8")`. -/
def decodeUtf8 : Option String := String.fromUTF8? ⟨content.toArray⟩

/-- `text.encode("utf-8")`. -/
def encodeUtf8 : Bytes := text.toUTF8.data.toList

theorem encodeUtf8_injective {left right : String} (h : encodeUtf8 left = encodeUtf8 right) :
    left = right := by
  have harray : left.toUTF8.data = right.toUTF8.data := Array.toList_inj.mp h
  have hbytes : left.toUTF8 = right.toUTF8 := ByteArray.ext harray
  exact String.toByteArray_inj.mp hbytes

/-- `find in text`. -/
def occursIn : Bool := decide (find.toList <:+: text.toList)

/-- `text.replace(find, replacement, 1)`. -/
def replaceOnce (replacement text : String) : String :=
  String.ofList (Text.replaceFirst find.toList replacement.toList text.toList)

def textMode : String := String.ofList (Text.universalNewlines text.toList)

/-- `path.read_text(encoding="utf-8")`, from the bytes read. -/
def readText : Except PyError String :=
  match decodeUtf8 content with
  | some text => .ok (textMode text)
  | none => .error ⟨.unicodeError, "'utf-8' codec can't decode the file"⟩

/-- `raise ValueError(...) from exc` for the listed classes. -/
def rebind {α : Type} (classes : List ErrorClass) (message : String) :
    Except PyError α → Except PyError α
  | .ok a => .ok a
  | .error e => if e.caughtBy classes then valueError (message ++ e.text) else .error e

variable (sha : Sha256)

/-- `repo_patch_postimage`, given the outcome of reading the target: the
postimage and its digest. -/
def repoPatchPostimage (parameters : Dict) (read : Except PyError Bytes) :
    Except PyError (Bytes × String) :=
  match parameters.get? "patch_template" with
  | some (.obj template) => do
    let (original, find, replacement) ←
      rebind [.keyError, .osError, .unicodeError] "repo patch postimage binding failed: " do
        let content ← read
        let original ← readText content
        let find ← requireKey template "find"
        let replacement ← requireKey template "replace"
        return (original, pyStr find, pyStr replacement)
    rejectIf (!occursIn find original)
      ⟨.valueError, "patch anchor not found in target file"⟩
    let postimage := encodeUtf8 (replaceOnce find replacement original)
    return (postimage, bytesDigest sha postimage)
  | _ => valueError "repo patch template is missing"

def maxTargetFileBytes : Nat := 1024 * 1024

def preflightStateSlice : String := "mesh.repo_patch_disposable_worktree.v1"

/-- A test result that `accept_verifier_results` has accepted. -/
structure VerifiedTest where
  argv : List String
  returncode : Int
  stdoutDigest : String
  stderrDigest : String
  stdout_valid : isSha256Digest stdoutDigest = true
  stderr_valid : isSha256Digest stderrDigest = true

/-- A verified `PreparedRepoPatch`. -/
structure PreparedRepoPatch where
  sourceRepo : String
  relativeTarget : String
  baseCommit : String
  baseTree : String
  originalBytes : Bytes
  updatedBytes : Bytes
  changedPaths : List String
  testResults : List VerifiedTest
  verifierReceipt : Option Dict

variable (p : PreparedRepoPatch)

def PreparedRepoPatch.targetPreimageDigest : String :=
  bytesDigest sha p.originalBytes

def PreparedRepoPatch.targetPostimageDigest : String :=
  bytesDigest sha p.updatedBytes

def PreparedRepoPatch.authorizedDiffDigest : String :=
  bytesDigest sha (p.originalBytes ++ [0] ++ p.updatedBytes)

/-- `_preflight_receipt_payload(prepared.receipt())`.  Its checks of the test
results are those that accepted them. -/
def preflightReceiptPayload : Dict :=
  [("state_slice", .str preflightStateSlice),
   ("base_commit", .str p.baseCommit),
   ("base_tree", .str p.baseTree),
   ("target_path", .str p.relativeTarget),
   ("target_preimage_digest", .str (p.targetPreimageDigest sha)),
   ("target_postimage_digest", .str (p.targetPostimageDigest sha)),
   ("authorized_diff_digest", .str (p.authorizedDiffDigest sha)),
   ("changed_paths", .arr (p.changedPaths.map Json.str)),
   ("test_results", .arr (p.testResults.map fun result => .obj
      [("argv", .arr (result.argv.map Json.str)),
       ("returncode", .int result.returncode),
       ("stdout_digest", .str result.stdoutDigest),
       ("stderr_digest", .str result.stderrDigest)]))]

/-- What `RepoPatchWorkspaceManager.prepare` makes of the target's bytes; its other checks do not
look at the contents. -/
def preparedUpdate (original : Bytes) (find replacement : String) : Except PyError Bytes := do
  rejectIf (decide (maxTargetFileBytes < original.length))
    ⟨.valueError, "source target exceeds the bounded file-size limit"⟩
  match decodeUtf8 original with
  | none => valueError "repo patch target must be UTF-8 text"
  | some text =>
    rejectIf (!occursIn find text)
      ⟨.valueError, "repo patch anchor not found in source target"⟩
    let updated := encodeUtf8 (replaceOnce find replacement text)
    rejectIf (decide (maxTargetFileBytes < updated.length))
      ⟨.valueError, "workspace target postimage exceeds the bounded file-size limit"⟩
    return updated

/-- The condition of the `postimage mismatch` branch of `_promote_verified_patch`. -/
def postimageMismatch (promoted : PreparedRepoPatch) (preflight : Dict)
    (current permitted : String) : Bool :=
  !Json.pyEqOpt (some (.str (promoted.targetPostimageDigest sha)))
      (preflight.get? "target_postimage_digest") ||
    current != permitted

section

variable {sha : Sha256} {parameters template : Dict} {content postimage updated : Bytes}
  {digest find replacement : String}

theorem preparedUpdate_ok (h : preparedUpdate content find replacement = .ok updated) :
    ∃ text, decodeUtf8 content = some text ∧ find.toList <:+: text.toList ∧
      updated = encodeUtf8 (replaceOnce find replacement text) := by
  unfold preparedUpdate at h
  rw [Except.bind_ok_iff] at h
  obtain ⟨_, -, h⟩ := h
  split at h
  · cases h
  · next text htext =>
    simp only [Except.bind_ok_iff, rejectIf_ok] at h
    obtain ⟨_, hoccurs, _, -, hreturn⟩ := h
    refine ⟨text, htext, ?_, (Except.ok.inj hreturn).symm⟩
    simpa [occursIn] using hoccurs

theorem rebind_ok {α : Type} {classes : List ErrorClass} {message : String}
    {x : Except PyError α} {a : α} (h : rebind classes message x = .ok a) : x = .ok a := by
  cases x with
  | ok b => exact h
  | error e =>
    simp only [rebind] at h
    split at h <;> cases h

theorem repoPatchPostimage_ok
    (htemplate : parameters.get? "patch_template" = some (.obj template))
    (hfind : template.get? "find" = some (.str find))
    (hreplace : template.get? "replace" = some (.str replacement))
    (h : repoPatchPostimage sha parameters (.ok content) = .ok (postimage, digest)) :
    ∃ text, decodeUtf8 content = some text ∧
      find.toList <:+: Text.universalNewlines text.toList ∧
      postimage = encodeUtf8 (replaceOnce find replacement (textMode text)) ∧
      digest = bytesDigest sha postimage := by
  unfold repoPatchPostimage at h
  rw [htemplate] at h
  simp only [Except.bind_ok_iff, rejectIf_ok, Prod.exists] at h
  obtain ⟨original, find', replacement', hbound, _, hoccurs, hreturn⟩ := h
  have hbound := rebind_ok hbound
  simp only [ok_bind, requireKey, hfind, hreplace, Except.bind_ok_iff] at hbound
  obtain ⟨read, hread, hfields⟩ := hbound
  simp only [pyStr, pure, Except.pure, Except.ok.injEq, Prod.mk.injEq] at hfields
  obtain ⟨rfl, rfl, rfl⟩ := hfields
  unfold readText at hread
  split at hread
  · next text htext =>
    have horiginal : read = textMode text := (Except.ok.inj hread).symm
    obtain ⟨rfl, rfl⟩ := Prod.mk.inj (Except.ok.inj hreturn)
    refine ⟨text, htext, ?_, by rw [horiginal], rfl⟩
    simpa [occursIn, horiginal, textMode] using hoccurs
  · cases hread

end

section

variable {sha : Sha256} {parameters template : Dict} {postimage : Bytes}
  {digest find replacement : String} {prepared : PreparedRepoPatch}

theorem postimageMismatch_promoted :
    postimageMismatch sha prepared (preflightReceiptPayload sha prepared)
        (bytesDigest sha prepared.updatedBytes) digest = false ↔
      digest = prepared.targetPostimageDigest sha := by
  have hpreflight : Dict.get? (preflightReceiptPayload sha prepared) "target_postimage_digest" =
      some (.str (prepared.targetPostimageDigest sha)) := by
    simp [preflightReceiptPayload, Dict.get?_cons]
  have hsame : Json.pyEqOpt (some (.str (prepared.targetPostimageDigest sha)))
      (some (.str (prepared.targetPostimageDigest sha))) = true :=
    Json.pyEqOpt_str_iff.mpr rfl
  unfold postimageMismatch
  rw [hpreflight, hsame, Bool.not_true, Bool.false_or, bne_eq_false_iff_eq, eq_comm]
  rfl

/-- **The two postimages** of a target and a template that both paths accept agree exactly when
the target has no carriage return. -/
theorem postimages_agree_iff
    (htemplate : parameters.get? "patch_template" = some (.obj template))
    (hfind : template.get? "find" = some (.str find))
    (hreplace : template.get? "replace" = some (.str replacement))
    (hpermit : repoPatchPostimage sha parameters (.ok prepared.originalBytes) =
      .ok (postimage, digest))
    (hprepare : preparedUpdate prepared.originalBytes find replacement =
      .ok prepared.updatedBytes)
    (hcollision : sha.ofBytes postimage = sha.ofBytes prepared.updatedBytes →
      postimage = prepared.updatedBytes) :
    (digest = prepared.targetPostimageDigest sha ∧
      postimageMismatch sha prepared (preflightReceiptPayload sha prepared)
        (bytesDigest sha prepared.updatedBytes) digest = false) ↔
      ∀ text, decodeUtf8 prepared.originalBytes = some text → '\r' ∉ text.toList := by
  obtain ⟨text, htext, hread, hpostimage, hdigest⟩ :=
    repoPatchPostimage_ok htemplate hfind hreplace hpermit
  obtain ⟨text', htext', hfile, hupdated⟩ := preparedUpdate_ok hprepare
  have hsame : text' = text := Option.some.inj (htext'.symm.trans htext)
  subst hsame
  have hdigests : digest = prepared.targetPostimageDigest sha ↔
      postimage = prepared.updatedBytes := by
    rw [hdigest, PreparedRepoPatch.targetPostimageDigest]
    constructor
    · intro heq
      exact hcollision (ofBytes_eq_of_bytesDigest_eq heq)
    · intro heq
      rw [heq]
  have htexts : postimage = prepared.updatedBytes ↔
      Text.replaceFirst find.toList replacement.toList (Text.universalNewlines text'.toList) =
        Text.replaceFirst find.toList replacement.toList text'.toList := by
    rw [hpostimage, hupdated]
    constructor
    · intro heq
      have hlists := congrArg String.toList (encodeUtf8_injective heq)
      simpa [replaceOnce, textMode] using hlists
    · intro heq
      simp [replaceOnce, textMode, heq]
  have hclean : digest = prepared.targetPostimageDigest sha ↔ '\r' ∉ text'.toList := by
    rw [hdigests, htexts]
    exact Text.replaceFirst_universalNewlines_iff hfile hread replacement.toList
  rw [postimageMismatch_promoted, and_self, hclean]
  constructor
  · intro hnone other hother
    have heq : other = text' := Option.some.inj (hother.symm.trans htext)
    rwa [heq]
  · intro hall
    exact hall text' htext

def sampleTemplate : Dict := [("find", .str "b"), ("replace", .str "c")]

def samplePrepared (original updated : Bytes) : PreparedRepoPatch :=
  { sourceRepo := "/r"
    relativeTarget := "a"
    baseCommit := "0"
    baseTree := "0"
    originalBytes := original
    updatedBytes := updated
    changedPaths := ["a"]
    testResults := []
    verifierReceipt := none }

/-- A target with line feeds only: the permit and the promotion agree. -/
theorem postimages_agree_on_line_feeds : let prepared := samplePrepared [97, 10, 98] [97, 10, 99]
    checksumHash.ofBytes [97, 10, 99] = checksumHash.ofBytes prepared.updatedBytes ∧
      (bytesDigest checksumHash [97, 10, 99] = prepared.targetPostimageDigest checksumHash ∧
        postimageMismatch checksumHash prepared (preflightReceiptPayload checksumHash prepared)
          (bytesDigest checksumHash prepared.updatedBytes)
          (bytesDigest checksumHash [97, 10, 99]) = false) := by
  refine ⟨rfl, ?_⟩
  have hagree := @postimages_agree_iff checksumHash
    [("patch_template", .obj sampleTemplate)] sampleTemplate [97, 10, 99]
    (bytesDigest checksumHash [97, 10, 99]) "b" "c" (samplePrepared [97, 10, 98] [97, 10, 99])
    (by decide +kernel) (by decide +kernel) (by decide +kernel) (by decide +kernel)
    (by decide +kernel) (fun _ => rfl)
  refine hagree.mpr ?_
  decide +kernel

/-- A target with one CR LF: both paths accept it and disagree on the postimage. -/
theorem postimages_differ_on_carriage_return :
    let prepared := samplePrepared [97, 13, 10, 98] [97, 13, 10, 99]
    repoPatchPostimage checksumHash [("patch_template", .obj sampleTemplate)]
        (.ok prepared.originalBytes) =
      .ok ([97, 10, 99], bytesDigest checksumHash [97, 10, 99]) ∧
      preparedUpdate prepared.originalBytes "b" "c" = .ok prepared.updatedBytes ∧
      bytesDigest checksumHash [97, 10, 99] ≠ prepared.targetPostimageDigest checksumHash ∧
      postimageMismatch checksumHash prepared (preflightReceiptPayload checksumHash prepared)
        (bytesDigest checksumHash prepared.updatedBytes)
        (bytesDigest checksumHash [97, 10, 99]) = true := by
  decide +kernel

end

end OrbitalMesh
