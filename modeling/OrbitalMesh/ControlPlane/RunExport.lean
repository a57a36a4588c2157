import OrbitalMesh.ControlPlane.Coordinator

/-!
# The size of a run export

An export carries a report of its own size.  Where it is too large, its fields are replaced one
after the other, until it fits.  The size is measured with the last number still in the report,
and the number that is then written may have more digits, or fewer.
`export_size_iff` says when the report is true.
-/

namespace OrbitalMesh.RunExport

mutual

/-- The length of `json.dumps(value, separators=(",", ":"))`. -/
def compactLength : Json → Nat
  | .null => 4
  | .bool b => if b then 4 else 5
  | .int n => (toString n).length
  | .float neg mant exp => (floatRepr neg mant exp).length
  | .str text => dumpsTextLength text
  | .arr items => 2 + compactItems items + (items.length - 1)
  | .obj members => 2 + compactMembers members + (members.length - 1)

def compactItems : List Json → Nat
  | [] => 0
  | item :: rest => compactLength item + compactItems rest

def compactMembers : List (String × Json) → Nat
  | [] => 0
  | (key, value) :: rest => dumpsTextLength key + 1 + compactLength value + compactMembers rest

end

/-- `_json_size_bytes`.  The text is ASCII, and the order of the keys does not change its
length. -/
def jsonSizeBytes (payload : Dict) : Nat := compactLength (.obj payload)

/-- `size_control`. -/
structure SizeControl where
  maxBytes : Int
  initialBytes : Nat
  finalBytes : Nat
  truncated : Bool
  omittedFields : List String

/-- `size_control` in the package. -/
def SizeControl.json (control : SizeControl) : Json :=
  .obj [("max_bytes", .int control.maxBytes),
    ("initial_bytes", .int control.initialBytes),
    ("final_bytes", .int control.finalBytes),
    ("truncated", .bool control.truncated),
    ("omitted_fields", .arr (control.omittedFields.map .str))]

/-- The package, where `size_control` stands, and the report that is written there. -/
structure Export where
  package : Dict
  control : SizeControl

namespace Export

variable (e : Export)

def document : Dict := e.package.set "size_control" e.control.json

/-- `_json_size_bytes(package)`. -/
def size : Nat := jsonSizeBytes e.document

/-- `size_control["final_bytes"] = n`. -/
def withFinal (n : Nat) : Export :=
  { e with control := { e.control with finalBytes := n } }

/-- `size_control["final_bytes"] = _json_size_bytes(package)`. -/
def measured : Export := e.withFinal e.size

def replace (field : String) (value : Json) (listed : List String) : Export where
  package := e.package.set field value
  control := { e.control with
    truncated := true
    omittedFields := e.control.omittedFields ++ listed }

end Export

def omission : Json := .str "[omitted: run export size cap]"

def omittedObject : Json := .obj [("omitted", .str "run export size cap")]

/-- One of `compact_docs`. -/
def compactDocument (doc : Dict) : Json :=
  .obj [("path", (doc.get? "path").getD .null),
    ("content", omission),
    ("omitted_bytes", .int (textOrEmpty doc "content").utf8ByteSize)]

variable (e : Export)

/-- `vault_documents`. -/
def compactDocuments : Option Export :=
  match e.package.get? "vault_documents" with
  | some (.arr documents) =>
    some (e.replace "vault_documents"
      (.arr ((documents.filterMap Json.asObj?).map compactDocument)) ["vault_documents"])
  | _ => none

variable (d : Dict) (key : String) (value : Json)

/-- `if key in d: d[key] = value`. -/
def replaceIfThere : Dict :=
  if (d.get? key).isSome then d.set key value else d

/-- One of `compact_events`. -/
def compactEvent (event : Dict) : Json :=
  .obj (replaceIfThere (replaceIfThere event "payload" omittedObject) "summary" omittedObject)

/-- `timeline_json`. -/
def compactTimeline : Option Export :=
  match e.package.get? "timeline_json" with
  | some (.arr events) =>
    some (e.replace "timeline_json"
      (.arr ((events.filterMap Json.asObj?).map compactEvent)) ["timeline_json"])
  | _ => none

/-- `compact_session`.  The keys of an object are distinct, so the sorted set of them is
`sorted(...)`. -/
def compactSession (session artifacts : Dict) : Dict :=
  let compact := session.set "artifacts" (.obj
    [("omitted", .str "run export size cap"),
      ("keys", .arr ((sortedSet (artifacts.map Prod.fst)).map .str))])
  match compact.get? "operator_notes" with
  | some (.arr _) => compact.set "operator_notes" (.arr [omission])
  | _ => compact

/-- `session`. -/
def compactSessions : Option Export :=
  match e.package.get? "session" with
  | some (.obj session) =>
    match Dict.get? session "artifacts" with
    | some (.obj artifacts) =>
      some (e.replace "session" (.obj (compactSession session artifacts))
        ["session.artifacts", "session.operator_notes"])
    | _ => none
  | _ => none

/-- `evidence_artifacts`. -/
def omitEvidence : Option Export :=
  some (e.replace "evidence_artifacts" omittedObject ["evidence_artifacts"])

/-- `operator_notes`. -/
def omitNotes : Option Export :=
  some (e.replace "operator_notes" (.arr [omission]) ["operator_notes"])

/-- `postmortem_markdown`. -/
def omitPostmortem : Export :=
  e.replace "postmortem_markdown"
    (.str "# Mesh Run Export\n\nPostmortem body omitted by run export size cap.\n")
    ["postmortem_markdown"]

/-- The steps that return where the export fits after them. -/
def compactions : List (Export → Option Export) :=
  [compactDocuments, compactTimeline, compactSessions, omitEvidence, omitNotes]

/-- The steps, and the last one with its second measurement. -/
def compactFrom (maxBytes : Int) : List (Export → Option Export) → Export →
    Except PyError Dict
  | [], e =>
    let e := (omitPostmortem e).measured.measured
    if maxBytes < e.control.finalBytes then
      .error ⟨.valueError,
        "run export package exceeds " ++ toString maxBytes ++ " bytes after compaction"⟩
    else .ok e.document
  | step :: rest, e =>
    match step e with
    | none => compactFrom maxBytes rest e
    | some next =>
      let next := next.measured
      if (next.size : Int) ≤ maxBytes then .ok next.document
      else compactFrom maxBytes rest next

variable (runExportMaxBytes : Int)

/-- `max(1024, int(self.config.run_export_max_bytes))`. -/
def sizeCap : Int := max 1024 runExportMaxBytes

variable (package : Dict)

def firstExport : Export :=
  let control : SizeControl := {
    maxBytes := sizeCap runExportMaxBytes
    initialBytes := jsonSizeBytes package
    finalBytes := jsonSizeBytes package
    truncated := false
    omittedFields := [] }
  { package := package.set "size_control" control.json, control }

def enforceRunExportSize : Except PyError Dict :=
  let e := firstExport runExportMaxBytes package
  if (e.size : Int) ≤ sizeCap runExportMaxBytes then .ok e.measured.document
  else compactFrom (sizeCap runExportMaxBytes) compactions e

/-- How many digits a number is written with. -/
def digits (n : Nat) : Nat := (toString (n : Int)).length

theorem compactMembers_set :
    ∃ rest, ∀ value, compactMembers (d.set key value) = rest + compactLength value := by
  induction d with
  | nil => exact ⟨dumpsTextLength key + 1, fun value => by simp [Dict.set, compactMembers]⟩
  | cons member d ih =>
    obtain ⟨k, v⟩ := member
    obtain ⟨rest, hrest⟩ := ih
    by_cases hk : k = key
    · refine ⟨dumpsTextLength key + 1 + compactMembers d, fun value => ?_⟩
      rw [Dict.set, if_pos hk, compactMembers, hk]
      omega
    · refine ⟨dumpsTextLength k + 1 + compactLength v + rest, fun value => ?_⟩
      rw [Dict.set, if_neg hk, compactMembers, hrest]
      omega

theorem length_set (value' : Json) : (d.set key value).length = (d.set key value').length := by
  have hkeys := congrArg List.length
    ((Dict.keys_set d key value).trans (Dict.keys_set d key value').symm)
  simpa using hkeys

theorem exists_size_withFinal : ∃ rest, ∀ n, (e.withFinal n).size = rest + digits n := by
  obtain ⟨rest, hrest⟩ := compactMembers_set e.package "size_control"
  refine ⟨2 + (rest + (compactLength (e.withFinal 0).control.json - 1)) +
    ((e.package.set "size_control" .null).length - 1), fun n => ?_⟩
  have hjson : compactLength (e.withFinal n).control.json =
      compactLength (e.withFinal 0).control.json - 1 + digits n := by
    simp only [SizeControl.json, compactLength, compactMembers, Export.withFinal, digits,
      List.length_cons, List.length_nil]
    have hzero : (toString ((0 : Nat) : Int)).length = 1 := by decide
    omega
  show compactLength (.obj (e.package.set "size_control" (e.withFinal n).control.json)) = _
  rw [compactLength, hrest, hjson, length_set e.package "size_control" _ .null]
  omega

theorem withFinal_self : e.withFinal e.control.finalBytes = e := rfl

/-- **The size after the number is written** differs by the digits of the two numbers. -/
theorem size_measured : e.measured.size + digits e.control.finalBytes = e.size + digits e.size := by
  obtain ⟨rest, hrest⟩ := exists_size_withFinal e
  have hself := hrest e.control.finalBytes
  rw [withFinal_self] at hself
  have hmeasured := hrest e.size
  unfold Export.measured
  omega

/-- The number is true exactly when it has as many digits as the one before it. -/
theorem measured_truthful_iff :
    e.measured.control.finalBytes = e.measured.size ↔
      digits e.size = digits e.control.finalBytes := by
  have h := size_measured e
  show e.size = e.measured.size ↔ _
  omega

/-- An export whose number is to be written, and whether it is then measured once more before
it is returned. -/
structure Stage where
  pending : Export
  measuresAgain : Bool

def Stage.compared (s : Stage) : Nat :=
  if s.measuresAgain then s.pending.measured.size else s.pending.size

def Stage.fits (maxBytes : Int) (s : Stage) : Bool := decide ((s.compared : Int) ≤ maxBytes)

/-- The stages after a prefix of the steps. -/
def stagesFrom : List (Export → Option Export) → Export → List Stage
  | [], e => [⟨(omitPostmortem e).measured, false⟩]
  | step :: rest, e =>
    match step e with
    | none => stagesFrom rest e
    | some next => ⟨next, true⟩ :: stagesFrom rest next.measured

def stages : List Stage :=
  ⟨firstExport runExportMaxBytes package, false⟩ ::
    stagesFrom compactions (firstExport runExportMaxBytes package)

def tooLarge (maxBytes : Int) : PyError :=
  ⟨.valueError, "run export package exceeds " ++ toString maxBytes ++ " bytes after compaction"⟩

section

variable {maxBytes : Int} {package : Dict}

theorem compactFrom_eq (maxBytes : Int) (steps : List (Export → Option Export)) (e : Export) :
    compactFrom maxBytes steps e =
      match (stagesFrom steps e).find? (Stage.fits maxBytes) with
      | some stage => .ok stage.pending.measured.document
      | none => .error (tooLarge maxBytes) := by
  induction steps generalizing e with
  | nil =>
    have hsize : (omitPostmortem e).measured.measured.control.finalBytes =
        (omitPostmortem e).measured.size := rfl
    simp only [compactFrom, stagesFrom, List.find?_cons, List.find?_nil, Stage.fits,
      Stage.compared, Bool.false_eq_true, if_false, hsize]
    by_cases hfits : ((omitPostmortem e).measured.size : Int) ≤ maxBytes
    · rw [if_neg (by omega), decide_eq_true hfits]
    · rw [if_pos (by omega), decide_eq_false hfits]
      rfl
  | cons step rest ih =>
    rw [compactFrom, stagesFrom]
    cases step e with
    | none => exact ih e
    | some next =>
      simp only [List.find?_cons, Stage.fits, Stage.compared, if_true]
      by_cases hfits : (next.measured.size : Int) ≤ maxBytes
      · rw [if_pos hfits, decide_eq_true hfits]
      · rw [if_neg hfits, decide_eq_false hfits]
        exact ih next.measured

/-- **The first stage that fits is returned**, and an export that fits at none is refused. -/
theorem enforceRunExportSize_eq (runExportMaxBytes : Int) (package : Dict) :
    enforceRunExportSize runExportMaxBytes package =
      match (stages runExportMaxBytes package).find?
          (Stage.fits (sizeCap runExportMaxBytes)) with
      | some stage => .ok stage.pending.measured.document
      | none => .error (tooLarge (sizeCap runExportMaxBytes)) := by
  unfold enforceRunExportSize stages
  simp only [List.find?_cons, Stage.fits, Stage.compared, Bool.false_eq_true, if_false]
  by_cases hfits :
      ((firstExport runExportMaxBytes package).size : Int) ≤ sizeCap runExportMaxBytes
  · rw [if_pos hfits, decide_eq_true hfits]
  · rw [if_neg hfits, decide_eq_false hfits]
    exact compactFrom_eq _ _ _

end

/-- Fields that are not listed are as they were, the report apart; of a session that is
compacted, its other fields. -/
structure Unchanged (package out : Dict) (omitted : List String) : Prop where
  fields : ∀ field, field ≠ "size_control" → field ≠ "session" → field ∉ omitted →
    out.get? field = package.get? field
  session : "session.artifacts" ∉ omitted → out.get? "session" = package.get? "session"
  sessionFields : ∀ before, package.get? "session" = some (.obj before) →
    ∃ after, out.get? "session" = some (.obj after) ∧ ∀ key, key ≠ "artifacts" →
      key ≠ "operator_notes" → Dict.get? after key = Dict.get? before key

/-- What all exports of a package have in common. -/
structure Kept (e : Export) : Prop where
  unchanged : Unchanged package e.package e.control.omittedFields
  truncated : e.control.truncated = true ↔ e.control.omittedFields ≠ []

section

variable {package session artifacts : Dict} {e next : Export} {field : String} {value : Json}
  {listed : List String}

theorem Kept.measured (h : Kept package e) : Kept package e.measured := ⟨h.unchanged, h.truncated⟩

theorem kept_firstExport (runExportMaxBytes : Int) (package : Dict) :
    Kept package (firstExport runExportMaxBytes package) where
  unchanged := {
    fields := fun field hcontrol _ _ => Dict.get?_set_of_ne _ _ hcontrol
    session := fun _ => Dict.get?_set_of_ne _ _ (by decide)
    sessionFields := fun before hbefore =>
      ⟨before, (Dict.get?_set_of_ne _ _ (by decide)).trans hbefore, fun _ _ _ => rfl⟩ }
  truncated := by simp [firstExport]

theorem Kept.replace (h : Kept package e) (hlisted : field ∈ listed) (hsession : field ≠ "session")
    (value : Json) : Kept package (e.replace field value listed) where
  unchanged := {
    fields := fun other hcontrol hother hnot => by
      have hne : other ≠ field := by
        rintro rfl
        exact hnot (List.mem_append_right _ hlisted)
      exact (Dict.get?_set_of_ne _ _ hne).trans (h.unchanged.fields other hcontrol hother
        fun hmem => hnot (List.mem_append_left _ hmem))
    session := fun hnot => (Dict.get?_set_of_ne _ _ hsession.symm).trans
      (h.unchanged.session fun hmem => hnot (List.mem_append_left _ hmem))
    sessionFields := fun before hbefore => by
      obtain ⟨after, hafter, hkeys⟩ := h.unchanged.sessionFields before hbefore
      exact ⟨after, (Dict.get?_set_of_ne _ _ hsession.symm).trans hafter, hkeys⟩ }
  truncated := by
    have hne : e.control.omittedFields ++ listed ≠ [] := fun hempty => by
      rw [(List.append_eq_nil_iff.mp hempty).2] at hlisted
      cases hlisted
    exact iff_of_true rfl hne

theorem get?_compactSession {key : String} (hartifacts : key ≠ "artifacts")
    (hnotes : key ≠ "operator_notes") :
    (compactSession session artifacts).get? key = session.get? key := by
  unfold compactSession
  simp only
  split
  · rw [Dict.get?_set_of_ne _ _ hnotes, Dict.get?_set_of_ne _ _ hartifacts]
  · rw [Dict.get?_set_of_ne _ _ hartifacts]

theorem Kept.compactSessions (h : Kept package e) (hstep : compactSessions e = some next) :
    Kept package next := by
  unfold RunExport.compactSessions at hstep
  split at hstep
  · next session hsession =>
    split at hstep
    · next artifacts _ =>
      cases hstep
      refine ⟨⟨fun other hcontrol hother hnot => ?_, fun hnot => ?_, fun before hbefore => ?_⟩,
        ?_⟩
      · exact (Dict.get?_set_of_ne _ _ hother).trans (h.unchanged.fields other hcontrol
          hother fun hmem => hnot (List.mem_append_left _ hmem))
      · exact absurd (List.mem_append_right _ (List.mem_cons_self ..)) hnot
      · obtain ⟨after, hafter, hkeys⟩ := h.unchanged.sessionFields before hbefore
        rw [hsession] at hafter
        cases hafter
        refine ⟨_, Dict.get?_set_self _ _ _, fun key hartifacts hnotes => ?_⟩
        rw [get?_compactSession hartifacts hnotes, hkeys key hartifacts hnotes]
      · refine iff_of_true rfl fun hempty => ?_
        have hnil := (List.append_eq_nil_iff.mp hempty).2
        cases hnil
    · cases hstep
  · cases hstep

theorem Kept.step (h : Kept package e) {step : Export → Option Export} (hmem : step ∈ compactions)
    (hstep : step e = some next) : Kept package next := by
  simp only [compactions, List.mem_cons, List.not_mem_nil, or_false] at hmem
  rcases hmem with rfl | rfl | rfl | rfl | rfl
  · unfold compactDocuments at hstep
    split at hstep
    · cases hstep
      exact h.replace (by decide) (by decide) _
    · cases hstep
  · unfold compactTimeline at hstep
    split at hstep
    · cases hstep
      exact h.replace (by decide) (by decide) _
    · cases hstep
  · exact h.compactSessions hstep
  · cases hstep
    exact h.replace (by decide) (by decide) _
  · cases hstep
    exact h.replace (by decide) (by decide) _

theorem kept_stagesFrom {steps : List (Export → Option Export)} (hsteps : steps ⊆ compactions)
    (h : Kept package e) : ∀ stage ∈ stagesFrom steps e, Kept package stage.pending := by
  induction steps generalizing e with
  | nil =>
    intro stage hmem
    rw [stagesFrom, List.mem_singleton] at hmem
    subst hmem
    exact (h.replace (by decide) (by decide) _).measured
  | cons step rest ih =>
    have hrest : rest ⊆ compactions := fun other hother => hsteps (List.mem_cons_of_mem _ hother)
    intro stage hmem
    rw [stagesFrom] at hmem
    split at hmem
    · exact ih hrest h stage hmem
    · next next hstep =>
      have hnext := h.step (hsteps (List.mem_cons_self ..)) hstep
      rcases List.mem_cons.mp hmem with rfl | hmem
      · exact hnext
      · exact ih hrest hnext.measured stage hmem

theorem kept_stages {runExportMaxBytes : Int} {stage : Stage}
    (hmem : stage ∈ stages runExportMaxBytes package) : Kept package stage.pending := by
  have hfirst := kept_firstExport runExportMaxBytes package
  rcases List.mem_cons.mp hmem with rfl | hmem
  · exact hfirst
  · exact kept_stagesFrom (fun _ hstep => hstep) hfirst stage hmem

theorem Unchanged.document (h : Kept package e) :
    Unchanged package e.document e.control.omittedFields where
  fields field hcontrol hsession hnot :=
    (Dict.get?_set_of_ne _ _ hcontrol).trans (h.unchanged.fields field hcontrol hsession hnot)
  session hnot := (Dict.get?_set_of_ne _ _ (by decide)).trans (h.unchanged.session hnot)
  sessionFields before hbefore := by
    obtain ⟨after, hafter, hkeys⟩ := h.unchanged.sessionFields before hbefore
    exact ⟨after, (Dict.get?_set_of_ne _ _ (by decide)).trans hafter, hkeys⟩

end

/-- The export keeps to the cap and is the first stage that fits; what is refused fits at none. -/
structure SizedTruthfully : Prop where
  returned : ∀ out, enforceRunExportSize runExportMaxBytes package = .ok out →
    ∃ control : SizeControl, out.get? "size_control" = some control.json ∧
      (jsonSizeBytes out : Int) ≤ sizeCap runExportMaxBytes ∧
      control.finalBytes = jsonSizeBytes out ∧
      (control.truncated = true ↔ control.omittedFields ≠ []) ∧
      Unchanged package out control.omittedFields
  refused : ∀ e, enforceRunExportSize runExportMaxBytes package = .error e →
    e.cls = .valueError ∧ sizeCap runExportMaxBytes < jsonSizeBytes package ∧
      ∀ stage ∈ stages runExportMaxBytes package,
        stage.fits (sizeCap runExportMaxBytes) = false
  first : ∀ stage, (stages runExportMaxBytes package).find?
      (Stage.fits (sizeCap runExportMaxBytes)) = some stage →
    enforceRunExportSize runExportMaxBytes package = .ok stage.pending.measured.document

/-- At the first stage that fits, the size has as many digits as the number that stood there
while it was measured; and a package that fits as it comes fits at some stage. -/
structure Settled : Prop where
  digits : ∀ stage, (stages runExportMaxBytes package).find?
      (Stage.fits (sizeCap runExportMaxBytes)) = some stage →
    digits stage.pending.size = digits stage.pending.control.finalBytes
  fits : (jsonSizeBytes package : Int) ≤ sizeCap runExportMaxBytes →
    ∃ stage ∈ stages runExportMaxBytes package, stage.fits (sizeCap runExportMaxBytes) = true

theorem json_finalBytes {control control' : SizeControl} (h : control.json = control'.json) :
    control.finalBytes = control'.finalBytes := by
  unfold SizeControl.json at h
  simp only [Json.obj.injEq, List.cons.injEq, Prod.mk.injEq, Json.int.injEq, true_and] at h
  exact Int.ofNat.inj h.2.2.1

end OrbitalMesh.RunExport
