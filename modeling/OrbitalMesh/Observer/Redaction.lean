import OrbitalMesh.Base.JsonPlaces
import OrbitalMesh.Base.Text

/-!
# Redaction of exports

What leaves the control plane goes through `redact_for_observer`, which replaces
the values below sensitive keys.  An exported package is checked again when it is
retrieved: `_secret_fields_redacted` looks for values that should have been
replaced.  Each of the two has its own list of markers and its own way through
the value.

Keys are compared in lower case; nothing here depends on how letters are lowered.
-/

namespace OrbitalMesh.Redaction

/-- `str.lower`.  All that is used of it is that the empty text stays empty. -/
structure Lowering where
  lower : String → String
  lower_empty : lower "" = ""

/-- `str.lower` on text without letters beyond ASCII. -/
def asciiLowering : Lowering where
  lower text := String.ofList (text.toList.map Char.toLower)
  lower_empty := rfl

variable (lowering : Lowering)

/-- The text that stands for what was removed. -/
def redacted : String := "<redacted>"

def sensitiveKeyFragments : List String :=
  ["token", "secret", "api_key", "apikey", "authorization", "password", "jwt"]

/-- `part in text`. -/
def occursIn (part text : String) : Bool := decide (part.toList <:+: text.toList)

def isSensitiveKey (key : String) : Bool :=
  sensitiveKeyFragments.any fun fragment => occursIn fragment (lowering.lower key)

def redactString (value : String) : String :=
  match Text.beforeFirst "Bearer ".toList value.toList with
  | some before => String.ofList (before ++ "Bearer <redacted>".toList)
  | none =>
    if "sk-".toList <+: value.toList ∨ "sk_".toList <+: value.toList then redacted else value

mutual

def redactForObserver : Json → Json
  | .obj members => .obj (redactMembers members)
  | .arr items => .arr (redactItems items)
  | .str text => .str (redactString text)
  | value => value

def redactItems : List Json → List Json
  | [] => []
  | item :: rest => redactForObserver item :: redactItems rest

def redactMembers : List (String × Json) → List (String × Json)
  | [] => []
  | (key, item) :: rest =>
    (key, if isSensitiveKey lowering key then .str redacted else redactForObserver item) ::
      redactMembers rest

end

def secretKeyMarkers : List String :=
  ["token", "secret", "api_key", "apikey", "authorization", "password", "jwt", "credential",
    "kubeconfig"]

def isMarkedKey (key : String) : Bool :=
  secretKeyMarkers.any fun marker => occursIn marker (lowering.lower key)

/-- `value in (None, "", "<redacted>")`. -/
def isCleared (value : Json) : Bool :=
  value = .null || value = .str "" || value = .str redacted

mutual

def secretFieldsRedacted (key : String) : Json → Bool
  | .obj members => key == "secret_markers" || secretMembersRedacted members
  | .arr items => key == "secret_markers" || secretItemsRedacted key items
  | value => key == "secret_markers" || !isMarkedKey lowering key || isCleared value

def secretItemsRedacted (key : String) : List Json → Bool
  | [] => true
  | item :: rest => secretFieldsRedacted key item && secretItemsRedacted key rest

def secretMembersRedacted : List (String × Json) → Bool
  | [] => true
  | (key, item) :: rest => secretFieldsRedacted key item && secretMembersRedacted rest

end

/-- The nested secrets of the test of the redactor. -/
example : redactForObserver asciiLowering (.obj [("rpc_url", .str "http://example"),
      ("jwt_secret_path", .str "/secrets/jwt.hex"),
      ("headers", .obj [("Authorization", .str "Bearer abc123")]), ("api_key", .str "sk-test")]) =
    .obj [("rpc_url", .str "http://example"), ("jwt_secret_path", .str "<redacted>"),
      ("headers", .obj [("Authorization", .str "<redacted>")]),
      ("api_key", .str "<redacted>")] := by
  decide +kernel

section

variable {lowering} {key : String} (members : List (String × Json)) (items : List Json)

theorem redactItems_eq_map :
    redactItems lowering items = items.map (redactForObserver lowering) := by
  induction items with
  | nil => rfl
  | cons item rest ih => simp [redactItems, ih]

def redactMember (lowering : Lowering) (member : String × Json) : String × Json :=
  (member.1, if isSensitiveKey lowering member.1 then .str redacted
    else redactForObserver lowering member.2)

theorem redactMembers_eq_map :
    redactMembers lowering members = members.map (redactMember lowering) := by
  induction members with
  | nil => rfl
  | cons member rest ih => simp [redactMembers, redactMember, ih]

theorem secretItemsRedacted_iff :
    secretItemsRedacted lowering key items = true ↔
      ∀ item ∈ items, secretFieldsRedacted lowering key item = true := by
  induction items with
  | nil => simp [secretItemsRedacted]
  | cons item rest ih => simp [secretItemsRedacted, ih]

theorem secretMembersRedacted_iff :
    secretMembersRedacted lowering members = true ↔
      ∀ member ∈ members, secretFieldsRedacted lowering member.1 member.2 = true := by
  induction members with
  | nil => simp [secretMembersRedacted]
  | cons member rest ih => simp [secretMembersRedacted, ih]

variable {value : Json}

theorem secretFieldsRedacted_scalar (h : value.isScalar = true) :
    secretFieldsRedacted lowering key value =
      (key == "secret_markers" || !isMarkedKey lowering key || isCleared value) := by
  cases value <;> first | rfl | cases h

theorem redactForObserver_isScalar :
    (redactForObserver lowering value).isScalar = value.isScalar := by
  cases value <;> rfl

end

theorem redactString_redactString (value : String) :
    redactString (redactString value) = redactString value := by
  unfold redactString
  cases hbearer : Text.beforeFirst "Bearer ".toList value.toList with
  | some before =>
    have hagain := Text.beforeFirst_append hbearer "<redacted>".toList
    have htext : before ++ "Bearer ".toList ++ "<redacted>".toList =
        before ++ "Bearer <redacted>".toList := by
      rw [List.append_assoc]
      rfl
    rw [htext] at hagain
    simp only [String.toList_ofList, hagain]
  | none =>
    by_cases hbegins : "sk-".toList <+: value.toList ∨ "sk_".toList <+: value.toList
    · simp only [if_pos hbegins]
      decide
    · simp only [if_neg hbegins, hbearer]

/-- **The redactor is done after one pass.** -/
theorem redactForObserver_idempotent (value : Json) :
    redactForObserver lowering (redactForObserver lowering value) =
      redactForObserver lowering value := by
  induction value using Json.induct with
  | scalar value h =>
    cases value with
    | str text => simp only [redactForObserver, redactString_redactString]
    | arr | obj => cases h
    | _ => rfl
  | arr items ih =>
    simp only [redactForObserver, redactItems_eq_map, List.map_map]
    exact congrArg Json.arr (List.map_congr_left ih)
  | obj members ih =>
    simp only [redactForObserver, redactMembers_eq_map, List.map_map]
    refine congrArg Json.obj (List.map_congr_left fun member hmember => ?_)
    simp only [redactMember, Function.comp_apply]
    split
    · rfl
    · rw [ih member hmember]

/-- The verifier looks at a scalar below these keys: none of them is exempt, and
the last one is marked. -/
def Checked (path : List String) : Prop :=
  "secret_markers" ∉ path ∧ isMarkedKey lowering (path.getLastD "") = true

variable (v : Json)

/-- The scalar `y` of `v` stands below the keys of `path`, and shows something. -/
def Shows (path : List String) (y : Json) : Prop :=
  v.At path y ∧ y.isScalar = true ∧ isCleared y = false

def Clean : Prop :=
  ∀ path y, Shows v path y → ∀ key ∈ path, isMarkedKey lowering key = false

/-- A scalar that the verifier looks at shows something. -/
def Revealed : Prop := ∃ path y, Shows v path y ∧ Checked lowering path

def Hidden : Prop :=
  ∃ path y, Shows v path y ∧ (∃ key ∈ path, isMarkedKey lowering key = true) ∧
    ¬ Checked lowering path

section

variable {lowering}

theorem checked_cons_cons {key next : String} {rest : List String} :
    Checked lowering (key :: next :: rest) ↔
      key ≠ "secret_markers" ∧ Checked lowering (next :: rest) := by
  simp only [Checked, List.mem_cons, not_or, List.getLastD_cons, ne_comm, and_assoc]

theorem secretFieldsRedacted_iff (key : String) (v : Json) :
    secretFieldsRedacted lowering key v = true ↔
      ∀ path y, Shows v path y → ¬ Checked lowering (key :: path) := by
  induction v using Json.induct generalizing key with
  | scalar v hv =>
    rw [secretFieldsRedacted_scalar hv]
    simp only [Shows, Json.at_scalar_iff hv, Checked]
    constructor
    · rintro h path y ⟨⟨rfl, rfl⟩, -, hshown⟩ ⟨hexempt, hmarked⟩
      simp_all
    · intro h
      by_contra hnot
      simp only [Bool.or_eq_true, beq_iff_eq, Bool.not_eq_true', not_or,
        Bool.not_eq_false] at hnot
      obtain ⟨⟨hexempt, hmarked⟩, hshown⟩ := hnot
      exact h [] v ⟨⟨rfl, rfl⟩, hv, by simpa using hshown⟩
        ⟨by simpa using Ne.symm hexempt, hmarked⟩
  | arr items ih =>
    simp only [secretFieldsRedacted, Bool.or_eq_true, beq_iff_eq, secretItemsRedacted_iff]
    constructor
    · rintro (rfl | hall) path y ⟨hat, hscalar, hshown⟩ hchecked
      · exact hchecked.1 List.mem_cons_self
      · obtain ⟨item, hitem, hat⟩ := (Json.at_arr_iff hscalar).mp hat
        exact (ih item hitem key).mp (hall item hitem) path y ⟨hat, hscalar, hshown⟩ hchecked
    · refine fun h => .inr fun item hitem => (ih item hitem key).mpr ?_
      rintro path y ⟨hat, hshown⟩
      exact h path y ⟨.item hitem hat, hshown⟩
  | obj members ih =>
    simp only [secretFieldsRedacted, Bool.or_eq_true, beq_iff_eq, secretMembersRedacted_iff]
    constructor
    · rintro (rfl | hall) path y ⟨hat, hscalar, hshown⟩ hchecked
      · exact hchecked.1 List.mem_cons_self
      · obtain ⟨member, hmember, rest, rfl, hrest⟩ := (Json.at_obj_iff hscalar).mp hat
        exact (ih member hmember member.1).mp (hall member hmember) rest y
          ⟨hrest, hscalar, hshown⟩ (checked_cons_cons.mp hchecked).2
    · intro h
      by_cases hexempt : key = "secret_markers"
      · exact .inl hexempt
      · refine .inr fun member hmember => (ih member hmember member.1).mpr ?_
        rintro rest y ⟨hat, hshown⟩ hchecked
        exact h _ y ⟨.member hmember hat, hshown⟩ (checked_cons_cons.mpr ⟨hexempt, hchecked⟩)

theorem secretFieldsRedacted_package_iff (v : Json) :
    secretFieldsRedacted lowering "" v = true ↔ ¬ Revealed lowering v := by
  have hroot (path : List String) : Checked lowering ("" :: path) ↔ Checked lowering path := by
    simp only [Checked, List.getLastD_cons, List.mem_cons, String.reduceEq, false_or]
  simp only [secretFieldsRedacted_iff, hroot, Revealed, not_exists, not_and]

/-- **What an accepted package may still hold.**  It is clean unless something is
hidden from the verifier. -/
theorem clean_of_accepted_iff (v : Json) :
    (secretFieldsRedacted lowering "" v = true → Clean lowering v) ↔
      (Hidden lowering v → Revealed lowering v) := by
  rw [secretFieldsRedacted_package_iff]
  constructor
  · rintro h ⟨path, y, hshows, ⟨key, hkey, hmarked⟩, -⟩
    by_contra hnot
    rw [h hnot path y hshows key hkey] at hmarked
    cases hmarked
  · intro h hnot path y hshows key hkey
    by_contra hmarked
    have hmarked : isMarkedKey lowering key = true := by simpa using hmarked
    by_cases hchecked : Checked lowering path
    · exact hnot ⟨path, y, hshows, hchecked⟩
    · exact hnot (h ⟨path, y, hshows, ⟨key, hkey, hmarked⟩, hchecked⟩)

end

/-- Something stands below a key that the verifier marks, and below no key that
the redactor knows. -/
def Exposed : Prop :=
  ∃ path y, v.At path y ∧ (∃ key ∈ path, isMarkedKey lowering key = true) ∧
    ∀ key ∈ path, isSensitiveKey lowering key = false

mutual

def withoutMarked : Json → Json
  | .obj members => .obj (membersWithoutMarked members)
  | .arr items => .arr (itemsWithoutMarked items)
  | value => value

def itemsWithoutMarked : List Json → List Json
  | [] => []
  | item :: rest => withoutMarked item :: itemsWithoutMarked rest

def membersWithoutMarked : List (String × Json) → List (String × Json)
  | [] => []
  | (key, item) :: rest =>
    (key, if isMarkedKey lowering key then .null else withoutMarked item) ::
      membersWithoutMarked rest

end

/-- Two values that differ in nothing but what stands below marked keys. -/
def Alike (v w : Json) : Prop := withoutMarked lowering v = withoutMarked lowering w

section

variable {lowering}

theorem itemsWithoutMarked_eq_map (items : List Json) :
    itemsWithoutMarked lowering items = items.map (withoutMarked lowering) := by
  induction items with
  | nil => rfl
  | cons item rest ih => simp [itemsWithoutMarked, ih]

def memberWithoutMarked (lowering : Lowering) (member : String × Json) : String × Json :=
  (member.1, if isMarkedKey lowering member.1 then .null else withoutMarked lowering member.2)

theorem membersWithoutMarked_eq_map (members : List (String × Json)) :
    membersWithoutMarked lowering members = members.map (memberWithoutMarked lowering) := by
  induction members with
  | nil => rfl
  | cons member rest ih => simp [membersWithoutMarked, memberWithoutMarked, ih]

variable {v : Json}

theorem withoutMarked_scalar (h : v.isScalar = true) : withoutMarked lowering v = v := by
  cases v <;> first | rfl | cases h

theorem not_exposed_scalar (h : v.isScalar = true) : ¬ Exposed lowering v := by
  rintro ⟨path, y, hat, ⟨key, hkey, -⟩, -⟩
  obtain ⟨rfl, -⟩ := (Json.at_scalar_iff h).mp hat
  cases hkey

theorem exposed_arr_iff {items : List Json} :
    Exposed lowering (.arr items) ↔ ∃ item ∈ items, Exposed lowering item := by
  constructor
  · rintro ⟨path, y, hat, ⟨key, hkey, hmarked⟩, hpath⟩
    cases hat with
    | here => cases hkey
    | item hitem hat => exact ⟨_, hitem, path, y, hat, ⟨key, hkey, hmarked⟩, hpath⟩
  · rintro ⟨item, hitem, path, y, hat, hrest⟩
    exact ⟨path, y, .item hitem hat, hrest⟩

theorem exposed_obj_iff {members : List (String × Json)} :
    Exposed lowering (.obj members) ↔
      ∃ member ∈ members, isSensitiveKey lowering member.1 = false ∧
        (isMarkedKey lowering member.1 = true ∨ Exposed lowering member.2) := by
  constructor
  · rintro ⟨path, y, hat, ⟨key, hkey, hmarked⟩, hpath⟩
    cases hat with
    | here => cases hkey
    | member hmember hat =>
      obtain ⟨hfirst, hrest⟩ := List.forall_mem_cons.mp hpath
      refine ⟨_, hmember, hfirst, ?_⟩
      rcases List.mem_cons.mp hkey with rfl | hkey
      · exact .inl hmarked
      · exact .inr ⟨_, y, hat, ⟨key, hkey, hmarked⟩, hrest⟩
  · rintro ⟨⟨key, item⟩, hmember, hfirst, hmarked | ⟨path, y, hat, ⟨other, hother, hmarked⟩, hrest⟩⟩
    · exact ⟨[key], item, .member hmember (.here item), ⟨key, List.mem_cons_self, hmarked⟩,
        by simpa using hfirst⟩
    · exact ⟨key :: path, y, .member hmember hat, ⟨other, List.mem_cons_of_mem _ hother, hmarked⟩,
        List.forall_mem_cons.mpr ⟨hfirst, hrest⟩⟩

theorem exposed_withoutMarked_iff (v : Json) :
    Exposed lowering (withoutMarked lowering v) ↔ Exposed lowering v := by
  induction v using Json.induct with
  | scalar v hv => rw [withoutMarked_scalar hv]
  | arr items ih =>
    simp only [withoutMarked, itemsWithoutMarked_eq_map, exposed_arr_iff, List.mem_map,
      exists_exists_and_eq_and]
    exact exists_congr fun item => and_congr_right fun hitem => ih item hitem
  | obj members ih =>
    simp only [withoutMarked, membersWithoutMarked_eq_map, exposed_obj_iff, List.mem_map,
      exists_exists_and_eq_and,
      memberWithoutMarked]
    refine exists_congr fun member => and_congr_right fun hmember => and_congr_right fun _ => ?_
    split
    · next hmarked => simp [hmarked]
    · rw [ih member hmember]

theorem redactForObserver_withoutMarked (h : ¬ Exposed lowering v) :
    redactForObserver lowering (withoutMarked lowering v) = redactForObserver lowering v := by
  induction v using Json.induct with
  | scalar v hv => rw [withoutMarked_scalar hv]
  | arr items ih =>
    simp only [withoutMarked, itemsWithoutMarked_eq_map, redactForObserver, redactItems_eq_map,
      List.map_map]
    refine congrArg Json.arr
      (List.map_congr_left fun item hitem => ih item hitem fun hitem' => ?_)
    exact h (exposed_arr_iff.mpr ⟨item, hitem, hitem'⟩)
  | obj members ih =>
    simp only [withoutMarked, membersWithoutMarked_eq_map, redactForObserver,
      redactMembers_eq_map, List.map_map]
    refine congrArg Json.obj (List.map_congr_left fun member hmember => ?_)
    simp only [Function.comp_apply, redactMember, memberWithoutMarked]
    by_cases hsensitive : isSensitiveKey lowering member.1 = true
    · simp only [hsensitive, ↓reduceIte]
    · have hsensitive : isSensitiveKey lowering member.1 = false := by simpa using hsensitive
      have hunmarked : ¬ isMarkedKey lowering member.1 = true := fun hmarked =>
        h (exposed_obj_iff.mpr ⟨member, hmember, hsensitive, .inl hmarked⟩)
      have hinner : ¬ Exposed lowering member.2 := fun hinner =>
        h (exposed_obj_iff.mpr ⟨member, hmember, hsensitive, .inr hinner⟩)
      simp only [hsensitive, if_neg hunmarked, ih member hmember hinner]

/-- **Nothing exposed, nothing leaked.** -/
theorem redactForObserver_eq_of_alike {w : Json} (h : ¬ Exposed lowering v)
    (halike : Alike lowering v w) :
    redactForObserver lowering w = redactForObserver lowering v := by
  have hw : ¬ Exposed lowering w := by
    rw [← exposed_withoutMarked_iff, ← halike, exposed_withoutMarked_iff]
    exact h
  rw [← redactForObserver_withoutMarked h, ← redactForObserver_withoutMarked hw, halike]

/-- **Nothing exposed, nothing to reject.** -/
theorem secretFieldsRedacted_redactForObserver (h : ¬ Exposed lowering v) {key : String}
    (hkey : isMarkedKey lowering key = false) :
    secretFieldsRedacted lowering key (redactForObserver lowering v) = true := by
  induction v using Json.induct generalizing key with
  | scalar v hv =>
    rw [secretFieldsRedacted_scalar (redactForObserver_isScalar.trans hv)]
    simp [hkey]
  | arr items ih =>
    simp only [redactForObserver, redactItems_eq_map, secretFieldsRedacted, Bool.or_eq_true,
      secretItemsRedacted_iff, List.forall_mem_map]
    refine .inr fun item hitem => ih item hitem (fun hinner => ?_) hkey
    exact h (exposed_arr_iff.mpr ⟨item, hitem, hinner⟩)
  | obj members ih =>
    simp only [redactForObserver, redactMembers_eq_map, secretFieldsRedacted, Bool.or_eq_true,
      secretMembersRedacted_iff, List.forall_mem_map, redactMember]
    refine .inr fun member hmember => ?_
    split
    · simp [secretFieldsRedacted, isCleared]
    · next hsensitive =>
      have hsensitive : isSensitiveKey lowering member.1 = false := by simpa using hsensitive
      refine ih member hmember (fun hinner => ?_) ?_
      · exact h (exposed_obj_iff.mpr ⟨member, hmember, hsensitive, .inr hinner⟩)
      · by_contra hmarked
        exact h (exposed_obj_iff.mpr
          ⟨member, hmember, hsensitive, .inl (by simpa using hmarked)⟩)

theorem exists_alike_of_exposed (h : Exposed lowering v) :
    ∃ w, Alike lowering v w ∧ redactForObserver lowering w ≠ redactForObserver lowering v := by
  induction v using Json.induct with
  | scalar v hv => exact absurd h (not_exposed_scalar hv)
  | arr items ih =>
    obtain ⟨item, hitem, hinner⟩ := exposed_arr_iff.mp h
    obtain ⟨other, halike, hdiffer⟩ := ih item hitem hinner
    obtain ⟨before, after, rfl⟩ := List.append_of_mem hitem
    refine ⟨.arr (before ++ other :: after), ?_, ?_⟩
    · unfold Alike at halike ⊢
      simp only [withoutMarked, itemsWithoutMarked_eq_map, List.map_append, List.map_cons, halike]
    · simp only [redactForObserver, redactItems_eq_map, List.map_append, List.map_cons, ne_eq,
        Json.arr.injEq, List.append_cancel_left_eq, List.cons.injEq, and_true]
      exact hdiffer
  | obj members ih =>
    obtain ⟨⟨key, item⟩, hmember, hsensitive, hexposed⟩ := exposed_obj_iff.mp h
    obtain ⟨other, halike, hdiffer⟩ : ∃ other : Json,
        memberWithoutMarked lowering (key, item) = memberWithoutMarked lowering (key, other) ∧
          redactForObserver lowering other ≠ redactForObserver lowering item := by
      by_cases hmarked : isMarkedKey lowering key = true
      · -- below a marked key any value will do
        by_cases hnull : redactForObserver lowering item = .null
        · refine ⟨.bool true, by simp only [memberWithoutMarked, hmarked, ↓reduceIte], ?_⟩
          rw [hnull]
          simp [redactForObserver]
        · exact ⟨.null, by simp only [memberWithoutMarked, hmarked, ↓reduceIte], Ne.symm hnull⟩
      · obtain ⟨other, halike, hdiffer⟩ := ih _ hmember (hexposed.resolve_left hmarked)
        refine ⟨other, ?_, hdiffer⟩
        unfold Alike at halike
        simp only [memberWithoutMarked, halike]
    obtain ⟨before, after, rfl⟩ := List.append_of_mem hmember
    refine ⟨.obj (before ++ (key, other) :: after), ?_, ?_⟩
    · simp only [Alike, withoutMarked, membersWithoutMarked_eq_map, List.map_append,
        List.map_cons, halike]
    · simp only [redactForObserver, redactMembers_eq_map, List.map_append, List.map_cons, ne_eq,
        Json.obj.injEq, List.append_cancel_left_eq, List.cons.injEq, and_true, redactMember,
        hsensitive, Bool.false_eq_true, ↓reduceIte, Prod.mk.injEq, true_and]
      exact hdiffer

end

/-- The redaction of `v` passes the verifier and is redacted to itself, and nothing shows below
marked keys, in `v` neither if the verifier accepts it. -/
structure Agrees : Prop where
  accepted : secretFieldsRedacted lowering "" (redactForObserver lowering v) = true
  settled : redactForObserver lowering (redactForObserver lowering v) =
    redactForObserver lowering v
  blind : ∀ w, Alike lowering v w → redactForObserver lowering w = redactForObserver lowering v
  sound : secretFieldsRedacted lowering "" v = true → Clean lowering v

/-- **Redactor and verifier agree if and only if** nothing stands below a key that only the
verifier knows, and what is hidden comes with something that it rejects. -/
theorem redactor_agrees_iff :
    Agrees lowering v ↔
      ¬ Exposed lowering v ∧ (Hidden lowering v → Revealed lowering v) := by
  constructor
  · intro h
    refine ⟨fun hexposed => ?_, (clean_of_accepted_iff v).mp h.sound⟩
    obtain ⟨w, halike, hdiffer⟩ := exists_alike_of_exposed hexposed
    exact hdiffer (h.blind w halike)
  · rintro ⟨hexposed, hhidden⟩
    have hroot : isMarkedKey lowering "" = false := by
      simp [isMarkedKey, lowering.lower_empty, secretKeyMarkers, occursIn]
    exact {
      accepted := secretFieldsRedacted_redactForObserver hexposed hroot
      settled := redactForObserver_idempotent lowering v
      blind := fun w => redactForObserver_eq_of_alike hexposed
      sound := (clean_of_accepted_iff v).mpr hhidden }

/-- A kubeconfig passes the redactor and its export is rejected; the value of a
nested token passes the verifier. -/
theorem redactor_overlooks_kubeconfig :
    ¬ Agrees asciiLowering (.obj [("kubeconfig", .str "apiVersion: v1")]) ∧
      ¬ Agrees asciiLowering (.obj [("token", .obj [("value", .str "hunter2")])]) := by
  constructor
  · intro h
    have hrejected : secretFieldsRedacted asciiLowering ""
        (redactForObserver asciiLowering (.obj [("kubeconfig", .str "apiVersion: v1")])) =
        false := by decide +kernel
    rw [h.accepted] at hrejected
    cases hrejected
  · intro h
    have haccepted : secretFieldsRedacted asciiLowering ""
        (.obj [("token", .obj [("value", .str "hunter2")])]) = true := by decide +kernel
    have hshows : Shows (.obj [("token", .obj [("value", .str "hunter2")])]) ["token", "value"]
        (.str "hunter2") :=
      ⟨.member List.mem_cons_self (.member List.mem_cons_self (.here _)), rfl, by decide⟩
    have hclean := h.sound haccepted _ _ hshows "token" List.mem_cons_self
    have hmarked : isMarkedKey asciiLowering "token" = true := by decide +kernel
    cases hclean

end OrbitalMesh.Redaction
