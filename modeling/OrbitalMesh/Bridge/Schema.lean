import OrbitalMesh.Runtime

/-!
# Shared contract schemas

`schema_validation.py` reads a fragment of JSON Schema: `enum`, `type`,
`required`, `properties`, `additionalProperties: false`, `minItems` and `items`.
Every other keyword is skipped.  In particular a `$ref` is not followed, so a
member whose schema is only a reference may hold anything.
-/

namespace OrbitalMesh

/-- The names that `type` may hold. -/
inductive JsonType where
  | null
  | string
  | number
  | integer
  | boolean
  | object
  | array
deriving DecidableEq

/-- The spelling of a type in a schema file. -/
def JsonType.name : JsonType → String
  | .null => "null"
  | .string => "string"
  | .number => "number"
  | .integer => "integer"
  | .boolean => "boolean"
  | .object => "object"
  | .array => "array"

/-- The keywords that the validator reads of a schema.  An absent `enum` or
`type` is an empty list, an absent `minItems` is zero. -/
structure Schema where
  enum : List Json := []
  types : List JsonType := []
  required : List String := []
  properties : List (String × Schema) := []
  closed : Bool := false
  minItems : Nat := 0
  items : Option Schema := none

namespace Schema

/-- `{"type": "string"}`. -/
def text : Schema := { types := [.string] }

/-- `{"type": "string", "enum": [...]}`. -/
def textIn (values : List String) : Schema := { types := [.string], enum := values.map .str }

/-- `{"enum": [...]}`. -/
def oneOf (values : List String) : Schema := { enum := values.map .str }

/-- `{"$ref": ...}`, which the validator does not follow. -/
def reference : Schema := {}

/-- `{"type": "object"}`. -/
def object : Schema := { types := [.object] }

def record (required : List String) (properties : List (String × Schema)) : Schema :=
  { types := [.object], required, properties, closed := true }

/-- `{"type": "array", "items": ...}`. -/
def listOf (items : Schema) (minItems : Nat) : Schema :=
  { types := [.array], items := some items, minItems }

end Schema

def matchesType : Json → JsonType → Bool
  | .null, .null => true
  | .str _, .string => true
  | .int _, .number => true
  | .float _ _ _, .number => true
  | .int _, .integer => true
  | .bool _, .boolean => true
  | .obj _, .object => true
  | .arr _, .array => true
  | _, _ => false

/-- `type(value).__name__`. -/
def typeName : Json → String
  | .null => "NoneType"
  | .bool _ => "bool"
  | .int _ => "int"
  | .float _ _ _ => "float"
  | .str _ => "str"
  | .arr _ => "list"
  | .obj _ => "dict"

/-- `repr` of a list of texts. -/
def textsRepr (texts : List String) : String := jsonRepr (.arr (texts.map .str))

/-- `raise SchemaValidationError(text)` when the condition holds. -/
def refuseIf (condition : Bool) (text : String) : Except PyError Unit :=
  rejectIf condition ⟨.schemaValidationError, text⟩

/-- `sorted(set(left) - set(right))`. -/
def missingFrom (left right : List String) : List String :=
  ((left.filter fun text => !right.contains text).dedup).insertionSort
    fun a b => Json.keyLe a b = true

/-- The checks of `_validate_node` that do not descend. -/
def checkNode (value : Json) (schema : Schema) (path : String) : Except PyError Unit := do
  refuseIf (!schema.enum.isEmpty && !schema.enum.any (Json.pyEq value))
    (path ++ ": " ++ jsonRepr value ++ " not in enum " ++ jsonRepr (.arr schema.enum))
  refuseIf (!schema.types.isEmpty && !schema.types.any (matchesType value))
    (path ++ ": expected type " ++ textsRepr (schema.types.map JsonType.name) ++ ", got " ++
      typeName value)

/-- The checks of `_validate_object` that do not descend. -/
def checkObject (members : Dict) (schema : Schema) (path : String) : Except PyError Unit := do
  match schema.required.find? fun field => (members.get? field).isNone with
  | some field =>
    .error ⟨.schemaValidationError, path ++ ": missing required field " ++ pyRepr field⟩
  | none =>
    let extra := missingFrom (members.map Prod.fst) (schema.properties.map Prod.fst)
    refuseIf (schema.closed && !extra.isEmpty)
      (path ++ ": unexpected fields " ++ textsRepr extra)

mutual

def validateNode : Json → Schema → String → Except PyError Unit
  | .obj members, schema, path => do
    checkNode (.obj members) schema path
    if schema.types.contains .object then
      checkObject members schema path
      validateMembers members schema.properties path
    else .ok ()
  | .arr items, schema, path => do
    checkNode (.arr items) schema path
    if schema.types.contains .array then
      refuseIf (decide (items.length < schema.minItems))
        (path ++ ": expected at least " ++ toString schema.minItems ++ " items, got " ++
          toString items.length)
      match schema.items with
      | none => .ok ()
      | some itemSchema => validateItems items itemSchema path 0
    else .ok ()
  | .null, schema, path => checkNode .null schema path
  | .bool b, schema, path => checkNode (.bool b) schema path
  | .int n, schema, path => checkNode (.int n) schema path
  | .float neg mant exp, schema, path => checkNode (.float neg mant exp) schema path
  | .str s, schema, path => checkNode (.str s) schema path

/-- The loop of `_validate_object` over the members. -/
def validateMembers : List (String × Json) → List (String × Schema) → String →
    Except PyError Unit
  | [], _, _ => .ok ()
  | (field, value) :: rest, properties, path => do
    match properties.lookup field with
    | none => validateMembers rest properties path
    | some schema =>
      validateNode value schema (path ++ "." ++ field)
      validateMembers rest properties path

/-- The loop of `_validate_array` over the items. -/
def validateItems : List Json → Schema → String → Nat → Except PyError Unit
  | [], _, _, _ => .ok ()
  | item :: rest, schema, path, index => do
    validateNode item schema (path ++ "[" ++ toString index ++ "]")
    validateItems rest schema path (index + 1)

end

/-- `validate_payload`, on a loaded schema. -/
def validatePayload (schema : Schema) (payload : Json) : Except PyError Unit :=
  validateNode payload schema "$"

variable {value : Json} {schema : Schema} {path : String}

theorem validateNode_checks (h : validateNode value schema path = .ok ()) :
    checkNode value schema path = .ok () := by
  cases value with
  | obj members | arr items =>
    obtain ⟨u, hchecked, -⟩ := bind_ok (by simpa only [validateNode] using h)
    exact hchecked
  | _ => simpa only [validateNode] using h

theorem validateNode_type (h : validateNode value schema path = .ok ())
    (htypes : schema.types.isEmpty = false) : schema.types.any (matchesType value) = true := by
  obtain ⟨_, -, htype⟩ := bind_ok (validateNode_checks h)
  simpa [refuseIf, htypes] using htype

variable {members : Dict} {field : String} {properties : List (String × Schema)}

theorem validateMembers_of_mem
    (h : validateMembers members properties path = .ok ()) (hmem : (field, value) ∈ members)
    (hschema : properties.lookup field = some schema) :
    validateNode value schema (path ++ "." ++ field) = .ok () := by
  induction members with
  | nil => cases hmem
  | cons member rest ih =>
    rcases List.mem_cons.mp hmem with hhead | htail
    · cases hhead
      rw [validateMembers, hschema] at h
      obtain ⟨_, hfirst, -⟩ := bind_ok h
      exact hfirst
    · rw [validateMembers] at h
      split at h
      · exact ih h htail
      · obtain ⟨_, -, hrest⟩ := bind_ok h
        exact ih hrest htail

theorem validateNode_member (h : validateNode (.obj members) schema path = .ok ())
    (hobject : schema.types.contains .object = true) {member : Schema}
    (hfound : members.get? field = some value)
    (hschema : schema.properties.lookup field = some member) :
    validateNode value member (path ++ "." ++ field) = .ok () := by
  obtain ⟨_, -, h⟩ := bind_ok h
  rw [if_pos hobject] at h
  obtain ⟨_, -, hmembers⟩ := bind_ok h
  have hmem : (field, value) ∈ members := by
    rw [Dict.get?, List.lookup_eq_some_iff] at hfound
    obtain ⟨before, after, rfl, -⟩ := hfound
    simp
  exact validateMembers_of_mem hmembers hmem hschema

theorem validateNode_required (h : validateNode (.obj members) schema path = .ok ())
    (hobject : schema.types.contains .object = true) (hrequired : field ∈ schema.required) :
    (members.get? field).isSome = true := by
  obtain ⟨_, -, h⟩ := bind_ok h
  rw [if_pos hobject] at h
  obtain ⟨_, hchecked, -⟩ := bind_ok h
  unfold checkObject at hchecked
  split at hchecked
  · cases hchecked
  · next hnone =>
    have hfound := List.find?_eq_none.mp hnone field hrequired
    cases hget : members.get? field with
    | none => simp [hget] at hfound
    | some value => rfl

theorem validateMembers_ok
    (h : ∀ field value schema, (field, value) ∈ members → properties.lookup field = some schema →
      validateNode value schema (path ++ "." ++ field) = .ok ()) :
    validateMembers members properties path = .ok () := by
  induction members with
  | nil => rfl
  | cons member rest ih =>
    obtain ⟨field, first⟩ := member
    have hrest := ih fun other value schema hmem => h other value schema (.tail _ hmem)
    rw [validateMembers]
    split
    · exact hrest
    · next schema hschema =>
      rw [h field first schema (.head _) hschema]
      exact hrest

theorem validateNode_object_ok (hcheck : checkNode (.obj members) schema path = .ok ())
    (hclosed : schema.closed = false)
    (hrequired : ∀ field ∈ schema.required, (members.get? field).isSome = true)
    (hmembers : ∀ field value member, (field, value) ∈ members →
      schema.properties.lookup field = some member →
      validateNode value member (path ++ "." ++ field) = .ok ()) :
    validateNode (.obj members) schema path = .ok () := by
  have hnone : schema.required.find? (fun field => (members.get? field).isNone) = none := by
    refine List.find?_eq_none.mpr fun field hfield => ?_
    have hsome := hrequired field hfield
    simp [Option.isSome_iff_ne_none.mp hsome]
  rw [validateNode, hcheck, ok_bind]
  split
  · rw [checkObject, hnone]
    simp only [hclosed, Bool.false_and, refuseIf, rejectIf]
    exact validateMembers_ok hmembers
  · rfl

theorem validateNode_mem (h : validateNode (.obj members) schema path = .ok ())
    (hobject : schema.types.contains .object = true) {member : Schema}
    (hmem : (field, value) ∈ members) (hschema : schema.properties.lookup field = some member) :
    validateNode value member (path ++ "." ++ field) = .ok () := by
  obtain ⟨_, -, h⟩ := bind_ok h
  rw [if_pos hobject] at h
  obtain ⟨_, -, hmembers⟩ := bind_ok h
  exact validateMembers_of_mem hmembers hmem hschema

variable {members' : Dict} {place : String} {minItems : Nat}

theorem isNone_get?_congr (hkeys : members'.map Prod.fst = members.map Prod.fst) (field : String) :
    (members'.get? field).isNone = (members.get? field).isNone := by
  have hiff (d : Dict) : d.get? field = none ↔ field ∉ d.map Prod.fst := by
    simp [Dict.get?, List.lookup_eq_none_iff]
    grind
  rw [Bool.eq_iff_iff, Option.isNone_iff_eq_none, Option.isNone_iff_eq_none, hiff, hiff, hkeys]

theorem validateNode_of_keys (h : validateNode (.obj members) schema path = .ok ())
    (hobject : schema.types.contains .object = true) (henum : schema.enum = [])
    (hkeys : members'.map Prod.fst = members.map Prod.fst)
    (hmembers : ∀ field value member, (field, value) ∈ members' →
      schema.properties.lookup field = some member →
      validateNode value member (path ++ "." ++ field) = .ok ()) :
    validateNode (.obj members') schema path = .ok () := by
  have hnode : checkNode (.obj members') schema path = checkNode (.obj members) schema path := by
    have htypes : schema.types.any (matchesType (.obj members')) =
        schema.types.any (matchesType (.obj members)) := by
      congr 1
      funext type
      cases type <;> rfl
    simp only [checkNode, henum, htypes]
    rfl
  have hchecked : checkObject members' schema path = checkObject members schema path := by
    simp only [checkObject, isNone_get?_congr hkeys, hkeys]
  rw [validateNode] at h ⊢
  rw [hnode, hchecked]
  obtain ⟨_, hfirst, h⟩ := bind_ok h
  rw [if_pos hobject] at h ⊢
  obtain ⟨_, hsecond, -⟩ := bind_ok h
  rw [hfirst, hsecond, ok_bind, ok_bind]
  exact validateMembers_ok hmembers

theorem validateNode_types {types : List JsonType} (path : String)
    (h : types.any (matchesType value) = true) (hobject : types.contains .object = false)
    (harray : types.contains .array = false) : validateNode value { types } path = .ok () := by
  have hcheck : checkNode value { types } path = .ok () := by
    simp [checkNode, refuseIf, rejectIf, h]
  cases value with
  | obj members => rw [validateNode, hcheck, ok_bind, if_neg (by rw [hobject]; decide)]
  | arr items => rw [validateNode, hcheck, ok_bind, if_neg (by rw [harray]; decide)]
  | _ => simpa only [validateNode] using hcheck

theorem checkNode_textIn {text : String} {values : List String} (h : text ∈ values)
    (path : String) : checkNode (.str text) (.textIn values) path = .ok () := by
  have hlisted : (values.map Json.str).any (Json.pyEq (.str text)) = true :=
    List.any_eq_true.mpr ⟨.str text, List.mem_map.mpr ⟨text, h, rfl⟩, by simp [Json.pyEq]⟩
  simp [checkNode, Schema.textIn, hlisted, refuseIf, rejectIf, matchesType]

theorem checkNode_place (h : checkNode value schema place = .ok ()) (place' : String) :
    checkNode value schema place' = .ok () := by
  unfold checkNode refuseIf rejectIf at h ⊢
  obtain ⟨_, hfirst, hsecond⟩ := bind_ok h
  split at hfirst
  · cases hfirst
  · next henum =>
    split at hsecond
    · cases hsecond
    · next htypes =>
      rw [if_neg henum, if_neg htypes]
      rfl

mutual

/-- What passes in one place passes everywhere. -/
theorem validateNode_place : (value : Json) → (schema : Schema) → (place place' : String) →
    validateNode value schema place = .ok () → validateNode value schema place' = .ok ()
  | .obj members, schema, place, place', h => by
    rw [validateNode] at h ⊢
    obtain ⟨_, hnode, h⟩ := bind_ok h
    rw [checkNode_place hnode place', ok_bind]
    split at h
    · next hobject =>
      obtain ⟨_, hchecked, hmembers⟩ := bind_ok h
      have hchecked' : checkObject members schema place' = .ok () := by
        unfold checkObject refuseIf rejectIf at hchecked ⊢
        split at hchecked
        · cases hchecked
        · simp only at hchecked ⊢
          split at hchecked
          · cases hchecked
          · next hextra => rw [if_neg hextra]
      rw [if_pos hobject, hchecked', ok_bind]
      exact validateMembers_place members schema.properties place place' hmembers
    · next hobject => rw [if_neg hobject]
  | .arr items, schema, place, place', h => by
    rw [validateNode] at h ⊢
    obtain ⟨_, hnode, h⟩ := bind_ok h
    rw [checkNode_place hnode place', ok_bind]
    split at h
    · next harray =>
      obtain ⟨_, hlength, hitems⟩ := bind_ok h
      unfold refuseIf rejectIf at hlength ⊢
      split at hlength
      · cases hlength
      · next hlong =>
        rw [if_pos harray, if_neg hlong, ok_bind]
        split at hitems
        · rfl
        · next schema' _ => exact validateItems_place items schema' place place' 0 hitems
    · next harray => rw [if_neg harray]
  | .null, _, _, place', h | .bool _, _, _, place', h | .int _, _, _, place', h
  | .float _ _ _, _, _, place', h | .str _, _, _, place', h => by
    rw [validateNode] at h ⊢
    exact checkNode_place h place'

theorem validateMembers_place : (members : List (String × Json)) →
    (properties : List (String × Schema)) → (place place' : String) →
    validateMembers members properties place = .ok () →
    validateMembers members properties place' = .ok ()
  | [], _, _, _, _ => rfl
  | (field, value) :: rest, properties, place, place', h => by
    rw [validateMembers] at h ⊢
    split at h
    · exact validateMembers_place rest properties place place' h
    · next schema hschema =>
      obtain ⟨_, hfirst, hrest⟩ := bind_ok h
      rw [validateNode_place value schema _ (place' ++ "." ++ field) hfirst, ok_bind]
      exact validateMembers_place rest properties place place' hrest

theorem validateItems_place : (items : List Json) → (schema : Schema) →
    (place place' : String) → (index : Nat) → validateItems items schema place index = .ok () →
    validateItems items schema place' index = .ok ()
  | [], _, _, _, _, _ => rfl
  | item :: rest, schema, place, place', index, h => by
    rw [validateItems] at h ⊢
    obtain ⟨_, hfirst, hrest⟩ := bind_ok h
    rw [validateNode_place item schema _ (place' ++ "[" ++ toString index ++ "]") hfirst,
      ok_bind]
    exact validateItems_place rest schema place place' (index + 1) hrest

end

theorem validateItems_of_mem {items : List Json} {index : Nat}
    (h : validateItems items schema path index = .ok ()) {item : Json} (hmem : item ∈ items) :
    ∃ place, validateNode item schema place = .ok () := by
  induction items generalizing index with
  | nil => cases hmem
  | cons first rest ih =>
    obtain ⟨_, hfirst, hrest⟩ := bind_ok h
    rcases List.mem_cons.mp hmem with rfl | htail
    · exact ⟨_, hfirst⟩
    · exact ih hrest htail

theorem validateNode_items (h : validateNode value (.listOf schema minItems) path = .ok ()) :
    ∃ items, value = .arr items ∧
      ∀ item ∈ items, ∃ place, validateNode item schema place = .ok () := by
  have htype := validateNode_type h (by rfl)
  cases value with
  | arr items =>
    refine ⟨items, rfl, fun item hmem => ?_⟩
    obtain ⟨_, -, h⟩ := bind_ok h
    obtain ⟨_, -, h⟩ := bind_ok h
    exact validateItems_of_mem h hmem
  | _ => exact absurd htype (by simp [Schema.listOf, matchesType])

theorem validateNode_listOf_zero (h : validateNode value (.listOf schema minItems) place = .ok ())
    (place' : String) : validateNode value (.listOf schema 0) place' = .ok () := by
  have htype := validateNode_type h (by rfl)
  cases value with
  | arr items =>
    have hnode : checkNode (.arr items) (.listOf schema 0) place' = .ok () :=
      checkNode_place (validateNode_checks h) place'
    rw [validateNode] at h ⊢
    obtain ⟨_, -, h⟩ := bind_ok h
    obtain ⟨_, -, hitems⟩ := bind_ok h
    exact validateItems_place items schema place place' 0 hitems
  | _ => exact absurd htype (by simp [Schema.listOf, matchesType])

theorem validateMembers_cons {rest : Dict} (hschema : properties.lookup field = some schema)
    (hvalue : validateNode value schema (path ++ "." ++ field) = .ok ())
    (hrest : validateMembers rest properties path = .ok ()) :
    validateMembers ((field, value) :: rest) properties path = .ok () := by
  rw [validateMembers, hschema]
  simp only [hvalue, ok_bind, hrest]

end OrbitalMesh
