import Mathlib.Data.String.Basic

/-!
# JSON values and the dictionaries Python reads them into

Three notions of sameness are in use on JSON values.

* `=` on `Json` also sees the order in which an object lists its members.
* `Json.canon` sorts the members of every object by key, as
  `json.dumps(..., sort_keys=True)` writes them: two values with the same
  canonical form have the same digest.
* `Json.pyEq` is Python's `==`: member order is ignored and numbers are
  compared by value (`1 == 1.0 == True`).

A float is kept as the shortest decimal `mant * 10 ^ exp` that `repr` prints,
with its sign.  The non-finite floats are left out: the digests are taken with
`allow_nan=False`.
-/

/-- A value `json.loads` can return. -/
inductive Json where
  | null
  | bool (b : Bool)
  | int (n : Int)
  | float (neg : Bool) (mant : Nat) (exp : Int)
  | str (s : String)
  | arr (xs : List Json)
  | obj (members : List (String × Json))

instance : Inhabited Json := ⟨.null⟩

/-- A Python dictionary with string keys, in insertion order. -/
abbrev Dict := List (String × Json)

namespace Json

mutual

def decEq : (a b : Json) → Decidable (a = b)
  | .null, .null => isTrue rfl
  | .bool a, .bool b => decidable_of_iff (a = b) (by simp)
  | .int a, .int b => decidable_of_iff (a = b) (by simp)
  | .float s m e, .float s' m' e' =>
    decidable_of_iff (s = s' ∧ m = m' ∧ e = e') (by simp)
  | .str a, .str b => decidable_of_iff (a = b) (by simp)
  | .arr a, .arr b => @decidable_of_iff _ (a = b) (by simp) (decEqList a b)
  | .obj a, .obj b => @decidable_of_iff _ (a = b) (by simp) (decEqMembers a b)
  | .null, .bool _ | .null, .int _ | .null, .float _ _ _ | .null, .str _
  | .null, .arr _ | .null, .obj _
  | .bool _, .null | .bool _, .int _ | .bool _, .float _ _ _ | .bool _, .str _
  | .bool _, .arr _ | .bool _, .obj _
  | .int _, .null | .int _, .bool _ | .int _, .float _ _ _ | .int _, .str _
  | .int _, .arr _ | .int _, .obj _
  | .float _ _ _, .null | .float _ _ _, .bool _ | .float _ _ _, .int _
  | .float _ _ _, .str _ | .float _ _ _, .arr _ | .float _ _ _, .obj _
  | .str _, .null | .str _, .bool _ | .str _, .int _ | .str _, .float _ _ _
  | .str _, .arr _ | .str _, .obj _
  | .arr _, .null | .arr _, .bool _ | .arr _, .int _ | .arr _, .float _ _ _
  | .arr _, .str _ | .arr _, .obj _
  | .obj _, .null | .obj _, .bool _ | .obj _, .int _ | .obj _, .float _ _ _
  | .obj _, .str _ | .obj _, .arr _ => isFalse (by simp)

def decEqList : (a b : List Json) → Decidable (a = b)
  | [], [] => isTrue rfl
  | [], _ :: _ => isFalse (by simp)
  | _ :: _, [] => isFalse (by simp)
  | x :: xs, y :: ys =>
    match decEq x y, decEqList xs ys with
    | isTrue h, isTrue hs => isTrue (by rw [h, hs])
    | isFalse h, _ => isFalse (by simp [h])
    | _, isFalse hs => isFalse (by simp [hs])

def decEqMembers : (a b : List (String × Json)) → Decidable (a = b)
  | [], [] => isTrue rfl
  | [], _ :: _ => isFalse (by simp)
  | _ :: _, [] => isFalse (by simp)
  | (k, x) :: xs, (l, y) :: ys =>
    match decEq x y, decEqMembers xs ys with
    | isTrue h, isTrue hs =>
      if hk : k = l then isTrue (by rw [h, hs, hk])
      else isFalse (by simp [hk])
    | isFalse h, _ => isFalse (by simp [h])
    | _, isFalse hs => isFalse (by simp [hs])

end

instance : DecidableEq Json := decEq

end Json

namespace Dict

variable (d : Dict) (key : String)

/-- `d.get(key)`: the value stored under `key`, if there is one. -/
def get? : Option Json :=
  List.lookup key d

/-- `d.pop(key, None)`, keeping the remaining dictionary. -/
def pop : Dict :=
  d.filter (fun member => member.1 != key)

/-- `d[key] = value`: an existing key keeps its place, a new one goes last. -/
def set (d : Dict) (key : String) (value : Json) : Dict :=
  match d with
  | [] => [(key, value)]
  | (k, v) :: rest =>
    if k = key then (k, value) :: rest else (k, v) :: set rest key value

def update (d other : Dict) : Dict :=
  other.foldl (fun acc member => acc.set member.1 member.2) d

@[simp] theorem get?_nil : get? [] key = none := rfl

theorem get?_cons (k : String) (v : Json) (rest : Dict) (key : String) :
    get? ((k, v) :: rest) key = if key = k then some v else get? rest key := by
  unfold get?
  rw [List.lookup_cons]
  by_cases h : key = k
  · simp [h]
  · simp [h, beq_false_of_ne h]

@[simp] theorem pop_nil : pop [] key = [] := rfl

theorem pop_cons (k : String) (v : Json) (rest : Dict) (key : String) :
    pop ((k, v) :: rest) key = if k = key then pop rest key else (k, v) :: pop rest key := by
  by_cases h : k = key <;> simp [pop, h]

variable {other : String}

theorem get?_pop_of_ne {key : String} (h : key ≠ other) : (d.pop other).get? key = d.get? key := by
  induction d with
  | nil => rfl
  | cons member rest ih =>
    obtain ⟨k, v⟩ := member
    rw [get?_cons]
    by_cases hk : k = other
    · have hne : key ≠ k := fun heq => h (heq.trans hk)
      rw [if_neg hne, ← ih]
      simp [pop, hk]
    · rw [← ih, ← get?_cons]
      simp [pop, hk]

theorem get?_set_self (value : Json) : (d.set key value).get? key = some value := by
  induction d with
  | nil => simp [set, get?_cons]
  | cons member rest ih =>
    obtain ⟨k, v⟩ := member
    by_cases hk : k = key
    · simp [set, get?_cons, hk]
    · have hne : key ≠ k := fun heq => hk heq.symm
      simp [set, get?_cons, hk, hne, ih]

theorem get?_set_of_ne {key : String} (value : Json) (h : key ≠ other) :
    (d.set other value).get? key = d.get? key := by
  induction d with
  | nil => simp [set, get?_cons, h]
  | cons member rest ih =>
    obtain ⟨k, v⟩ := member
    by_cases hk : k = other
    · have hne : key ≠ k := fun heq => h (heq.trans hk)
      simp [set, get?_cons, hk, h]
    · simp [set, get?_cons, hk, ih]

end Dict

namespace Json

/-- The order `sort_keys=True` uses.  Comparing the UTF-8 bytes of two texts
compares their code points. -/
def keyLe (k l : String) : Bool :=
  decide (k.toUTF8.data.toList ≤ l.toUTF8.data.toList)

theorem keyLe_refl (k : String) : keyLe k k = true :=
  decide_eq_true (List.le_refl _)

variable {k l s : String} {v : Json} {n : Int}

theorem keyLe_total (h : ¬ keyLe k l = true) : keyLe l k = true := by
  simp only [keyLe, decide_eq_true_eq] at h ⊢
  exact (List.le_total _ _).resolve_left h

theorem keyLe_trans {m : String} (hkl : keyLe k l = true) (hlm : keyLe l m = true) :
    keyLe k m = true := by
  simp only [keyLe, decide_eq_true_eq] at hkl hlm ⊢
  exact List.le_trans hkl hlm

theorem keyLe_antisymm (hkl : keyLe k l = true) (hlk : keyLe l k = true) : k = l := by
  simp only [keyLe, decide_eq_true_eq] at hkl hlk
  have hbytes := List.le_antisymm hkl hlk
  exact String.toByteArray_inj.mp (ByteArray.ext (Array.toList_inj.mp hbytes))

def insertMember (k : String) (v : Json) : Dict → Dict
  | [] => [(k, v)]
  | (l, w) :: rest =>
    if keyLe k l then (k, v) :: (l, w) :: rest else (l, w) :: insertMember k v rest

mutual

/-- The form `sort_keys=True` writes down: the members of every object are
listed by increasing key. -/
def canon : Json → Json
  | .null => .null
  | .bool b => .bool b
  | .int n => .int n
  | .float neg mant exp => .float neg mant exp
  | .str s => .str s
  | .arr xs => .arr (canonList xs)
  | .obj members => .obj (canonMembers members)

/-- Canonical forms of the elements of an array. -/
def canonList : List Json → List Json
  | [] => []
  | x :: xs => canon x :: canonList xs

def canonMembers : List (String × Json) → List (String × Json)
  | [] => []
  | (k, v) :: rest => insertMember k (canon v) (canonMembers rest)

end

/-- Members are sorted stably, so that a lookup finds the same member before
and after insertion into the sorted list. -/
theorem get?_insertMember (k : String) (v : Json) (d : Dict) (key : String) :
    (insertMember k v d).get? key = if key = k then some v else d.get? key := by
  induction d with
  | nil => simp [insertMember, Dict.get?_cons]
  | cons member rest ih =>
    obtain ⟨l, w⟩ := member
    unfold insertMember
    by_cases hle : keyLe k l = true
    · rw [if_pos hle, Dict.get?_cons]
    · rw [if_neg hle, Dict.get?_cons, ih, Dict.get?_cons]
      by_cases hl : key = l
      · have hne : key ≠ k := by
          intro hk
          rw [← hk, ← hl] at hle
          exact hle (keyLe_refl key)
        simp [hl, hl ▸ hne]
      · simp [hl]

theorem get?_canonMembers (d : Dict) (key : String) :
    Dict.get? (canonMembers d) key = (d.get? key).map canon := by
  induction d with
  | nil => simp [canonMembers]
  | cons member rest ih =>
    obtain ⟨k, v⟩ := member
    rw [canonMembers, get?_insertMember, ih, Dict.get?_cons]
    by_cases hk : key = k
    · simp [hk]
    · simp [hk]

theorem canonMembers_congr {d d' : Dict}
    (h : d.map (fun member => (member.1, canon member.2)) =
      d'.map (fun member => (member.1, canon member.2))) :
    canonMembers d = canonMembers d' := by
  induction d generalizing d' with
  | nil =>
    cases d' with
    | nil => rfl
    | cons member rest => simp at h
  | cons member rest ih =>
    cases d' with
    | nil => simp at h
    | cons member' rest' =>
      simp only [List.map_cons, List.cons.injEq, Prod.mk.injEq] at h
      obtain ⟨⟨hkey, hvalue⟩, hrest⟩ := h
      rw [canonMembers, canonMembers, hkey, hvalue, ih hrest]

theorem canonList_eq_map (xs : List Json) : canonList xs = xs.map canon := by
  induction xs with
  | nil => rfl
  | cons x rest ih => simp [canonList, ih]

theorem insertMember_comm (hne : k ≠ l) (v w : Json) (d : Dict) :
    insertMember k v (insertMember l w d) = insertMember l w (insertMember k v d) := by
  -- exactly one of the two keys is the smaller one
  have hflip : keyLe k l = true ↔ ¬ keyLe l k = true := by
    constructor
    · exact fun hkl hlk => hne (keyLe_antisymm hkl hlk)
    · exact fun h => keyLe_total h
  induction d with
  | nil =>
    by_cases hkl : keyLe k l = true
    · simp [insertMember, hkl, hflip.mp hkl]
    · have hlk := keyLe_total hkl
      simp [insertMember, hkl, hlk]
  | cons member rest ih =>
    obtain ⟨m, x⟩ := member
    by_cases hkm : keyLe k m = true <;> by_cases hlm : keyLe l m = true
    · by_cases hkl : keyLe k l = true
      · simp [insertMember, hkm, hlm, hkl, hflip.mp hkl]
      · have hlk := keyLe_total hkl
        simp [insertMember, hkm, hlm, hkl, hlk]
    · have hlk : ¬ keyLe l k = true := fun hlk => hlm (keyLe_trans hlk hkm)
      simp [insertMember, hkm, hlm, hlk]
    · have hkl : ¬ keyLe k l = true := fun hkl => hkm (keyLe_trans hkl hlm)
      simp [insertMember, hkm, hlm, hkl]
    · simp [insertMember, hkm, hlm, ih]

theorem get?_eq_of_canon_eq {d d' : Dict} (h : canon (.obj d) = canon (.obj d'))
    (key : String) : (d.get? key).map canon = (d'.get? key).map canon := by
  have hmembers : canonMembers d = canonMembers d' := by
    simpa [canon] using h
  rw [← get?_canonMembers, ← get?_canonMembers, hmembers]

mutual

/-- Representatives of Python's `==`: booleans and whole floats are integers, members are sorted. -/
def norm : Json → Json
  | .null => .null
  | .bool b => .int (if b then 1 else 0)
  | .int n => .int n
  | .float neg mant exp =>
    let sign : Int := if neg then -1 else 1
    if mant = 0 then .int 0
    else if 0 ≤ exp then .int (sign * (mant * 10 ^ exp.toNat : Nat))
    else if mant % 10 ^ (-exp).toNat = 0 then
      .int (sign * (mant / 10 ^ (-exp).toNat : Nat))
    else .float neg mant exp
  | .str s => .str s
  | .arr xs => .arr (normList xs)
  | .obj members => .obj (normMembers members)

/-- Representatives of the elements of an array. -/
def normList : List Json → List Json
  | [] => []
  | x :: xs => norm x :: normList xs

/-- Representatives of the members of an object, sorted by key. -/
def normMembers : List (String × Json) → List (String × Json)
  | [] => []
  | (k, v) :: rest => insertMember k (norm v) (normMembers rest)

end

/-- Sorting a member into a dictionary and taking representatives commute. -/
theorem normMembers_insertMember (k : String) (v : Json) (d : Dict) :
    normMembers (insertMember k v d) = insertMember k (norm v) (normMembers d) := by
  induction d with
  | nil => rfl
  | cons member rest ih =>
    obtain ⟨l, w⟩ := member
    by_cases hkl : keyLe k l = true
    · simp [insertMember, normMembers, hkl]
    · have hne : k ≠ l := by
        rintro rfl
        exact hkl (keyLe_refl k)
      rw [insertMember, if_neg hkl, normMembers, ih, normMembers]
      exact insertMember_comm hne.symm _ _ _

mutual

/-- The order of members does not matter to Python's `==`. -/
theorem norm_canon : (a : Json) → norm (canon a) = norm a
  | .null | .bool _ | .int _ | .float _ _ _ | .str _ => by simp [canon]
  | .arr xs => by simp [canon, norm, normList_canonList xs]
  | .obj members => by simp [canon, norm, normMembers_canonMembers members]

theorem normList_canonList : (xs : List Json) → normList (canonList xs) = normList xs
  | [] => rfl
  | x :: xs => by simp [canonList, normList, norm_canon x, normList_canonList xs]

theorem normMembers_canonMembers :
    (d : List (String × Json)) → normMembers (canonMembers d) = normMembers d
  | [] => rfl
  | (k, v) :: rest => by
    rw [canonMembers, normMembers_insertMember, normMembers_canonMembers rest, norm_canon v,
      normMembers]

end

/-- Python's `==` on JSON values. -/
def pyEq (a b : Json) : Bool := decide (norm a = norm b)

/-- Python's `==` between two results of `d.get(key)`; `None` is `null`. -/
def pyEqOpt (a b : Option Json) : Bool := pyEq (a.getD .null) (b.getD .null)

@[simp] theorem pyEq_self (a : Json) : pyEq a a = true := by simp [pyEq]

theorem pyEq_congr_canon {a a' b : Json} (h : a.canon = a'.canon) : pyEq a b = pyEq a' b := by
  unfold pyEq
  rw [← norm_canon a, h, norm_canon a']

theorem pyEq_int_iff : pyEq v (.int n) = true ↔ norm v = .int n := by
  unfold pyEq
  rw [decide_eq_true_iff, norm]

theorem pyEq_str_iff : pyEq v (.str s) = true ↔ v = .str s := by
  constructor
  · intro h
    have hnorm : norm v = .str s := of_decide_eq_true h
    cases v with
    | str t => simpa [norm] using hnorm
    | float neg mant exp =>
      simp only [norm] at hnorm
      split at hnorm
      · cases hnorm
      · split at hnorm
        · cases hnorm
        · split at hnorm <;> cases hnorm
    | null | bool b | int n | arr xs | obj members => simp [norm] at hnorm
  · rintro rfl
    simp

theorem pyEqOpt_str_iff {v : Option Json} :
    pyEqOpt v (some (.str s)) = true ↔ v = some (.str s) := by
  unfold pyEqOpt
  rw [Option.getD_some, pyEq_str_iff]
  cases v <;> simp

theorem int_eq_of_pyEq {m : Int} (hn : pyEq v (.int n) = true) (hm : pyEq v (.int m) = true) :
    n = m := by
  rw [pyEq_int_iff] at hn hm
  rw [hn] at hm
  simpa using hm

def mix (sum n : Nat) : Nat := (sum * 1000003 + n + 1) % 2 ^ 256

def mixText (sum : Nat) (s : String) : Nat :=
  mix (s.toUTF8.data.toList.foldl (fun acc b => mix acc b.toNat) sum) s.utf8ByteSize

mutual

def checksum (sum : Nat) : Json → Nat
  | .null => mix sum 0
  | .bool b => mix (mix sum 1) b.toNat
  | .int n => mix (mix (mix sum 2) n.toNat) (-n).toNat
  | .float neg mant exp =>
    mix (mix (mix (mix (mix sum 3) neg.toNat) mant) exp.toNat) (-exp).toNat
  | .str s => mixText (mix sum 4) s
  | .arr xs => checksumList (mix sum 5) xs
  | .obj members => checksumMembers (mix sum 6) members

def checksumList (sum : Nat) : List Json → Nat
  | [] => mix sum 7
  | x :: xs => checksumList (checksum sum x) xs

def checksumMembers (sum : Nat) : List (String × Json) → Nat
  | [] => mix sum 8
  | (k, v) :: rest => checksumMembers (checksum (mixText sum k) v) rest

end

/-- `isinstance(value, dict)`, exposing the dictionary. -/
def asObj? : Json → Option Dict
  | .obj members => some members
  | _ => none

/-- `str(value)` on the values that are strings; the empty string on others. -/
def asStr : Json → String
  | .str s => s
  | _ => ""

end Json
