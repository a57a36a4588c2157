import Mathlib.Data.List.Dedup
import Mathlib.Data.List.Sort
import OrbitalMesh.Base.Json

/-!
# The runtime the repo-patch authority is written against

The Python exceptions its handlers tell apart, the text predicates of its
argument checks, its clock, its digests and its JSON tables.
-/

namespace OrbitalMesh

/-- The exception classes that the authority's handlers distinguish. -/
inductive ErrorClass where
  | exception
  | valueError
  | unicodeError
  | schemaValidationError
  | authorityStoreError
  | authorityConflictError
  | authorityNotFoundError
  | authorityStateError
  | keyError
  | typeError
  | osError
  | overflowError
  | runtimeError
  | repoPatchVerifierError
  | timeoutExpired
deriving DecidableEq

/-- The direct base class, up to `Exception`. -/
def ErrorClass.base : ErrorClass → ErrorClass
  | .unicodeError | .schemaValidationError | .authorityStoreError => .valueError
  | .authorityConflictError | .authorityNotFoundError
  | .authorityStateError => .authorityStoreError
  | .repoPatchVerifierError => .runtimeError
  | _ => .exception

def ErrorClass.isSubclass (c d : ErrorClass) : Bool :=
  c == d || c.base == d || c.base.base == d || d == .exception

/-- A raised exception: its class and its message. -/
structure PyError where
  cls : ErrorClass
  text : String
deriving DecidableEq

/-- `except (c₁, …, cₙ)` catches the exception. -/
def PyError.caughtBy (e : PyError) (classes : List ErrorClass) : Bool :=
  classes.any e.cls.isSubclass

variable {α β : Type} {ε : Type}
  {x : Except ε α} {f : α → Except ε β} {xs : List α} {γ δ : Type} {texts : List String}

/-- A sequence of fallible steps succeeds when each of them does. -/
theorem Except.bind_ok_iff {b : β} : (x >>= f) = .ok b ↔ ∃ a, x = .ok a ∧ f a = .ok b := by
  cases x <;> simp [bind, Except.bind]

theorem bind_ok {b : β} (h : (x >>= f) = .ok b) :
    ∃ a, x = .ok a ∧ f a = .ok b := Except.bind_ok_iff.mp h

@[simp] theorem ok_bind (a : α) (f : α → Except ε β) : (Except.ok a >>= f) = f a := rfl

@[simp] theorem error_bind (e : ε) (f : α → Except ε β) : (Except.error e >>= f) = .error e := rfl

theorem exists_of_mem_mapM {ys : List β} (h : xs.mapM f = .ok ys) {y : β} (hmem : y ∈ ys) :
    ∃ x ∈ xs, f x = .ok y := by
  induction xs generalizing ys with
  | nil =>
    cases h
    cases hmem
  | cons x rest ih =>
    rw [List.mapM_cons] at h
    obtain ⟨z, hz, h⟩ := Except.bind_ok_iff.mp h
    obtain ⟨zs, hzs, h⟩ := Except.bind_ok_iff.mp h
    cases h
    rcases List.mem_cons.mp hmem with rfl | hmem
    · exact ⟨x, List.mem_cons_self, hz⟩
    · obtain ⟨w, hw, hfw⟩ := ih hzs hmem
      exact ⟨w, List.mem_cons_of_mem _ hw, hfw⟩

theorem exists_mapM_ok_iff : (∃ ys, xs.mapM f = .ok ys) ↔ ∀ x ∈ xs, ∃ y, f x = .ok y := by
  induction xs with
  | nil => exact ⟨fun _ x hmem => absurd hmem List.not_mem_nil, fun _ => ⟨[], rfl⟩⟩
  | cons x rest ih =>
    rw [List.forall_mem_cons, ← ih]
    simp only [List.mapM_cons, Except.bind_ok_iff]
    constructor
    · rintro ⟨ys, y, hy, others, hothers, -⟩
      exact ⟨⟨y, hy⟩, others, hothers⟩
    · rintro ⟨⟨y, hy⟩, others, hothers⟩
      exact ⟨y :: others, y, hy, others, hothers, rfl⟩

/-- Two fallible results agree when both fail, or both succeed with related
values. -/
inductive Agree {α β : Type} (R : α → β → Prop) :
    Except PyError α → Except PyError β → Prop
  | ok {a : α} {b : β} (h : R a b) : Agree R (.ok a) (.ok b)
  | error (e e' : PyError) : Agree R (.error e) (.error e')

variable {S : γ → δ → Prop}

theorem Agree.bind {R : α → β → Prop} {x : Except PyError α} {y : Except PyError β}
    {f : α → Except PyError γ} {g : β → Except PyError δ} (h : Agree R x y)
    (hnext : ∀ a b, R a b → Agree S (f a) (g b)) : Agree S (x >>= f) (y >>= g) := by
  cases h with
  | ok hab => exact hnext _ _ hab
  | error e e' => exact .error e e'

theorem Agree.refl {R : α → α → Prop} (hR : ∀ a, R a a) (x : Except PyError α) : Agree R x x := by
  cases x with
  | ok a => exact .ok (hR a)
  | error e => exact .error e e

theorem Agree.bind_same (x : Except PyError α) {f : α → Except PyError γ}
    {g : α → Except PyError δ} (hnext : ∀ a, Agree S (f a) (g a)) :
    Agree S (x >>= f) (x >>= g) := by
  refine Agree.bind (Agree.refl (fun _ => rfl) x) ?_
  rintro a _ rfl
  exact hnext a

/-- `raise ValueError(text)`. -/
def valueError {α : Type} (text : String) : Except PyError α :=
  .error ⟨.valueError, text⟩

/-- `if condition: raise ValueError(text)`. -/
def rejectIf (condition : Bool) (e : PyError) : Except PyError Unit :=
  if condition then .error e else .ok ()

@[simp] theorem rejectIf_ok {condition : Bool} {e : PyError} {u : Unit} :
    rejectIf condition e = .ok u ↔ condition = false := by
  cases condition <;> simp [rejectIf]

/-- Characters removed by `str.strip()`. -/
def isPySpace (c : Char) : Bool :=
  let n := c.toNat
  (0x09 ≤ n && n ≤ 0x0D) || (0x1C ≤ n && n ≤ 0x20) || n == 0x85 || n == 0xA0 ||
    n == 0x1680 || (0x2000 ≤ n && n ≤ 0x200A) || n == 0x2028 || n == 0x2029 ||
    n == 0x202F || n == 0x205F || n == 0x3000

variable (value : String)

/-- `not value.strip()`. -/
def isBlank : Bool := value.toList.all isPySpace

/-- `text.strip()`. -/
def pyStrip (text : String) : String :=
  String.ofList (((text.toList.dropWhile isPySpace).reverse.dropWhile isPySpace).reverse)

/-- `^[0-9a-f]{64}$`, matched in full, on the UTF-8 bytes of the text. -/
def isHex64 : Bool :=
  let bytes := value.toUTF8.data.toList
  bytes.length == 64 && bytes.all fun b => (48 ≤ b && b ≤ 57) || (97 ≤ b && b ≤ 102)

/-- `repr(value)` of a text: single quotes unless the text has single quotes
only; backslashes, line breaks and tabs are escaped. -/
def pyRepr : String :=
  let quote := if value.toList.contains '\'' && !value.toList.contains '"' then '"' else '\''
  let escape (c : Char) : String :=
    if c = quote then String.ofList ['\\', c]
    else if c = '\\' then "\\\\"
    else if c = '\n' then "\\n"
    else if c = '\r' then "\\r"
    else if c = '\t' then "\\t"
    else String.ofList [c]
  String.join ([String.ofList [quote]] ++ value.toList.map escape ++ [String.ofList [quote]])

/-- `n` zeros. -/
def zeros (n : Int) : String := String.ofList (List.replicate n.toNat '0')

/-- `repr` of the float `mant * 10 ^ exp`: positional near the point, else scientific. -/
def floatRepr (neg : Bool) (mant : Nat) (exp : Int) : String :=
  let digits := (toString mant).toList
  let point : Int := digits.length + exp
  let magnitude :=
    if mant = 0 then "0.0"
    else if -4 < point ∧ point ≤ 0 then "0." ++ zeros (-point) ++ String.ofList digits
    else if 0 < point ∧ point ≤ 16 then
      String.ofList (digits.take point.toNat) ++ zeros (point - digits.length) ++ "." ++
        (if point < digits.length then String.ofList (digits.drop point.toNat) else "0")
    else
      String.ofList (digits.take 1) ++
        (if digits.length = 1 then "" else "." ++ String.ofList (digits.drop 1)) ++
        (if point ≤ 0 then "e-" else "e+") ++
        (let power := toString (point - 1).natAbs
         if power.length < 2 then "0" ++ power else power)
  (if neg then "-" else "") ++ magnitude

mutual

/-- `repr(value)` of a JSON value. -/
def jsonRepr : Json → String
  | .null => "None"
  | .bool true => "True"
  | .bool false => "False"
  | .int n => toString n
  | .float neg mant exp => floatRepr neg mant exp
  | .str text => pyRepr text
  | .arr items => "[" ++ ", ".intercalate (jsonReprs items) ++ "]"
  | .obj members => "\x7b" ++ ", ".intercalate (memberReprs members) ++ "\x7d"

def jsonReprs : List Json → List String
  | [] => []
  | item :: rest => jsonRepr item :: jsonReprs rest

def memberReprs : List (String × Json) → List String
  | [] => []
  | (key, value) :: rest => (pyRepr key ++ ": " ++ jsonRepr value) :: memberReprs rest

end

/-- `str(value)`. -/
def pyStr : Json → String
  | .str text => text
  | value => jsonRepr value

/-- `bool(value)`. -/
def truthy : Json → Bool
  | .null => false
  | .bool b => b
  | .int n => n != 0
  | .float _ mant _ => mant != 0
  | .str text => text != ""
  | .arr items => !items.isEmpty
  | .obj members => !members.isEmpty

/-- `bool(d.get(key))`. -/
def truthyAt (d : Dict) (key : String) : Bool := ((d.get? key).map truthy).getD false

/-- `str(d.get(key) or "")`. -/
def textOrEmpty (d : Dict) (key : String) : String :=
  match d.get? key with
  | some value => if truthy value then pyStr value else ""
  | none => ""

/-- `sorted(set(texts))`. -/
def sortedSet (texts : List String) : List String :=
  texts.dedup.insertionSort fun a b => Json.keyLe a b = true

theorem mem_sortedSet {text : String} : text ∈ sortedSet texts ↔ text ∈ texts := by
  simp [sortedSet, List.mem_insertionSort]

theorem sortedSet_eq_iff {texts' : List String} :
    sortedSet texts = sortedSet texts' ↔ ∀ text, text ∈ texts ↔ text ∈ texts' := by
  constructor
  · intro h text
    rw [← mem_sortedSet, h, mem_sortedSet]
  · intro h
    have hperm : (texts.dedup).Perm texts'.dedup :=
      (List.perm_ext_iff_of_nodup (List.nodup_dedup _) (List.nodup_dedup _)).mpr fun text => by
        rw [List.mem_dedup, List.mem_dedup]
        exact h text
    let before : String → String → Prop := fun a b => Json.keyLe a b = true
    have : Std.Total before := ⟨fun a b => by
      by_cases hab : Json.keyLe a b = true
      · exact .inl hab
      · exact .inr (Json.keyLe_total hab)⟩
    have : IsTrans String before := ⟨fun _ _ _ => Json.keyLe_trans⟩
    have hsame : (sortedSet texts).Perm (sortedSet texts') :=
      (List.perm_insertionSort before _).trans
        (hperm.trans (List.perm_insertionSort before _).symm)
    exact hsame.eq_of_pairwise (fun a b _ _ hab hba => Json.keyLe_antisymm hab hba)
      (List.pairwise_insertionSort before _) (List.pairwise_insertionSort before _)

/-- An instant in UTC, in microseconds since the Unix epoch; only the JSON form of a record
spells it out. -/
abbrev Instant := Int

/-- What `clock()` returns: an aware datetime, or a naive one. -/
abbrev Reading := Option Instant

/-- `datetime.max` in UTC. -/
def maxInstant : Instant := 253402300799999999

/-- `instant + timedelta(seconds=seconds)` overflows past `datetime.max`. -/
def addSeconds (instant : Instant) (seconds : Int) : Except PyError Instant :=
  if instant + seconds * 1000000 ≤ maxInstant then
    .ok (instant + seconds * 1000000)
  else .error ⟨.overflowError, "date value out of range"⟩

/-- Decimal digits of `n`, padded with zeros to the given width. -/
def padded (width n : Nat) : String :=
  let digits := toString n
  String.ofList (List.replicate (width - digits.length) '0') ++ digits

def civilDate (days : Int) : Int × Nat × Nat :=
  let z := days + 719468
  let era := z.fdiv 146097
  let doe := (z - era * 146097).toNat
  let yoe := (doe - doe / 1460 + doe / 36524 - doe / 146096) / 365
  let doy := doe - (365 * yoe + yoe / 4 - yoe / 100)
  let mp := (5 * doy + 2) / 153
  let day := doy - (153 * mp + 2) / 5 + 1
  let month := if mp < 10 then mp + 3 else mp - 9
  let year := (yoe : Int) + era * 400 + (if month ≤ 2 then 1 else 0)
  (year, month, day)

/-- `_format_time`: ISO 8601 in UTC with a `Z` suffix; the fraction is printed
when it is not zero. -/
def formatTime (instant : Instant) : String :=
  let days := instant.fdiv 86400000000
  let rest := (instant - days * 86400000000).toNat
  let (year, month, day) := civilDate days
  let seconds := rest / 1000000
  let micros := rest % 1000000
  padded 4 year.toNat ++ "-" ++ padded 2 month ++ "-" ++ padded 2 day ++ "T" ++
    padded 2 (seconds / 3600) ++ ":" ++ padded 2 (seconds / 60 % 60) ++ ":" ++
    padded 2 (seconds % 60) ++
    (if micros = 0 then "" else "." ++ padded 6 micros) ++ "Z"

example : formatTime 1783872000000000 = "2026-07-12T16:00:00Z" := by decide

abbrev Bytes := List UInt8

/-- `hashlib.sha256(...).hexdigest()`, on file contents and on the canonical
encoding of a JSON value. -/
structure Sha256 where
  ofBytes : Bytes → String
  ofJson : Json → String

/-- `canonical_digest` and `canonical_authority_digest`: the members of every
object are sorted before hashing. -/
def canonicalDigest (sha : Sha256) (value : Json) : String :=
  "sha256:" ++ sha.ofJson value.canon

/-- `bytes_digest` and `file_digest`. -/
def bytesDigest (sha : Sha256) (content : Bytes) : String :=
  "sha256:" ++ sha.ofBytes content

def hex64 (n : Nat) : String :=
  let digits := Nat.toDigits 16 (n % 2 ^ 256)
  String.ofList (List.replicate (64 - digits.length) '0' ++ digits)

def checksumHash : Sha256 where
  ofBytes content := hex64 (content.foldl (fun sum b => Json.mix sum b.toNat) content.length)
  ofJson value := hex64 (value.checksum 0)

theorem canonicalDigest_ne_empty (sha : Sha256) (value : Json) :
    canonicalDigest sha value ≠ "" := by
  intro h
  have hlen := congrArg String.length h
  simp [canonicalDigest] at hlen

variable {sha : Sha256}

/-- Equal digests are equal hashes. -/
theorem ofJson_eq_of_canonicalDigest_eq {a b : Json}
    (h : canonicalDigest sha a = canonicalDigest sha b) : sha.ofJson a.canon = sha.ofJson b.canon :=
  (String.append_right_inj _).mp h

theorem ofBytes_eq_of_bytesDigest_eq {a b : Bytes} (h : bytesDigest sha a = bytesDigest sha b) :
    sha.ofBytes a = sha.ofBytes b :=
  (String.append_right_inj _).mp h

def isSha256Digest : Bool :=
  let bytes := value.toUTF8.data.toList
  bytes.take 7 == "sha256:".toUTF8.data.toList && bytes.length == 71 &&
    (bytes.drop 7).all fun b => (48 ≤ b && b ≤ 57) || (97 ≤ b && b ≤ 102)

/-- The digest before the first link of a chain. -/
def genesisDigest : String :=
  "sha256:" ++ "0000000000000000000000000000000000000000000000000000000000000000"

/-- A JSON object whose values all have one type.  State files are written
with `sort_keys=True`, so iteration goes by increasing key. -/
abbrev Table (α : Type) := Std.ExtTreeMap String α

theorem eq_none_of_isSome_eq_false {found : Option α} (h : found.isSome = false) :
    found = none := by
  cases found with
  | none => rfl
  | some a => cases h

namespace Table

variable {α : Type} (table : Table α)

theorem get_insert (key other : String) (value : α) :
    (table.insert key value)[other]? =
      if other = key then some value else table[other]? := by
  rw [Std.ExtTreeMap.getElem?_insert]
  by_cases h : other = key
  · simp [h]
  · have hne : key ≠ other := fun heq => h heq.symm
    simp [h, hne]

@[simp] theorem get_insert_self (key : String) (value : α) :
    (table.insert key value)[key]? = some value := by
  rw [get_insert, if_pos rfl]

variable {key other : String}

theorem get_insert_of_ne (value : α) (h : other ≠ key) :
    (table.insert key value)[other]? = table[other]? := by
  simp [get_insert, h]

theorem get_erase_of_ne (h : other ≠ key) : (table.erase key)[other]? = table[other]? := by
  rw [Std.ExtTreeMap.getElem?_erase]
  have hne : key ≠ other := fun heq => h heq.symm
  simp [hne]

theorem get_erase (key other : String) :
    (table.erase key)[other]? = if other = key then none else table[other]? := by
  by_cases h : other = key
  · rw [if_pos h, h, Std.ExtTreeMap.getElem?_erase_self]
  · rw [if_neg h, get_erase_of_ne _ h]

@[simp] theorem get_empty (key : String) : (∅ : Table α)[key]? = none := by simp

theorem ext {left right : Table α} (h : ∀ key : String, left[key]? = right[key]?) : left = right :=
  Std.ExtTreeMap.ext_getElem? h

end Table

section

variable {ρ : Type}

def IndexOf (index : Table String) (records : Table ρ) (key : ρ → String) : Prop :=
  ∀ k id, index[k]? = some id ↔ ∃ record, records[id]? = some record ∧ key record = k

variable {index : Table String} {records : Table ρ} {key : ρ → String}

section

variable (h : IndexOf index records key)

include h

variable {id : String} {current updated : ρ}

theorem IndexOf.injective {k k' : String} (hk : index[k]? = some id) (hk' : index[k']? = some id) :
    k = k' := by
  obtain ⟨record, hrecord, rfl⟩ := (h k id).mp hk
  obtain ⟨record', hrecord', rfl⟩ := (h k' id).mp hk'
  rw [hrecord] at hrecord'
  rw [Option.some.inj hrecord']

theorem IndexOf.insert_new (record : ρ) (hid : records[id]? = none)
    (hkey : index[key record]? = none) :
    IndexOf (index.insert (key record) id) (records.insert id record) key := by
  intro k id'
  rw [Table.get_insert]
  by_cases hk : k = key record
  · subst hk
    simp only [↓reduceIte, Option.some.injEq]
    constructor
    · rintro rfl
      exact ⟨record, by simp, rfl⟩
    · rintro ⟨other, hother, hsame⟩
      rw [Table.get_insert] at hother
      split at hother
      · next heq => exact heq.symm
      · rw [(h _ id').mpr ⟨other, hother, hsame⟩] at hkey
        cases hkey
  · rw [if_neg hk, h k id']
    by_cases heq : id' = id
    · subst heq
      have hne : ¬ key record = k := fun hsame => hk hsame.symm
      simp [hid, hne]
    · simp [Table.get_insert_of_ne _ _ heq]

theorem IndexOf.replace (hcurrent : records[id]? = some current)
    (hkey : key updated = key current) : IndexOf index (records.insert id updated) key := by
  intro k id'
  rw [h k id']
  by_cases hid : id' = id
  · subst hid
    simp [hcurrent, hkey]
  · simp [Table.get_insert_of_ne _ _ hid]

theorem IndexOf.move (hcurrent : records[id]? = some current) (hfree : index[key updated]? = none) :
    IndexOf ((index.erase (key current)).insert (key updated) id) (records.insert id updated)
      key := by
  intro k other
  rw [Table.get_insert, Table.get_erase, Table.get_insert]
  by_cases hk : k = key updated
  · subst hk
    rw [if_pos rfl]
    constructor
    · intro heq
      obtain rfl := Option.some.inj heq
      exact ⟨updated, if_pos rfl, rfl⟩
    · rintro ⟨record, hrecord, hkey⟩
      split at hrecord
      · next heq => rw [heq]
      · rw [(h _ other).mpr ⟨record, hrecord, hkey⟩] at hfree
        cases hfree
  · rw [if_neg hk]
    by_cases hold : k = key current
    · subst hold
      rw [if_pos rfl]
      constructor
      · intro hnone
        cases hnone
      · rintro ⟨record, hrecord, hkey⟩
        split at hrecord
        · obtain rfl := Option.some.inj hrecord
          exact absurd hkey.symm hk
        · next hother =>
          have hsame := ((h _ other).mpr ⟨record, hrecord, hkey⟩).symm.trans
            ((h _ id).mpr ⟨current, hcurrent, rfl⟩)
          exact absurd (Option.some.inj hsame) hother
    · rw [if_neg hold, h k other]
      by_cases hother : other = id
      · subst hother
        rw [if_pos rfl, hcurrent]
        constructor
        · rintro ⟨record, hrecord, hkey⟩
          obtain rfl := Option.some.inj hrecord
          exact absurd hkey.symm hold
        · rintro ⟨record, hrecord, hkey⟩
          obtain rfl := Option.some.inj hrecord
          exact absurd hkey.symm hk
      · rw [if_neg hother]

end

end

end OrbitalMesh
