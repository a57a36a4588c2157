import OrbitalMesh.Decision.Trigger

/-!
# Paths into a webhook's payload

`extract_path` evaluates a path such as `$.foo.bar[0].baz` against a payload: segments are
names behind a dot or indices in brackets, a leading `$` may be left out, and so may the dot
before a first name.  What is missing gives `None`.
-/

namespace OrbitalMesh.Webhooks

open OrbitalMesh.Decision

/-- How digits of a path are told and read: the class `\d`, and `int`, which refuses texts of
more than 4300 digits. -/
structure Digits where
  decimal : Char → Bool
  int : String → Option Int
  /-- digits are no signs -/
  decimal_ne : ∀ c, decimal c = true → c ≠ '-' ∧ c ≠ ']'

/-- What `extract_path` and what it is used for may raise: a `WebhookTemplateError`, or
another exception. -/
inductive Fault where
  | template (text : String)
  | other (e : PyError)

/-- A segment of a path. -/
inductive Segment where
  | name (key : String)
  | index (text : String)

/-- A character of a name. -/
def plain (c : Char) : Bool := c != '.' && c != '[' && c != ']'

def signOf (text : List Char) : List Char := if text.head? = some '-' then ['-'] else []

variable (digits : Digits)

/-- `_PATH_SEGMENT.match`: the segment here, and what follows it. -/
def nextSegment : List Char → Option (Segment × List Char)
  | '.' :: rest =>
    match rest.takeWhile plain with
    | [] => none
    | key => some (.name (String.ofList key), rest.dropWhile plain)
  | '[' :: rest =>
    let number := rest.drop (signOf rest).length
    match number.takeWhile digits.decimal, number.dropWhile digits.decimal with
    | d :: ds, ']' :: after => some (.index (String.ofList (signOf rest ++ d :: ds)), after)
    | _, _ => none
  | _ => none

/-- `node[index]`, where the index is one. -/
def itemAt (items : List Json) (index : Int) : Json :=
  if -items.length ≤ index ∧ index < items.length then
    (items[(index % items.length).toNat]?).getD .null
  else .null

/-- `int` of an index raises. -/
def tooLong (text : String) : Fault :=
  .other ⟨.valueError, "Exceeds the limit (4300 digits) for integer string conversion: value has "
    ++ toString text.length ++ " digits"⟩

/-- `_descend` and `_descend_index`. -/
def descend (node : Json) : Segment → Except Fault Json
  | .name key =>
    match node with
    | .obj members => .ok (getOr members key .null)
    | _ => .ok .null
  | .index text =>
    match digits.int text with
    | none => .error (tooLong text)
    | some index =>
      match node with
      | .arr items => .ok (itemAt items index)
      | _ => .ok .null

def follow (digits : Digits) : Nat → Json → List Char → Except Fault Json
  | 0, node, _ => .ok node
  | rounds + 1, node, path =>
    if path = [] ∨ node = .null then .ok node
    else
      match nextSegment digits path with
      | none => .ok .null
      | some (segment, rest) => do
        let next ← descend digits node segment
        follow digits rounds next rest

/-- The path without a leading `c`. -/
def withoutFirst (c : Char) (path : List Char) : List Char :=
  if path.head? = some c then path.tail else path

/-- The path without a leading `$` and without a dot after it. -/
def withoutRoot (path : List Char) : List Char := withoutFirst '.' (withoutFirst '$' path)

/-- `extract_path`, of a text. -/
def extractText (payload : Json) (path : List Char) : Except Fault Json :=
  if path = [] ∨ path = ['$'] then .ok payload
  else
    let path := withoutRoot path
    match path with
    | [] => .ok payload
    | first :: _ =>
      if first = '.' ∨ first = '[' then follow digits path.length payload path
      else
        match path.takeWhile plain with
        | [] => .ok .null
        | key => do
          let node ← descend digits payload (.name (String.ofList key))
          let rest := path.dropWhile plain
          follow digits rest.length node rest

def extractPath (payload path : Json) : Except Fault Json :=
  match path with
  | .null => .ok .null
  | .str text => extractText digits payload text.toList
  | value =>
    if truthy value then
      .error (.other ⟨.exception, "'" ++ typeName value ++
        "' object has no attribute 'startswith'"⟩)
    else .ok payload

section

variable (digits : Digits)

def scan : Nat → List Char → List Segment × List Char
  | 0, path => ([], path)
  | rounds + 1, path =>
    match nextSegment digits path with
    | none => ([], path)
    | some (segment, rest) =>
      let (segments, left) := scan rounds rest
      (segment :: segments, left)

def bareSegments (path : List Char) : List Segment × List Char :=
  match path with
  | [] => ([], [])
  | first :: _ =>
    if first = '.' ∨ first = '[' then scan digits path.length path
    else
      match path.takeWhile plain with
      | [] => ([], path)
      | key =>
        let rest := path.dropWhile plain
        let (segments, left) := scan digits rest.length rest
        (.name (String.ofList key) :: segments, left)

def segmentsOf (path : List Char) : List Segment × List Char :=
  bareSegments digits (withoutRoot path)

def stepTo (node : Json) (segment : Segment) : Json :=
  match descend digits node segment with
  | .ok next => next
  | .error _ => .null

def valueAt (node : Json) (segments : List Segment) : Json := segments.foldl (stepTo digits) node

/-- The segment is a name, or an index that `int` reads. -/
def readable : Segment → Bool
  | .name _ => true
  | .index text => (digits.int text).isSome

def indicesRead : Json → List Segment → Bool
  | _, [] => true
  | node, segment :: rest =>
    node == .null || (readable digits segment && indicesRead (stepTo digits node segment) rest)

end

section

variable {digits : Digits}

theorem stepTo_null (segment : Segment) : stepTo digits .null segment = .null := by
  cases segment with
  | name key => rfl
  | index text =>
    simp only [stepTo, descend]
    cases digits.int text <;> rfl

theorem valueAt_null (segments : List Segment) : valueAt digits .null segments = .null := by
  induction segments with
  | nil => rfl
  | cons segment rest ih =>
    rw [valueAt, List.foldl_cons, stepTo_null]
    exact ih

variable {segment : Segment} {rest : List Char}

theorem descend_readable (h : readable digits segment = true) (node : Json) :
    descend digits node segment = .ok (stepTo digits node segment) := by
  unfold stepTo
  cases segment with
  | name key => cases node <;> rfl
  | index text =>
    obtain ⟨index, hindex⟩ := Option.isSome_iff_exists.mp h
    simp only [descend, hindex]
    cases node <;> rfl

theorem descend_not_readable (h : readable digits segment = false) (node : Json) :
    ∃ text, descend digits node segment = .error (tooLong text) := by
  cases segment with
  | name key => cases h
  | index text =>
    have hnone : digits.int text = none := eq_none_of_isSome_eq_false h
    exact ⟨text, by simp only [descend, hnone]⟩

def found (digits : Digits) (node : Json) (read : List Segment × List Char) : Json :=
  if read.2 = [] then valueAt digits node read.1 else .null

theorem nextSegment_length {path : List Char} (h : nextSegment digits path = some (segment, rest)) :
    rest.length < path.length := by
  simp only [nextSegment] at h
  split at h
  · next tail =>
    split at h
    · cases h
    · cases h
      exact Nat.lt_succ_of_le (List.dropWhile_suffix plain).length_le
  · next tail =>
    split at h
    · next d ds after _ hdrop =>
      cases h
      have hleft := (List.dropWhile_suffix digits.decimal
        (l := tail.drop (signOf tail).length)).length_le
      rw [hdrop, List.length_cons, List.length_drop] at hleft
      rw [List.length_cons]
      omega
    · cases h
  · cases h

/-- The loop finds what the segments lead to, where every index that is reached is read. -/
theorem follow_eq (rounds : Nat) (node : Json) (path : List Char)
    (hlength : path.length ≤ rounds) :
    if indicesRead digits node (scan digits rounds path).1 = true then
      follow digits rounds node path = .ok (found digits node (scan digits rounds path))
    else ∃ text, follow digits rounds node path = .error (tooLong text) := by
  induction rounds generalizing node path with
  | zero =>
    have hempty : path = [] := List.eq_nil_of_length_eq_zero (Nat.le_zero.mp hlength)
    subst hempty
    rfl
  | succ rounds ih =>
    by_cases hnull : node = .null
    · subst hnull
      have hread : ∀ segments, indicesRead digits .null segments = true := by
        rintro (_ | ⟨segment, rest⟩) <;> rfl
      rw [if_pos (hread _), follow, if_pos (.inr rfl), found, valueAt_null, ite_self]
    · by_cases hempty : path = []
      · subst hempty
        rfl
      · simp only [follow, hnull, hempty, or_self, if_false, scan]
        cases hnext : nextSegment digits path with
        | none =>
          simp only [indicesRead, if_true]
          rw [found, if_neg hempty]
        | some next =>
          obtain ⟨segment, rest⟩ := next
          have hrest := nextSegment_length hnext
          have htail := ih (stepTo digits node segment) rest (by omega)
          cases hreadable : readable digits segment with
          | false =>
            obtain ⟨text, htext⟩ := descend_not_readable hreadable node
            simp [indicesRead, hnull, hreadable, htext]
          | true =>
            simp only [indicesRead, hreadable, descend_readable hreadable, ok_bind,
              Bool.true_and, beq_eq_false_iff_ne.mpr hnull, Bool.false_or]
            exact htail

theorem follow_name {payload : Json} {key : List Char} {read : List Segment × List Char}
    (hread : read = (.name (String.ofList key) :: (scan digits rest.length rest).1,
      (scan digits rest.length rest).2)) :
    if indicesRead digits payload read.1 = true then
      (do
        let node ← descend digits payload (.name (String.ofList key))
        follow digits rest.length node rest) = .ok (found digits payload read)
    else ∃ text, (do
      let node ← descend digits payload (.name (String.ofList key))
      follow digits rest.length node rest) = .error (tooLong text) := by
  subst hread
  have htail := @follow_eq digits rest.length
    (stepTo digits payload (.name (String.ofList key))) rest (le_refl _)
  rw [descend_readable rfl, ok_bind]
  by_cases hnull : payload = .null
  · subst hnull
    rw [stepTo_null] at htail ⊢
    have hread : ∀ segments, indicesRead digits .null segments = true := by
      rintro (_ | ⟨segment, rest⟩) <;> rfl
    rw [if_pos (hread _)] at htail ⊢
    rw [htail, found, found, valueAt_null, valueAt_null]
  · simp only [indicesRead, beq_eq_false_iff_ne.mpr hnull, Bool.false_or, readable,
      Bool.true_and]
    exact htail

theorem extractText_eq (payload : Json) (path : List Char) :
    if indicesRead digits payload (segmentsOf digits path).1 = true then
      extractText digits payload path = .ok (found digits payload (segmentsOf digits path))
    else ∃ text, extractText digits payload path = .error (tooLong text) := by
  unfold extractText
  by_cases hroot : path = [] ∨ path = ['$']
  · rw [if_pos hroot]
    rcases hroot with rfl | rfl <;> rfl
  · rw [if_neg hroot]
    simp only [segmentsOf, bareSegments]
    cases hpath : withoutRoot path with
    | nil => rfl
    | cons first rest =>
      by_cases hopen : first = '.' ∨ first = '['
      · simp only [hopen, if_true]
        exact follow_eq _ _ _ (le_refl _)
      · simp only [hopen, if_false]
        cases hkey : (first :: rest).takeWhile plain with
        | nil => rfl
        | cons c cs => exact follow_name rfl

end

section

variable {digits : Digits}

def spell : Segment → List Char
  | .name key => '.' :: key.toList
  | .index text => '[' :: text.toList ++ [']']

def spellAll (segments : List Segment) : List Char := segments.flatMap spell

/-- A name that has characters and none that the grammar uses, or the digits of a number with at
most a sign. -/
def WellFormed (digits : Digits) : Segment → Prop
  | .name key => key.toList ≠ [] ∧ ∀ c ∈ key.toList, plain c = true
  | .index text => ∃ sign ds, (sign = [] ∨ sign = ['-']) ∧ ds ≠ [] ∧
      (∀ c ∈ ds, digits.decimal c = true) ∧ text.toList = sign ++ ds

/-- The path is in the grammar: a `$` and segments, or segments without it, where a first name
may lack its dot unless it begins with a `$` itself. -/
def Documented (digits : Digits) (path : List Char) (segments : List Segment) : Prop :=
  (∀ segment ∈ segments, WellFormed digits segment) ∧
  (path = '$' :: spellAll segments ∨ path = spellAll segments ∨
    ∃ key rest, segments = .name key :: rest ∧ key.toList.head? ≠ some '$' ∧
      path = key.toList ++ spellAll rest)

/-- The segments exist in the payload, one below the other, down to the value. -/
inductive Leads (digits : Digits) : Json → List Segment → Json → Prop
  | here (node : Json) : Leads digits node [] node
  | name {members : Dict} {key : String} {child value : Json} {rest : List Segment}
      (hchild : members.get? key = some child) (hrest : Leads digits child rest value) :
      Leads digits (.obj members) (.name key :: rest) value
  | index {items : List Json} {text : String} {index : Int} {child value : Json}
      {rest : List Segment} (hindex : digits.int text = some index)
      (hlow : -items.length ≤ index) (hhigh : index < items.length)
      (hchild : items[(index % items.length).toNat]? = some child)
      (hrest : Leads digits child rest value) :
      Leads digits (.arr items) (.index text :: rest) value

variable {segments : List Segment} {node value : Json} {path : List Char}

theorem leads_of_valueAt (h : valueAt digits node segments = value) (hvalue : value ≠ .null) :
    Leads digits node segments value := by
  induction segments generalizing node with
  | nil =>
    cases h
    exact .here _
  | cons segment rest ih =>
    have hnext : stepTo digits node segment ≠ .null := by
      intro hnull
      rw [valueAt, List.foldl_cons, hnull] at h
      exact hvalue (h.symm.trans (valueAt_null rest))
    have hrest : Leads digits (stepTo digits node segment) rest value := ih h
    cases segment with
    | name key =>
      cases node with
      | obj members =>
        cases hchild : Dict.get? members key with
        | none => simp [stepTo, descend, getOr, hchild] at hnext
        | some child =>
          simp only [stepTo, descend, getOr, hchild, Option.getD_some] at hrest
          exact .name hchild hrest
      | _ => exact absurd rfl hnext
    | index text =>
      cases hindex : digits.int text with
      | none => simp [stepTo, descend, hindex] at hnext
      | some index =>
        cases node with
        | arr items =>
          simp only [stepTo, descend, hindex, itemAt] at hnext hrest
          by_cases hbounds : -items.length ≤ index ∧ index < items.length
          · rw [if_pos hbounds] at hnext hrest
            cases hchild : items[(index % items.length).toNat]? with
            | none => simp [hchild] at hnext
            | some child =>
              rw [hchild, Option.getD_some] at hrest
              exact .index hindex hbounds.1 hbounds.2 hchild hrest
          · rw [if_neg hbounds] at hnext
            exact absurd rfl hnext
        | _ => simp [stepTo, descend, hindex] at hnext

/-- What exists is found, whatever stands beyond it. -/
theorem valueAt_of_leads (h : Leads digits node segments value) :
    valueAt digits node segments = value := by
  induction h with
  | here node => rfl
  | name hchild hrest ih =>
    rw [valueAt, List.foldl_cons, ← ih]
    simp [stepTo, descend, getOr, hchild, valueAt]
  | index hindex hlow hhigh hchild hrest ih =>
    rw [valueAt, List.foldl_cons, ← ih]
    simp [stepTo, descend, hindex, itemAt, hlow, hhigh, hchild, valueAt]

theorem indicesRead_of_valueAt (h : valueAt digits node segments ≠ .null) :
    indicesRead digits node segments = true := by
  induction segments generalizing node with
  | nil => rfl
  | cons segment rest ih =>
    have hreadable : readable digits segment = true := by
      by_contra hnot
      obtain ⟨text, htext⟩ := descend_not_readable (eq_false_of_ne_true hnot) node
      have hnull : stepTo digits node segment = .null := by rw [stepTo, htext]
      rw [valueAt, List.foldl_cons, hnull] at h
      exact h (valueAt_null rest)
    simp only [indicesRead, hreadable, Bool.true_and, Bool.or_eq_true]
    exact .inr (ih h)

/-- What follows a name in a path does not go on with it. -/
theorem head_spellAll (segments : List Segment) :
    ∀ c ∈ (spellAll segments).head?, plain c = false := by
  rintro c hc
  cases segments with
  | nil => cases hc
  | cons segment rest =>
    cases segment with
    | name key | index text =>
      cases hc
      rfl

theorem takeWhile_append {p : Char → Bool} {key rest : List Char}
    (hkey : ∀ c ∈ key, p c = true) (hrest : ∀ c ∈ rest.head?, p c = false) :
    (key ++ rest).takeWhile p = key ∧ (key ++ rest).dropWhile p = rest := by
  induction key with
  | nil =>
    cases rest with
    | nil => exact ⟨rfl, rfl⟩
    | cons c cs => simp [hrest c rfl]
  | cons c cs ih =>
    obtain ⟨htake, hdrop⟩ := ih fun d hd => hkey d (.tail _ hd)
    simp [hkey c (.head _), htake, hdrop]

theorem nextSegment_spell {segment : Segment} (h : WellFormed digits segment)
    (rest : List Segment) :
    nextSegment digits (spell segment ++ spellAll rest) = some (segment, spellAll rest) := by
  cases segment with
  | name key =>
    obtain ⟨hne, hplain⟩ := h
    obtain ⟨htake, hdrop⟩ := takeWhile_append hplain (head_spellAll rest)
    simp only [spell, List.cons_append, nextSegment, htake, hdrop]
    cases hkey : key.toList with
    | nil => exact absurd hkey hne
    | cons c cs => simp [← hkey, String.ofList_toList]
  | index text =>
    obtain ⟨sign, ds, hsign, hne, hdecimal, htext⟩ := h
    have hbracket : digits.decimal ']' = false :=
      eq_false_of_ne_true fun hcontra => (digits.decimal_ne _ hcontra).2 rfl
    obtain ⟨d, others, rfl⟩ := List.exists_cons_of_ne_nil hne
    have hhead : d ≠ '-' := (digits.decimal_ne d (hdecimal d (.head _))).1
    have hsigned : signOf (sign ++ d :: others ++ ']' :: spellAll rest) = sign := by
      rcases hsign with rfl | rfl
      · simp [signOf, hhead]
      · simp [signOf]
    obtain ⟨htake, hdrop⟩ := takeWhile_append hdecimal (by
      rintro c ⟨⟩
      exact hbracket : ∀ c ∈ (']' :: spellAll rest).head?, digits.decimal c = false)
    have hnumber : (sign ++ d :: others ++ ']' :: spellAll rest).drop sign.length =
        d :: others ++ ']' :: spellAll rest := by
      rw [List.append_assoc, List.drop_left]
    simp only [spell, htext, List.append_assoc, List.cons_append, List.nil_append,
      nextSegment]
    simp only [List.append_assoc, List.cons_append] at hsigned hnumber htake hdrop
    rw [hsigned, hnumber, htake, hdrop]
    simp [← htext, String.ofList_toList]

theorem scan_spellAll (h : ∀ segment ∈ segments, WellFormed digits segment) {rounds : Nat}
    (hrounds : segments.length ≤ rounds) :
    scan digits rounds (spellAll segments) = (segments, []) := by
  induction segments generalizing rounds with
  | nil => cases rounds <;> rfl
  | cons segment rest ih =>
    cases rounds with
    | zero => cases hrounds
    | succ rounds =>
      have hnext := nextSegment_spell (h segment (.head _)) rest
      have hrest := ih (fun other hmem => h other (.tail _ hmem))
        (Nat.le_of_succ_le_succ hrounds)
      rw [spellAll, List.flatMap_cons, ← spellAll, scan, hnext]
      simp only [hrest]

theorem length_spellAll (segments : List Segment) :
    segments.length ≤ (spellAll segments).length := by
  induction segments with
  | nil => exact le_refl _
  | cons segment rest ih =>
    rw [spellAll, List.flatMap_cons, ← spellAll, List.length_append, List.length_cons]
    have hpos : 0 < (spell segment).length := by cases segment <;> simp [spell]
    omega

theorem bareSegments_name {key : String} {rest : List Segment} (hne : key.toList ≠ [])
    (hplain : ∀ c ∈ key.toList, plain c = true)
    (h : ∀ segment ∈ rest, WellFormed digits segment) :
    bareSegments digits (key.toList ++ spellAll rest) = (.name key :: rest, []) := by
  obtain ⟨htake, hdrop⟩ := takeWhile_append hplain (head_spellAll rest)
  obtain ⟨c, cs, hcs⟩ := List.exists_cons_of_ne_nil hne
  have hopen : ¬(c = '.' ∨ c = '[') := by
    have hc := hplain c (by rw [hcs]; exact .head _)
    rintro (rfl | rfl) <;> exact absurd hc (by decide)
  rw [hcs, List.cons_append] at htake hdrop ⊢
  simp only [bareSegments, hopen, if_false, htake, hdrop,
    scan_spellAll h (length_spellAll rest)]
  rw [← hcs, String.ofList_toList]

theorem bareSegments_spellAll (h : ∀ segment ∈ segments, WellFormed digits segment) :
    bareSegments digits (withoutFirst '.' (spellAll segments)) = (segments, []) := by
  cases segments with
  | nil => rfl
  | cons segment rest =>
    cases segment with
    | name key =>
      obtain ⟨hne, hplain⟩ := h _ (.head _)
      exact bareSegments_name hne hplain fun other hmem => h other (.tail _ hmem)
    | index text =>
      have hdot : withoutFirst '.' (spellAll (.index text :: rest)) =
          spellAll (.index text :: rest) := rfl
      have hscan := scan_spellAll h (length_spellAll (.index text :: rest))
      exact hscan

theorem segmentsOf_documented (h : Documented digits path segments) :
    segmentsOf digits path = (segments, []) := by
  obtain ⟨hformed, rfl | rfl | ⟨key, rest, rfl, hkey, rfl⟩⟩ := h
  · have hroot : withoutFirst '$' ('$' :: spellAll segments) = spellAll segments := by
      simp [withoutFirst]
    exact bareSegments_spellAll hformed
  · have hroot : withoutFirst '$' (spellAll segments) = spellAll segments := by
      refine if_neg fun hdollar => ?_
      have hplain := head_spellAll segments '$' hdollar
      exact absurd hplain (by decide)
    rw [segmentsOf, withoutRoot, hroot]
    exact bareSegments_spellAll hformed
  · obtain ⟨hne, hplain⟩ := hformed _ (.head _)
    obtain ⟨c, cs, hcs⟩ := List.exists_cons_of_ne_nil hne
    have hroot : withoutFirst '$' (key.toList ++ spellAll rest) =
        key.toList ++ spellAll rest := by
      refine if_neg ?_
      rw [hcs] at hkey ⊢
      exact hkey
    have hdot : withoutFirst '.' (key.toList ++ spellAll rest) =
        key.toList ++ spellAll rest := by
      refine if_neg ?_
      rw [hcs]
      rintro ⟨⟩
      exact absurd (hplain '.' (by rw [hcs]; exact .head _)) (by decide)
    rw [segmentsOf, withoutRoot, hroot, hdot]
    exact bareSegments_name hne hplain fun segment hmem => hformed segment (.tail _ hmem)

def IsDocumented (digits : Digits) (path : List Char) : Prop :=
  ∃ segments, Documented digits path segments

def FindsOnlyDocumented (digits : Digits) (payload : Json) (path : List Char) : Prop :=
  ∀ value, extractText digits payload path = .ok value → value ≠ .null →
    ∃ segments, Documented digits path segments ∧ Leads digits payload segments value

def LeadsSomewhere (digits : Digits) (payload : Json) (path : List Char) : Prop :=
  (segmentsOf digits path).2 = [] ∧
    ∃ value, value ≠ .null ∧ Leads digits payload (segmentsOf digits path).1 value

theorem leadsSomewhere_iff {payload : Json} :
    LeadsSomewhere digits payload path ↔
      found digits payload (segmentsOf digits path) ≠ .null := by
  unfold LeadsSomewhere found
  constructor
  · rintro ⟨hleft, value, hvalue, hleads⟩
    rw [if_pos hleft, valueAt_of_leads hleads]
    exact hvalue
  · intro hfound
    split at hfound
    · next hleft => exact ⟨hleft, _, hfound, leads_of_valueAt rfl hfound⟩
    · exact absurd rfl hfound

theorem findsOnlyDocumented_iff (digits : Digits) (payload : Json) (path : List Char) :
    FindsOnlyDocumented digits payload path ↔
      (LeadsSomewhere digits payload path → IsDocumented digits path) := by
  rw [leadsSomewhere_iff]
  have hextract := @extractText_eq digits payload path
  constructor
  · intro hfinds hfound
    have hread : indicesRead digits payload (segmentsOf digits path).1 = true := by
      refine indicesRead_of_valueAt fun hnull => hfound ?_
      rw [found, hnull, ite_self]
    rw [if_pos hread] at hextract
    obtain ⟨segments, hdocumented, -⟩ := hfinds _ hextract hfound
    exact ⟨segments, hdocumented⟩
  · intro hdocumented value hvalue hne
    split at hextract
    · rw [hvalue, Except.ok.injEq] at hextract
      rw [← hextract] at hdocumented
      obtain ⟨segments, hsegments⟩ := hdocumented hne
      rw [segmentsOf_documented hsegments] at hextract
      exact ⟨segments, hsegments, leads_of_valueAt hextract.symm hne⟩
    · obtain ⟨text, htext⟩ := hextract
      rw [hvalue] at htext
      cases htext

end

end OrbitalMesh.Webhooks
