import Mathlib.Data.List.Nodup

/-!
# Dictionaries in insertion order, and how recently their keys were written

A dictionary that keeps the order of insertion is a list of entries.  `put` assigns
in place, or at the end; `toEnd` takes a key out and puts it back.  `ByAge` says
that the keys stand in the order of their last writes, the oldest first: the first
key is then the one that was written least recently, whatever happened before.
-/

namespace Recency

variable {κ α : Type} [DecidableEq κ] (d : List (κ × α))

/-- `d.get(key)`. -/
def get? (key : κ) : Option α := (d.find? (·.1 = key)).map Prod.snd

def keys : List κ := d.map Prod.fst

/-- `d[key] = value`. -/
def put (key : κ) (value : α) : List (κ × α) :=
  if (get? d key).isSome then d.map fun entry => if entry.1 = key then (key, value) else entry
  else d ++ [(key, value)]

/-- `d.pop(key)`, then `d[key] = value`. -/
def toEnd (key : κ) (value : α) : List (κ × α) :=
  d.filter (·.1 ≠ key) ++ [(key, value)]

section

variable {d : List (κ × α)} {key other : κ} {value : α}

@[simp] theorem get?_nil (key : κ) : get? ([] : List (κ × α)) key = none := rfl

theorem get?_cons (entry : κ × α) (d : List (κ × α)) (key : κ) :
    get? (entry :: d) key = if entry.1 = key then some entry.2 else get? d key := by
  unfold get?
  by_cases h : entry.1 = key <;> simp [h]

theorem isSome_get?_iff : (get? d key).isSome = true ↔ key ∈ keys d := by
  induction d with
  | nil => simp [keys]
  | cons entry d ih =>
    rw [get?_cons, keys, List.map_cons, List.mem_cons]
    by_cases h : entry.1 = key
    · simp [h]
    · simp only [if_neg h, ih, keys]
      exact ⟨.inr, fun hor => hor.resolve_left fun heq => h heq.symm⟩

theorem get?_eq_none_iff : get? d key = none ↔ key ∉ keys d := by
  rw [← isSome_get?_iff, Option.not_isSome_iff_eq_none]

theorem get?_append (d d' : List (κ × α)) (key : κ) :
    get? (d ++ d') key = (get? d key).or (get? d' key) := by
  induction d with
  | nil => simp
  | cons entry d ih =>
    rw [List.cons_append, get?_cons, get?_cons, ih]
    split <;> rfl

theorem get?_filter_ne (d : List (κ × α)) (key other : κ) :
    get? (d.filter (·.1 ≠ key)) other = if other = key then none else get? d other := by
  induction d with
  | nil => simp
  | cons entry d ih =>
    rw [List.filter_cons]
    by_cases hentry : entry.1 = key
    · rw [if_neg (by simp [hentry]), ih, get?_cons]
      by_cases hother : other = key
      · simp [hother]
      · rw [if_neg hother, if_neg hother, if_neg fun heq => hother (heq.symm.trans hentry)]
    · rw [if_pos (by simp [hentry]), get?_cons, ih, get?_cons]
      by_cases hother : entry.1 = other
      · rw [if_pos hother, if_pos hother, if_neg fun heq => hentry (hother.trans heq)]
      · rw [if_neg hother, if_neg hother]

theorem get?_map_value (d : List (κ × α)) (key other : κ) (value : α) :
    get? (d.map fun entry => if entry.1 = key then (key, value) else entry) other =
      if other = key then (get? d other).map fun _ => value else get? d other := by
  induction d with
  | nil => simp
  | cons entry d ih =>
    rw [List.map_cons, get?_cons, get?_cons, ih]
    by_cases hentry : entry.1 = key <;> by_cases hother : other = key
    · subst hother
      simp [hentry]
    · have hne : ¬ key = other := fun heq => hother heq.symm
      simp [hentry, hother, hne]
    · subst hother
      simp [hentry]
    · simp [hentry, hother]

theorem get?_put (d : List (κ × α)) (key other : κ) (value : α) :
    get? (put d key value) other = if other = key then some value else get? d other := by
  unfold put
  split
  · next hsome =>
    rw [get?_map_value]
    split
    · next heq =>
      obtain ⟨old, hold⟩ := Option.isSome_iff_exists.mp hsome
      rw [heq, hold]
      rfl
    · rfl
  · next hnone =>
    rw [Option.not_isSome_iff_eq_none] at hnone
    rw [get?_append, get?_cons, get?_nil]
    by_cases h : other = key
    · subst h
      simp [hnone]
    · have hne : ¬ key = other := fun heq => h heq.symm
      simp [h, hne]

theorem get?_toEnd (d : List (κ × α)) (key other : κ) (value : α) :
    get? (toEnd d key value) other = if other = key then some value else get? d other := by
  rw [toEnd, get?_append, get?_filter_ne, get?_cons, get?_nil]
  by_cases h : other = key
  · simp [h]
  · have hne : ¬ key = other := fun heq => h heq.symm
    simp [h, hne]

theorem keys_put (d : List (κ × α)) (key : κ) (value : α) :
    keys (put d key value) = if key ∈ keys d then keys d else keys d ++ [key] := by
  unfold put
  by_cases h : key ∈ keys d
  · rw [if_pos (isSome_get?_iff.mpr h), if_pos h, keys, keys, List.map_map]
    refine List.map_congr_left fun entry _ => ?_
    by_cases heq : entry.1 = key <;> simp [heq]
  · rw [if_neg fun hsome => h (isSome_get?_iff.mp hsome), if_neg h, keys, keys, List.map_append]
    rfl

theorem keys_toEnd (d : List (κ × α)) (key : κ) (value : α) :
    keys (toEnd d key value) = (keys d).filter (· ≠ key) ++ [key] := by
  rw [keys, keys, toEnd, List.map_append, List.filter_map]
  rfl

end

/-- The keys stand in the order of their last writes; the newest write comes first in
`writes`. -/
structure ByAge (writes keys : List κ) : Prop where
  written : ∀ key ∈ keys, key ∈ writes
  ordered : keys.Pairwise fun older newer => writes.idxOf newer < writes.idxOf older

section

variable {writes ks : List κ} {key : κ}

theorem ByAge.nil (writes : List κ) : ByAge writes [] := ⟨by simp, .nil⟩

theorem ByAge.sublist {ks' : List κ} (h : ByAge writes ks) (hsub : ks'.Sublist ks) :
    ByAge writes ks' :=
  ⟨fun key hkey => h.written key (hsub.subset hkey), h.ordered.sublist hsub⟩

theorem ByAge.nodup (h : ByAge writes ks) : ks.Nodup :=
  h.ordered.imp fun hlt heq => by subst heq; exact Nat.lt_irrefl _ hlt

/-- **The first key** was written least recently. -/
theorem ByAge.head (h : ByAge writes (key :: ks)) :
    ∀ other ∈ ks, writes.idxOf other < writes.idxOf key :=
  fun other hother => (List.pairwise_cons.mp h.ordered).1 other hother

theorem ByAge.write (h : ByAge writes ks) (hnew : key ∉ ks) :
    ByAge (key :: writes) (ks ++ [key]) := by
  have hne : ∀ other ∈ ks, key ≠ other := fun other hother heq => hnew (heq ▸ hother)
  refine ⟨fun other hother => ?_, ?_⟩
  · obtain hold | hlast := List.mem_append.mp hother
    · exact List.mem_cons_of_mem _ (h.written other hold)
    · exact List.mem_singleton.mp hlast ▸ List.mem_cons_self
  · refine List.pairwise_append.mpr ⟨?_, List.pairwise_singleton _ _, ?_⟩
    · refine h.ordered.imp_of_mem fun {older newer} holder hnewer hlt => ?_
      rw [List.idxOf_cons_ne _ (hne newer hnewer), List.idxOf_cons_ne _ (hne older holder)]
      omega
    · intro older holder newer hnewer
      obtain rfl := List.mem_singleton.mp hnewer
      rw [List.idxOf_cons_self, List.idxOf_cons_ne _ (hne older holder)]
      omega

/-- Writing a key moves it to the end. -/
theorem ByAge.rewrite (h : ByAge writes ks) :
    ByAge (key :: writes) (ks.filter (· ≠ key) ++ [key]) :=
  (h.sublist List.filter_sublist).write (by simp)

theorem ByAge.again (h : ByAge writes (ks ++ [key])) : ByAge (key :: writes) (ks ++ [key]) := by
  have hnew : key ∉ ks := by
    have hnodup := h.nodup
    rw [List.nodup_append] at hnodup
    exact fun hmem => hnodup.2.2 key hmem key (List.mem_singleton_self _) rfl
  exact (h.sublist (List.sublist_append_left _ _)).write hnew

end

end Recency
