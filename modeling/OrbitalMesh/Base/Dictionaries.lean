import Mathlib.Data.List.Nodup
import OrbitalMesh.Base.Json

/-!
# Updates of dictionaries

What a dictionary finds after `d[key] = value` and `d.update(other)`, and which keys
it has.  Two dictionaries agree away from a list of keys when every other key finds
the same in both; setting and updating keep that.
-/

namespace Dict

theorem get?_set (d : Dict) (key other : String) (value : Json) :
    (d.set other value).get? key = if key = other then some value else d.get? key := by
  split
  · next h => rw [h, get?_set_self]
  · next h => exact get?_set_of_ne d value h

theorem update_cons (d : Dict) (key : String) (value : Json) (rest : Dict) :
    d.update ((key, value) :: rest) = (d.set key value).update rest := rfl

theorem isSome_get?_set (d : Dict) (key other : String) (value : Json) :
    ((d.set other value).get? key).isSome = (decide (key = other) || (d.get? key).isSome) := by
  by_cases h : key = other
  · simp [h, get?_set_self]
  · simp [h, get?_set_of_ne]

theorem isSome_get?_update (d other : Dict) (key : String) :
    ((d.update other).get? key).isSome = ((d.get? key).isSome || (other.get? key).isSome) := by
  unfold update
  induction other generalizing d with
  | nil => simp
  | cons member rest ih =>
    obtain ⟨k, v⟩ := member
    rw [List.foldl_cons, ih, isSome_get?_set, get?_cons]
    by_cases h : key = k
    · simp [h]
    · simp [h]

theorem get?_update_of_none (d other : Dict) (key : String) (h : other.get? key = none) :
    (d.update other).get? key = d.get? key := by
  unfold update
  induction other generalizing d with
  | nil => rfl
  | cons member rest ih =>
    rw [get?_cons] at h
    split at h
    · cases h
    · next hne => rw [List.foldl_cons, ih _ h, get?_set_of_ne _ _ hne]

def Distinct (d : Dict) : Prop := (d.map Prod.fst).Nodup

theorem keys_set (d : Dict) (key : String) (value : Json) :
    (d.set key value).map Prod.fst =
      if key ∈ d.map Prod.fst then d.map Prod.fst else d.map Prod.fst ++ [key] := by
  induction d with
  | nil => rfl
  | cons member rest ih =>
    obtain ⟨k, v⟩ := member
    by_cases h : k = key
    · simp [set, h]
    · have hne : ¬ key = k := fun heq => h heq.symm
      simp only [set, h, if_false, List.map_cons, ih, List.mem_cons, hne, false_or]
      split <;> rfl

theorem Distinct.set {d : Dict} (h : d.Distinct) (key : String) (value : Json) :
    (d.set key value).Distinct := by
  rw [Distinct, keys_set]
  split
  · exact h
  · next hnew =>
    refine List.nodup_append.mpr ⟨h, List.nodup_singleton key, ?_⟩
    rintro a ha b hb rfl
    exact hnew (List.mem_singleton.mp hb ▸ ha)

theorem Distinct.update {d : Dict} (h : d.Distinct) (other : Dict) : (d.update other).Distinct := by
  induction other generalizing d with
  | nil => exact h
  | cons member rest ih => exact ih (h.set member.1 member.2)

variable {key : String} {other : Dict} {value : Json}

theorem get?_update_of_some (hother : other.Distinct) (d : Dict) (h : other.get? key = some value) :
    (d.update other).get? key = some value := by
  induction other generalizing d with
  | nil => cases h
  | cons member rest ih =>
    obtain ⟨k, v⟩ := member
    obtain ⟨hnew, hrest⟩ := List.nodup_cons.mp hother
    rw [get?_cons] at h
    split at h
    · next hkey =>
      have hnone : get? rest key = none := by
        refine List.lookup_eq_none_iff.mpr fun member hmember => ?_
        rw [hkey]
        exact bne_iff_ne.mpr fun heq => hnew (List.mem_map.mpr ⟨member, hmember, heq.symm⟩)
      show (update (d.set k v) rest).get? key = some value
      rw [get?_update_of_none _ _ _ hnone, hkey, get?_set_self, h]
    · exact ih hrest (d.set k v) h

theorem get?_update_congr (h : (other.get? key).isSome = true) (d d' : Dict) :
    (d.update other).get? key = (d'.update other).get? key := by
  induction other generalizing d d' with
  | nil => cases h
  | cons member rest ih =>
    obtain ⟨k, v⟩ := member
    rw [update_cons, update_cons]
    cases hrest : get? rest key with
    | some value => exact ih (by simp [hrest]) _ _
    | none =>
      have hkey : key = k := by
        by_contra hne
        simp [get?_cons, hne, hrest] at h
      rw [get?_update_of_none _ _ _ hrest, get?_update_of_none _ _ _ hrest, hkey,
        get?_set_self, get?_set_self]

/-- Setting a key of `other` before the update: the update finds the new value in the
place of the old one, or finds the same as before. -/
theorem get?_update_set_cases (h : other.get? key = some value) (new : Json) (d : Dict) :
    ((d.update other).get? key = some value ∧ (d.update (other.set key new)).get? key = some new) ∨
      (d.update other).get? key = (d.update (other.set key new)).get? key := by
  induction other generalizing d with
  | nil => cases h
  | cons member rest ih =>
    obtain ⟨k, v⟩ := member
    by_cases hk : k = key
    · subst hk
      have hset : Dict.set ((k, v) :: rest) k new = (k, new) :: rest := by simp [Dict.set]
      rw [get?_cons, if_pos rfl] at h
      cases h
      rw [hset, update_cons, update_cons]
      cases hrest : get? rest k with
      | some later => exact .inr (get?_update_congr (by simp [hrest]) _ _)
      | none =>
        rw [get?_update_of_none _ _ _ hrest, get?_update_of_none _ _ _ hrest,
          get?_set_self, get?_set_self]
        exact .inl ⟨rfl, rfl⟩
    · have hset : Dict.set ((k, v) :: rest) key new = (k, v) :: Dict.set rest key new := by
        simp [Dict.set, hk]
      rw [get?_cons, if_neg (fun heq => hk heq.symm)] at h
      rw [hset, update_cons, update_cons]
      exact ih h _

/-- A filter that looks at the keys keeps what it finds under those it lets through. -/
theorem get?_filter (d : Dict) (keep : String → Bool) (h : keep key = true) :
    get? (d.filter fun member => keep member.1) key = d.get? key := by
  induction d with
  | nil => rfl
  | cons member rest ih =>
    obtain ⟨k, v⟩ := member
    rw [List.filter_cons, get?_cons]
    split
    · rw [get?_cons, ih]
    · next hdropped =>
      have hne : key ≠ k := fun heq => hdropped (heq ▸ h)
      rw [if_neg hne, ih]

theorem get?_filter_of_not (d : Dict) (keep : String → Bool) (h : keep key = false) :
    get? (d.filter fun member => keep member.1) key = none := by
  refine List.lookup_eq_none_iff.mpr fun member hmember => ?_
  have hkept := (List.mem_filter.mp hmember).2
  exact bne_iff_ne.mpr fun heq => by simp [← heq, h] at hkept

theorem Distinct.filter {d : Dict} (h : d.Distinct) (keep : String × Json → Bool) :
    Distinct (d.filter keep) :=
  List.Nodup.sublist (List.filter_sublist.map Prod.fst) h

theorem get?_of_mem {d : Dict} (h : d.Distinct) (hmem : (key, value) ∈ d) :
    d.get? key = some value := by
  induction d with
  | nil => cases hmem
  | cons member rest ih =>
    obtain ⟨k, v⟩ := member
    obtain ⟨hnew, hrest⟩ := List.nodup_cons.mp h
    rw [get?_cons]
    rcases List.mem_cons.mp hmem with hhead | htail
    · cases hhead
      rw [if_pos rfl]
    · have hne : key ≠ k := fun heq => hnew (heq ▸ List.mem_map.mpr ⟨_, htail, rfl⟩)
      rw [if_neg hne, ih hrest htail]

def AgreeOff (keys : List String) (d d' : Dict) : Prop := ∀ key ∉ keys, d.get? key = d'.get? key

variable {keys : List String} {d d' d'' : Dict}

theorem AgreeOff.refl (keys : List String) (d : Dict) : AgreeOff keys d d := fun _ _ => rfl

section

variable (h : AgreeOff keys d d')

include h

theorem AgreeOff.trans (h' : AgreeOff keys d' d'') :
    AgreeOff keys d d'' := fun key hkey => (h key hkey).trans (h' key hkey)

theorem AgreeOff.set (key : String) (value : Json) :
    AgreeOff keys (d.set key value) (d'.set key value) := by
  intro other hother
  rw [get?_set, get?_set, h other hother]

theorem AgreeOff.set_right (hkey : key ∈ keys) (value : Json) :
    AgreeOff keys d (d'.set key value) := by
  intro other hother
  have hne : other ≠ key := fun heq => hother (heq ▸ hkey)
  rw [get?_set_of_ne _ _ hne, h other hother]

theorem AgreeOff.update (other : Dict) : AgreeOff keys (d.update other) (d'.update other) := by
  induction other generalizing d d' with
  | nil => exact h
  | cons member rest ih => exact ih (h.set member.1 member.2)

theorem AgreeOff.update_set (hkey : key ∈ keys) (other : Dict)
    (value : Json) : AgreeOff keys (d.update other) (d'.update (other.set key value)) := by
  induction other generalizing d d' with
  | nil => exact h.set_right hkey value
  | cons member rest ih =>
    obtain ⟨k, v⟩ := member
    unfold Dict.set
    split
    · next heq =>
      subst heq
      refine AgreeOff.update ?_ rest
      intro other hother
      have hne : other ≠ k := fun heq => hother (heq ▸ hkey)
      rw [get?_set_of_ne _ _ hne, get?_set_of_ne _ _ hne, h other hother]
    · exact ih (h.set k v)

theorem AgreeOff.update_both {other other' : Dict}
    (hother : AgreeOff keys other other') (hdistinct : other.Distinct)
    (hdistinct' : other'.Distinct) : AgreeOff keys (d.update other) (d'.update other') := by
  intro key hkey
  cases hfound : other.get? key with
  | none =>
    rw [get?_update_of_none _ _ _ hfound, get?_update_of_none _ _ _ (hother key hkey ▸ hfound),
      h key hkey]
  | some value =>
    rw [get?_update_of_some hdistinct d hfound,
      get?_update_of_some hdistinct' d' (hother key hkey ▸ hfound)]

end

end Dict
