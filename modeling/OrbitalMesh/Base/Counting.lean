import Mathlib.Data.List.Count

/-!
# Counting votes

A counter lists every value once, in the order in which the values came, with how often each
occurs.  The most common entry is the first of those with the largest count: which values may
be chosen does not depend on the order, but which of several equals is chosen does.
-/

namespace Counting

variable {α : Type}

section

variable [DecidableEq α]

def counter (xs : List α) : List (α × Nat) := xs.eraseDups.map fun a => (a, xs.count a)

theorem mem_counter {xs : List α} {a : α} {n : Nat} :
    (a, n) ∈ counter xs ↔ a ∈ xs ∧ xs.count a = n := by
  simp only [counter, List.mem_map, List.mem_eraseDups, Prod.mk.injEq]
  constructor
  · rintro ⟨b, hb, rfl, hn⟩
    exact ⟨hb, hn⟩
  · intro ⟨ha, hn⟩
    exact ⟨a, ha, rfl, hn⟩

theorem eraseDups_filter (p : α → Bool) (xs : List α) :
    (xs.filter p).eraseDups = xs.eraseDups.filter p := by
  induction hn : xs.length using Nat.strongRecOn generalizing xs with
  | ind n ih =>
    cases xs with
    | nil => rfl
    | cons a as =>
      have hlength : (as.filter fun b => !b == a).length < n := by
        rw [← hn, List.length_cons]
        exact Nat.lt_succ_of_le (List.length_filter_le _ as)
      have hrest := ih _ hlength (as.filter fun b => !b == a) rfl
      rw [List.filter_filter] at hrest
      rw [List.eraseDups_cons]
      by_cases ha : p a = true
      · rw [List.filter_cons_of_pos ha, List.filter_cons_of_pos ha, List.eraseDups_cons,
          List.filter_filter, ← hrest]
        congr 2
        apply List.filter_congr
        intro b _
        exact Bool.and_comm _ _
      · rw [List.filter_cons_of_neg ha, List.filter_cons_of_neg ha, ← hrest]
        congr 1
        apply List.filter_congr
        intro b _
        by_cases hb : b = a
        · simp [hb, ha]
        · simp [hb]

theorem counter_filter (p : α → Bool) (xs : List α) :
    counter (xs.filter p) = (counter xs).filter fun entry => p entry.1 := by
  unfold counter
  rw [eraseDups_filter, List.filter_map]
  apply List.map_congr_left
  intro a ha
  rw [List.count_filter (List.mem_filter.mp ha).2]

end

/-- The first entry with the largest count. -/
def mostCommon : List (α × Nat) → Option (α × Nat)
  | [] => none
  | entry :: rest =>
    match mostCommon rest with
    | some best => if entry.2 < best.2 then some best else some entry
    | none => some entry

variable {entries : List (α × Nat)}

theorem mostCommon_eq_none_iff : mostCommon entries = none ↔ entries = [] := by
  cases entries with
  | nil => simp [mostCommon]
  | cons entry rest =>
    simp only [mostCommon, reduceCtorEq, iff_false]
    split
    · split <;> simp
    · simp

theorem mostCommon_spec {best : α × Nat} (h : mostCommon entries = some best) :
    best ∈ entries ∧ ∀ entry ∈ entries, entry.2 ≤ best.2 := by
  induction entries generalizing best with
  | nil => cases h
  | cons entry rest ih =>
    simp only [mostCommon] at h
    split at h
    · next found hfound =>
      obtain ⟨hmem, hlargest⟩ := ih hfound
      split at h
      · next hlt =>
        obtain rfl := Option.some.inj h
        refine ⟨List.mem_cons_of_mem _ hmem, ?_⟩
        intro other hother
        obtain rfl | hrest := List.mem_cons.mp hother
        · omega
        · exact hlargest other hrest
      · next hge =>
        obtain rfl := Option.some.inj h
        refine ⟨List.mem_cons_self, ?_⟩
        intro other hother
        obtain rfl | hrest := List.mem_cons.mp hother
        · exact Nat.le_refl _
        · have := hlargest other hrest
          omega
    · next hnone =>
      obtain rfl := Option.some.inj h
      obtain rfl := mostCommon_eq_none_iff.mp hnone
      refine ⟨List.mem_cons_self, ?_⟩
      intro other hother
      obtain rfl := List.mem_singleton.mp hother
      exact Nat.le_refl _

end Counting
