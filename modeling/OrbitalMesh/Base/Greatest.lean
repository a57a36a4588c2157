import Mathlib.Data.List.Sort
import Mathlib.Data.List.Perm.Basic

/-!
# The greatest entries of a list

`Greatest before n xs answer` says that `answer` lists `n` greatest entries of
`xs`, or all of them, the greatest first.  The first `n` entries of a part of
`xs`, sorted, are such an answer exactly when every entry left out is matched
by `n` entries of the part that are no smaller (`greatest_take_iff`).
-/

namespace Ranking

variable {α : Type} (before : α → α → Prop)

/-- `answer` lists `n` entries of `xs`, or all of them, in order, and no other
entry comes before one of them. -/
structure Greatest (n : Nat) (xs answer : List α) : Prop where
  sorted : answer.Pairwise before
  length : answer.length = min n xs.length
  above : ∃ rest, (answer ++ rest).Perm xs ∧ ∀ a ∈ answer, ∀ b ∈ rest, before a b

variable {before} [DecidableRel before] {n : Nat} {xs kept dropped : List α}

/-- In a sorted list the entries before a given one stand in front. -/
theorem before_of_mem_take [IsTrans α before] (h : xs.Pairwise before) {b : α}
    (hcount : n ≤ (xs.filter fun a => decide (before a b)).length) :
    ∀ a ∈ xs.take n, before a b := by
  induction xs generalizing n with
  | nil => simp
  | cons x rest ih =>
    cases n with
    | zero => simp
    | succ n =>
      obtain ⟨hx, hrest⟩ := List.pairwise_cons.mp h
      by_cases hxb : before x b
      · have hmore : n ≤ (rest.filter fun a => decide (before a b)).length := by
          simpa [hxb] using hcount
        intro a ha
        rcases List.mem_cons.mp (List.take_succ_cons ▸ ha) with rfl | ha
        · exact hxb
        · exact ih hrest hmore a ha
      · -- nothing after `x` is before `b` either
        have hnone : (x :: rest).filter (fun a => decide (before a b)) = [] := by
          refine List.filter_eq_nil_iff.mpr fun a ha hab => hxb ?_
          rcases List.mem_cons.mp ha with rfl | ha
          · exact of_decide_eq_true hab
          · exact IsTrans.trans _ _ _ (hx a ha) (of_decide_eq_true hab)
        rw [hnone] at hcount
        exact absurd hcount (by simp)

/-- Entries of a list of which all satisfy a condition are counted by it. -/
theorem length_take_le_filter {p : α → Bool} (h : ∀ a ∈ xs.take n, p a = true) :
    (xs.take n).length ≤ (xs.filter p).length := by
  have hsublist : (xs.take n).filter p = xs.take n := List.filter_eq_self.mpr h
  rw [← hsublist]
  exact ((List.take_sublist n xs).filter p).length_le

/-- **The first entries of a part.**  They are the greatest of the whole exactly
when no entry left out beats them. -/
theorem greatest_take_iff [Std.Total before] [IsTrans α before]
    (hperm : (kept ++ dropped).Perm xs) (hfull : dropped ≠ [] → n ≤ kept.length) :
    Greatest before n xs ((kept.insertionSort before).take n) ↔
      ∀ b ∈ dropped, n ≤ (kept.filter fun a => decide (before a b)).length := by
  set sorted := kept.insertionSort before with hsorted
  have hpairwise : sorted.Pairwise before := List.pairwise_insertionSort before kept
  have hsame : sorted.Perm kept := List.perm_insertionSort before kept
  have hlength : sorted.length = kept.length := hsame.length_eq
  have hcount : ∀ b, (kept.filter fun a => decide (before a b)).length =
      (sorted.filter fun a => decide (before a b)).length :=
    fun b => ((hsame.filter _).length_eq).symm
  have hsplit : (sorted.take n ++ (sorted.drop n ++ dropped)).Perm xs := by
    rw [← List.append_assoc, List.take_append_drop]
    exact (hsame.append_right dropped).trans hperm
  constructor
  · rintro ⟨-, -, rest, hrest, habove⟩ b hb
    have hlen : (sorted.take n).length = n := by
      have hkept := hfull (List.ne_nil_of_mem hb)
      rw [List.length_take]
      omega
    have hmem : b ∈ rest := by
      have hothers := (List.perm_append_left_iff _).mp (hsplit.trans hrest.symm)
      exact hothers.mem_iff.mp (List.mem_append_right _ hb)
    have hall : ∀ a ∈ sorted.take n, decide (before a b) = true :=
      fun a ha => decide_eq_true (habove a ha b hmem)
    have hle := length_take_le_filter hall
    rw [hcount]
    omega
  · intro hdropped
    refine ⟨hpairwise.sublist (List.take_sublist _ _), ?_, _, hsplit, ?_⟩
    · have htotal := hperm.length_eq
      rw [List.length_append] at htotal
      rw [List.length_take]
      by_cases hnil : dropped = []
      · have hzero : dropped.length = 0 := by simp [hnil]
        omega
      · have hkept := hfull hnil
        omega
    · intro a ha b hb
      rcases List.mem_append.mp hb with hb | hb
      · have hcut : (sorted.take n ++ sorted.drop n).Pairwise before := by
          rwa [List.take_append_drop]
        exact (List.pairwise_append.mp hcut).2.2 a ha b hb
      · refine before_of_mem_take hpairwise ?_ a ha
        rw [← hcount]
        exact hdropped b hb

theorem perm_flatMap_filter {κ : Type} [DecidableEq κ] (key : α → κ) {keys : List κ}
    (hnodup : keys.Nodup) (hall : ∀ x ∈ xs, key x ∈ keys) :
    (keys.flatMap fun k => xs.filter fun x => key x = k).Perm xs := by
  induction keys generalizing xs with
  | nil =>
    have hnil : xs = [] := List.eq_nil_iff_forall_not_mem.mpr fun x hx => by
      simpa using hall x hx
    simp [hnil]
  | cons k rest ih =>
    obtain ⟨hk, hrest⟩ := List.nodup_cons.mp hnodup
    set others := xs.filter fun x => !decide (key x = k) with hothers
    have hmem : ∀ x ∈ others, key x ∈ rest := by
      intro x hx
      obtain ⟨hx, hne⟩ := List.mem_filter.mp hx
      exact (List.mem_cons.mp (hall x hx)).resolve_left (by simpa using hne)
    have hsame : (rest.flatMap fun l => xs.filter fun x => key x = l) =
        rest.flatMap fun l => others.filter fun x => key x = l := by
      refine List.flatMap_congr fun l hl => ?_
      rw [hothers, List.filter_filter]
      refine List.filter_congr fun x _ => ?_
      by_cases hxl : key x = l
      · have hne : l ≠ k := fun heq => hk (heq ▸ hl)
        simp [hxl, hne]
      · simp [hxl]
    rw [List.flatMap_cons, hsame]
    exact ((ih hrest hmem).append_left _).trans (List.filter_append_perm _ xs)

end Ranking
