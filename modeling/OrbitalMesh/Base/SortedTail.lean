import Mathlib.Data.List.Basic
import Mathlib.Data.List.Induction

/-!
# Tails of sorted lists

A list sorted by a key, of which a bounded cache keeps the end.  The cache
answers "everything above a key" like the whole list as long as it is a tail
that begins above everything before it (`CoversFrom`).  Cutting the list to its
last entries gives such a tail when the cut does not separate equal keys
(`CutsCleanly`), and so does appending an entry above everything else
(`CoversFrom.concat`).
-/

namespace SortedTail

variable {α : Type} (key : α → Int)

/-- The last `n` entries of a list. -/
def lastOf (n : Nat) (xs : List α) : List α := xs.drop (xs.length - n)

/-- `cached` is the end of `all`, and begins above everything before it. -/
def CoversFrom (cached all : List α) : Prop :=
  ∃ earlier, all = earlier ++ cached ∧ (cached = [] → earlier = []) ∧
    ∀ x ∈ earlier, ∀ y ∈ cached, key x < key y

/-- The last `n` entries begin above everything before them. -/
def CutsCleanly (n : Nat) (xs : List α) : Prop :=
  ∀ x ∈ xs.take (xs.length - n), ∀ y ∈ lastOf n xs, key x < key y

variable {key} {cached all xs : List α} {n : Nat}

theorem lastOf_of_length_le (h : xs.length ≤ n) : lastOf n xs = xs := by
  rw [lastOf, Nat.sub_eq_zero_of_le h]
  rfl

theorem lastOf_map {β : Type} (f : α → β) (n : Nat) (xs : List α) :
    lastOf n (xs.map f) = (lastOf n xs).map f := by
  rw [lastOf, List.length_map, lastOf, List.map_drop]

theorem lastOf_append (earlier : List α) (h : n ≤ xs.length) :
    lastOf n (earlier ++ xs) = lastOf n xs := by
  have hlen : (earlier ++ xs).length - n = earlier.length + (xs.length - n) := by
    rw [List.length_append]
    omega
  rw [lastOf, hlen, List.drop_length_add_append]
  rfl

@[simp] theorem length_lastOf (n : Nat) (xs : List α) : (lastOf n xs).length = min n xs.length := by
  rw [lastOf, List.length_drop]
  omega

theorem lastOf_suffix (n : Nat) (xs : List α) : lastOf n xs <:+ xs := List.drop_suffix _ _

variable {tail : List α} {x : α}

theorem suffix_lastOf (h : tail <:+ xs) (hlen : tail.length ≤ n) : tail <:+ lastOf n xs := by
  refine List.suffix_of_suffix_length_le h (lastOf_suffix n xs) ?_
  have hle := h.length_le
  rw [length_lastOf]
  omega

theorem lastOf_eq_iff_of_suffix (h : tail <:+ xs) :
    lastOf n tail = lastOf n xs ↔ min n xs.length ≤ tail.length := by
  constructor
  · intro heq
    have hlen := congrArg List.length heq
    rw [length_lastOf, length_lastOf] at hlen
    omega
  · intro hlong
    have hsuffix : lastOf n tail <:+ lastOf n xs := by
      refine suffix_lastOf ((lastOf_suffix n tail).trans h) ?_
      rw [length_lastOf]
      omega
    refine hsuffix.eq_of_length ?_
    have hle := h.length_le
    rw [length_lastOf, length_lastOf]
    omega

theorem lastOf_lastOf_append (n : Nat) (xs ys : List α) :
    lastOf n (lastOf n xs ++ ys) = lastOf n (xs ++ ys) := by
  have hsuffix : (lastOf n xs ++ ys) <:+ (xs ++ ys) := by
    obtain ⟨front, hfront⟩ := lastOf_suffix n xs
    exact ⟨front, by rw [← List.append_assoc, hfront]⟩
  refine (lastOf_eq_iff_of_suffix hsuffix).mpr ?_
  rw [List.length_append, List.length_append, length_lastOf]
  omega

theorem take_append_lastOf (n : Nat) (xs : List α) :
    xs.take (xs.length - n) ++ lastOf n xs = xs := List.take_append_drop _ _

theorem CutsCleanly.coversFrom (hn : 0 < n) (h : CutsCleanly key n xs) :
    CoversFrom key (lastOf n xs) xs := by
  refine ⟨xs.take (xs.length - n), (List.take_append_drop _ _).symm, ?_, h⟩
  intro hempty
  rw [lastOf, List.drop_eq_nil_iff] at hempty
  rw [List.take_eq_nil_iff]
  omega

theorem CoversFrom.filter {first : α} {rest : List α} (h : CoversFrom key (first :: rest) all)
    {bound : Int} (hbound : key first - 1 ≤ bound) :
    (first :: rest).filter (fun x => decide (bound < key x)) =
      all.filter (fun x => decide (bound < key x)) := by
  obtain ⟨earlier, rfl, -, hbelow⟩ := h
  have hnone : earlier.filter (fun x => decide (bound < key x)) = [] := by
    rw [List.filter_eq_nil_iff]
    intro x hx
    have hlt := hbelow x hx first (List.mem_cons_self ..)
    simp only [decide_eq_true_eq]
    omega
  rw [List.filter_append, hnone, List.nil_append]

theorem CoversFrom.nil (h : CoversFrom key [] all) : all = [] := by
  obtain ⟨earlier, rfl, hnil, -⟩ := h
  simp [hnil rfl]

/-- An entry above everything else goes to the end of the list and of a covering
tail; the cut that makes room for it has to be clean. -/
theorem CoversFrom.concat (hn : 0 < n) (h : CoversFrom key cached all)
    (habove : ∀ y ∈ all, key y < key x) (hclean : CutsCleanly key n (all ++ [x])) :
    CoversFrom key (lastOf n (cached ++ [x])) (all ++ [x]) := by
  obtain ⟨earlier, rfl, -, hbelow⟩ := h
  by_cases hroom : (cached ++ [x]).length ≤ n
  · rw [lastOf_of_length_le hroom]
    refine ⟨earlier, by rw [List.append_assoc], by simp, ?_⟩
    intro y hy z hz
    rcases List.mem_append.mp hz with hz | hz
    · exact hbelow y hy z hz
    · rw [List.mem_singleton.mp hz]
      exact habove y (List.mem_append_left _ hy)
  · have hlast := lastOf_append earlier (Nat.le_of_not_le hroom)
    rw [← hlast, ← List.append_assoc]
    exact hclean.coversFrom hn

theorem coversFrom_concat_nil (hn : 0 < n) (habove : ∀ y ∈ all, key y < key x) :
    CoversFrom key (lastOf n ([] ++ [x])) (all ++ [x]) := by
  rw [List.nil_append, lastOf_of_length_le (show [x].length ≤ n from hn)]
  exact ⟨all, rfl, by simp, by simpa using habove⟩

theorem coversFrom_concat_lastOf (hn : 0 < n) (hclean : CutsCleanly key n (all ++ [x])) :
    CoversFrom key (lastOf n (lastOf n all ++ [x])) (all ++ [x]) := by
  by_cases hshort : all.length ≤ n
  · rw [lastOf_of_length_le hshort]
    exact hclean.coversFrom hn
  · have hlen : n ≤ (lastOf n all ++ [x]).length := by
      simp only [lastOf, List.length_append, List.length_drop]
      omega
    have hsplit : all ++ [x] = all.take (all.length - n) ++ (lastOf n all ++ [x]) := by
      rw [← List.append_assoc, lastOf, List.take_append_drop]
    rw [← lastOf_append (all.take (all.length - n)) hlen, ← hsplit]
    exact hclean.coversFrom hn

end SortedTail
