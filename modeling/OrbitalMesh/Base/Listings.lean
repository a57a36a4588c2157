import Mathlib.Data.List.Sort
import Mathlib.Data.List.Perm.Basic
import Mathlib.Data.List.Pairwise

/-!
# Listings

A table is a list of entries with a key.  A listing selects entries, puts the latest first
and cuts the rest off.  Two listings that select, sort and cut in a different order agree
for every cut exactly when the selected entries come first (`cuts_agree_iff`).
-/

namespace Listings

section

variable {α κ : Type} [DecidableEq κ] (key : α → κ)

/-- The entry with the key of `x` is replaced by `x`, or `x` is put to the end. -/
def upsert (x : α) : List α → List α
  | [] => [x]
  | y :: rest => if key y = key x then x :: rest else y :: upsert x rest

/-- `x` is put to the end, unless there is an entry with its key. -/
def insertNew (x : α) (table : List α) : List α :=
  if table.any fun y => key y = key x then table else table ++ [x]

variable {key} {x y : α} {table : List α}

theorem mem_upsert_self : x ∈ upsert key x table := by
  induction table with
  | nil => simp [upsert]
  | cons first rest ih =>
    unfold upsert
    split
    · exact List.mem_cons_self
    · exact List.mem_cons_of_mem _ ih

theorem mem_of_mem_upsert (h : y ∈ upsert key x table) : y = x ∨ y ∈ table := by
  induction table with
  | nil => exact .inl (List.mem_singleton.mp h)
  | cons first rest ih =>
    unfold upsert at h
    split at h
    · exact (List.mem_cons.mp h).imp_right (List.mem_cons_of_mem _)
    · rcases List.mem_cons.mp h with rfl | h
      · exact .inr List.mem_cons_self
      · exact (ih h).imp_right (List.mem_cons_of_mem _)

theorem nodup_upsert (h : (table.map key).Nodup) : ((upsert key x table).map key).Nodup := by
  induction table with
  | nil => simp [upsert]
  | cons first rest ih =>
    obtain ⟨hfirst, hrest⟩ := List.nodup_cons.mp (List.map_cons ▸ h)
    unfold upsert
    split
    next heq => exact List.map_cons ▸ List.nodup_cons.mpr ⟨heq ▸ hfirst, hrest⟩
    next hne =>
      refine List.map_cons ▸ List.nodup_cons.mpr ⟨fun hmem => ?_, ih hrest⟩
      obtain ⟨z, hz, hkey⟩ := List.mem_map.mp hmem
      rcases mem_of_mem_upsert hz with rfl | hz
      · exact hne hkey.symm
      · exact hfirst (hkey ▸ List.mem_map_of_mem hz)

/-- With keys of its own, an entry of the key that was put in is the one that was put in. -/
theorem eq_of_mem_upsert (h : (table.map key).Nodup) (hy : y ∈ upsert key x table)
    (hkey : key y = key x) : y = x :=
  List.inj_on_of_nodup_map (nodup_upsert h) hy mem_upsert_self hkey

theorem find?_eq_some_iff (h : (table.map key).Nodup) {k : κ} :
    table.find? (fun z => key z = k) = some x ↔ x ∈ table ∧ key x = k := by
  constructor
  · intro hfind
    exact ⟨List.mem_of_find?_eq_some hfind, by simpa using List.find?_some hfind⟩
  · rintro ⟨hx, rfl⟩
    cases hfind : table.find? (fun z => key z = key x) with
    | none => exact absurd (decide_eq_true rfl) (List.find?_eq_none.mp hfind x hx)
    | some z =>
      rw [List.inj_on_of_nodup_map h (List.mem_of_find?_eq_some hfind) hx
        (by simpa using List.find?_some hfind)]

/-- The entries that are put to the end one by one are among those there are. -/
theorem foldl_insertNew_sublist (entries : List α) :
    (entries.foldl (fun table x => insertNew key x table) table).Sublist (table ++ entries) := by
  induction entries generalizing table with
  | nil => simp
  | cons x rest ih =>
    refine (@ih (insertNew key x table)).trans ?_
    unfold insertNew
    split
    · exact (List.Sublist.refl _).append (List.sublist_cons_self _ _)
    · simp

end

section

variable {α τ : Type} (time : α → τ)

def DistinctTimes (entries : List α) : Prop := entries.Pairwise fun a b => time a ≠ time b

variable {time} {entries : List α}

theorem DistinctTimes.filter (h : DistinctTimes time entries) (p : α → Bool) :
    DistinctTimes time (entries.filter p) :=
  List.Pairwise.filter p h

theorem DistinctTimes.upsert {κ : Type} [DecidableEq κ] {key : α → κ} {x : α}
    (h : DistinctTimes time entries)
    (hx : ∀ y ∈ entries, key y ≠ key x → time y ≠ time x) (hkeys : (entries.map key).Nodup) :
    DistinctTimes time (Listings.upsert key x entries) := by
  induction entries with
  | nil => exact List.pairwise_singleton _ _
  | cons first rest ih =>
    obtain ⟨hfirst, hrest⟩ := List.pairwise_cons.mp h
    obtain ⟨hkey, hkeys'⟩ := List.nodup_cons.mp (List.map_cons ▸ hkeys)
    unfold Listings.upsert
    split
    next heq =>
      refine List.pairwise_cons.mpr
        ⟨fun y hy => (hx y (List.mem_cons_of_mem _ hy) ?_).symm, hrest⟩
      exact fun hsame => hkey (heq ▸ hsame ▸ List.mem_map_of_mem hy)
    next hne =>
      refine List.pairwise_cons.mpr
        ⟨fun y hy => ?_, ih hrest (fun y hy => hx y (List.mem_cons_of_mem _ hy)) hkeys'⟩
      rcases mem_of_mem_upsert hy with rfl | hy
      · exact hx first List.mem_cons_self hne
      · exact hfirst y hy

end

section

variable {α τ : Type} [LinearOrder τ] (time : α → τ)

def latest (entries : List α) : List α := entries.insertionSort fun a b => time b ≤ time a

def Later (a b : α) : Prop := time b < time a

variable {time} {entries : List α} {x : α}

theorem perm_latest : (latest time entries).Perm entries := List.perm_insertionSort _ _

@[simp] theorem mem_latest : x ∈ latest time entries ↔ x ∈ entries := perm_latest.mem_iff

theorem latest_pairwise (h : DistinctTimes time entries) :
    (latest time entries).Pairwise (Later time) := by
  have hsorted : (latest time entries).Pairwise fun a b => time b ≤ time a := by
    exact List.pairwise_insertionSort _ _
  have hdistinct : DistinctTimes time (latest time entries) :=
    (perm_latest.pairwise_iff fun hne => hne.symm).mpr h
  exact hsorted.imp₂ (fun _ _ hle hne => lt_of_le_of_ne hle hne.symm) hdistinct

/-- Two lists that are sorted strictly and have the same members are the same. -/
theorem eq_of_later {left right : List α} (hleft : left.Pairwise (Later time))
    (hright : right.Pairwise (Later time)) (hmem : ∀ z, z ∈ left ↔ z ∈ right) : left = right := by
  have hnodup : ∀ {l : List α}, l.Pairwise (Later time) → l.Nodup :=
    fun hl => hl.imp fun hlater heq => (heq ▸ hlater).ne rfl
  have hperm := (List.perm_ext_iff_of_nodup (hnodup hleft) (hnodup hright)).mpr hmem
  exact hperm.eq_of_pairwise (fun a b _ _ hab hba => absurd hba (lt_asymm hab)) hleft hright

variable {listing : List α}

theorem eq_latest_iff (h : DistinctTimes time entries) :
    listing = latest time entries ↔
      listing.Pairwise (Later time) ∧ ∀ z, z ∈ listing ↔ z ∈ entries := by
  constructor
  · rintro rfl
    exact ⟨latest_pairwise h, fun _ => mem_latest⟩
  · rintro ⟨hsorted, hmem⟩
    exact eq_of_later hsorted (latest_pairwise h) fun z => (hmem z).trans mem_latest.symm

/-- In a list that is sorted strictly, what holds of an entry and those after it holds
wherever one is later. -/
theorem pairwise_iff_of_later (h : listing.Pairwise (Later time)) {R : α → α → Prop} :
    listing.Pairwise R ↔ ∀ a ∈ listing, ∀ b ∈ listing, Later time a b → R a b := by
  constructor
  · intro hR a ha b hb hlater
    have hboth : listing.Pairwise fun a b =>
        (Later time a b → R a b) ∧ (Later time b a → R b a) :=
      hR.imp₂ (fun _ _ hR hlater => ⟨fun _ => hR, fun hback => absurd hback (lt_asymm hlater)⟩) h
    have hsymm : Std.Symm fun a b : α =>
        (Later time a b → R a b) ∧ (Later time b a → R b a) := ⟨fun _ _ h => ⟨h.2, h.1⟩⟩
    have hne : a ≠ b := fun heq => lt_irrefl _ (heq ▸ hlater)
    exact (List.Pairwise.forall hboth ha hb hne).1 hlater
  · intro hall
    exact h.imp_of_mem fun ha hb hlater => hall _ ha _ hb hlater

theorem mem_take_iff (h : listing.Pairwise (Later time)) (hx : x ∈ listing) (n : Nat) :
    x ∈ listing.take n ↔ (listing.filter fun z => time x < time z).length < n := by
  induction listing generalizing n with
  | nil => cases hx
  | cons first rest ih =>
    obtain ⟨hfirst, hrest⟩ := List.pairwise_cons.mp h
    cases n with
    | zero => simp
    | succ n =>
      by_cases heq : x = first
      · subst heq
        have hnone : rest.filter (fun z => time x < time z) = [] :=
          List.filter_eq_nil_iff.mpr fun z hz hlt =>
            lt_asymm (hfirst z hz) (of_decide_eq_true hlt)
        simp [hnone]
      · have hx' : x ∈ rest := (List.mem_cons.mp hx).resolve_left heq
        have hlater : time x < time first := hfirst x hx'
        simp [heq, hlater, ih hrest hx' n]

/-- An entry is among the `n` latest if fewer than `n` are later than it. -/
theorem mem_take_latest_iff (h : DistinctTimes time entries) (hx : x ∈ entries) (n : Nat) :
    x ∈ (latest time entries).take n ↔
      (entries.filter fun z => time x < time z).length < n := by
  rw [mem_take_iff (latest_pairwise h) (mem_latest.mpr hx),
    (perm_latest.filter _).length_eq]

end

section

variable {α : Type}

def upTo (limit : Option Nat) (entries : List α) : List α :=
  match limit with
  | some n => entries.take n
  | none => entries

theorem take_filter_iff (p : α → Bool) (entries : List α) :
    (∀ n, (entries.filter p).take n = (entries.take n).filter p) ↔
      entries.Pairwise fun a b => p b = true → p a = true := by
  induction entries with
  | nil => simp
  | cons first rest ih =>
    rw [List.pairwise_cons, ← ih]
    cases hfirst : p first with
    | true =>
      simp only [List.filter_cons_of_pos hfirst]
      constructor
      · intro h
        refine ⟨fun _ _ _ => trivial, fun n => ?_⟩
        have hn := h (n + 1)
        rw [List.take_succ_cons, List.take_succ_cons, List.filter_cons_of_pos hfirst] at hn
        exact (List.cons.inj hn).2
      · rintro ⟨-, h⟩ n
        cases n with
        | zero => simp
        | succ n =>
          rw [List.take_succ_cons, List.take_succ_cons, List.filter_cons_of_pos hfirst, h n]
    | false =>
      have hnot : ¬ p first = true := by simp [hfirst]
      simp only [List.filter_cons_of_neg hnot]
      constructor
      · intro h
        have hnone : rest.filter p = [] := by
          have hone := h 1
          rw [List.take_succ_cons, List.take_zero, List.filter_cons_of_neg hnot,
            List.filter_nil] at hone
          cases hrest : rest.filter p with
          | nil => rfl
          | cons z more =>
            rw [hrest] at hone
            cases hone
        refine ⟨fun b hb hpb => absurd hpb (List.filter_eq_nil_iff.mp hnone b hb), fun n => ?_⟩
        rw [hnone, List.take_nil, eq_comm, List.filter_eq_nil_iff]
        exact fun z hz => List.filter_eq_nil_iff.mp hnone z (List.mem_of_mem_take hz)
      · rintro ⟨h, -⟩ n
        have hnone : rest.filter p = [] :=
          List.filter_eq_nil_iff.mpr fun z hz hpz => by simpa using h z hz hpz
        rw [hnone, List.take_nil, eq_comm, List.filter_eq_nil_iff]
        intro z hz
        rcases List.mem_cons.mp (List.mem_of_mem_take hz) with rfl | hz
        · exact hnot
        · exact List.filter_eq_nil_iff.mp hnone z hz

/-- **Two orders of cutting** agree for every limit exactly when both select the same, the selected
come first, and are not too many. -/
theorem cuts_agree_iff (p : α → Bool) (listing entries : List α) (cap : Nat) :
    (∀ limit, upTo limit listing = upTo limit ((entries.take (limit.getD cap)).filter p)) ↔
      listing = entries.filter p ∧ (entries.Pairwise fun a b => p b = true → p a = true) ∧
        listing.length ≤ cap := by
  constructor
  · intro h
    have hcut : ∀ n, listing.take n = (entries.take n).filter p := by
      intro n
      have hn : listing.take n = ((entries.take n).filter p).take n := h (some n)
      have hlength : ((entries.take n).filter p).length ≤ n :=
        (List.length_filter_le _ _).trans (List.length_take_le _ _)
      rwa [List.take_of_length_le hlength] at hn
    have hall : listing = entries.filter p := by
      have hmax := hcut (max listing.length entries.length)
      rwa [List.take_of_length_le (le_max_left _ _),
        List.take_of_length_le (le_max_right _ _)] at hmax
    have hnone : listing = (entries.take cap).filter p := h none
    refine ⟨hall, (take_filter_iff p entries).mp fun n => hall ▸ hcut n, ?_⟩
    rw [hnone]
    exact (List.length_filter_le _ _).trans (List.length_take_le _ _)
  · rintro ⟨rfl, hfirst, hcap⟩ limit
    have hcut := (take_filter_iff p entries).mpr hfirst
    cases limit with
    | none =>
      change entries.filter p = (entries.take cap).filter p
      rw [← hcut, List.take_of_length_le hcap]
    | some n =>
      change (entries.filter p).take n = ((entries.take n).filter p).take n
      rw [← hcut, List.take_take, min_self]

theorem forall_perm_iff {entries : List α} (h : entries.Nodup) :
    (∀ order : List α, order.Perm entries → order = entries) ↔ entries.length ≤ 1 := by
  constructor
  · intro hall
    have hreverse := hall entries.reverse (List.reverse_perm _)
    match entries, h, hreverse with
    | [], _, _ | [_], _, _ => simp
    | a :: b :: rest, h, hreverse =>
      have hlast := congrArg List.head? hreverse
      rw [List.head?_reverse, List.getLast?_cons_cons, List.head?_cons] at hlast
      exact absurd (List.mem_of_getLast? hlast) (List.nodup_cons.mp h).1
  · intro hlength order hperm
    match entries, hlength, hperm with
    | [], _, hperm => exact hperm.eq_nil
    | [a], _, hperm => exact List.perm_singleton.mp hperm

end

end Listings
