import Mathlib.Data.List.Basic
import Mathlib.Data.Nat.Find

/-!
# Breadth-first search

The search goes from a start through the levels of a relation.  What one level adds is a
parameter: it lists, each once and in any order, what the frontier reaches and no earlier level
has.  `search_spec` says that the search then finds what lies within the depth, at most once,
never the start, and the near before the far.
-/

namespace BreadthFirst

variable {α : Type}

/-- A walk of `n` steps. -/
inductive Walk (step : α → α → Prop) (start : α) : Nat → α → Prop where
  | start : Walk step start 0 start
  | step {n : Nat} {a b : α} : Walk step start n a → step a b → Walk step start (n + 1) b

/-- The shortest walk has `n` steps. -/
structure Distance (step : α → α → Prop) (start : α) (n : Nat) (a : α) : Prop where
  walk : Walk step start n a
  least : ∀ m, Walk step start m a → n ≤ m

section

variable {step step' : α → α → Prop} {start a b : α} {m n : Nat}

theorem Walk.mono (hstep : ∀ a b, step a b → step' a b) (h : Walk step start n a) :
    Walk step' start n a := by
  induction h with
  | start => exact .start
  | step _ hlast ih => exact .step ih (hstep _ _ hlast)

theorem Walk.cons (hfirst : step start a) (h : Walk step a n b) : Walk step start (n + 1) b := by
  induction h with
  | start => exact .step .start hfirst
  | step _ hlast ih => exact .step ih hlast

theorem Walk.reverse (hstep : ∀ a b, step a b → step' b a) (h : Walk step start n a) :
    Walk step' a n start := by
  induction h with
  | start => exact .start
  | step _ hlast ih => exact .cons (hstep _ _ hlast) ih

theorem Walk.exists_first (h : Walk step start (n + 1) b) : ∃ a, step start a := by
  induction n generalizing b with
  | zero =>
    cases h with
    | step hbefore hlast =>
      cases hbefore
      exact ⟨b, hlast⟩
  | succ n ih =>
    cases h with
    | step hbefore _ => exact ih hbefore

theorem Distance.unique (h : Distance step start m a) (h' : Distance step start n a) : m = n :=
  Nat.le_antisymm (h.least n h'.walk) (h'.least m h.walk)

theorem distance_zero_iff : Distance step start 0 a ↔ a = start := by
  constructor
  · rintro ⟨hwalk, -⟩
    cases hwalk
    rfl
  · rintro rfl
    exact ⟨.start, fun m _ => Nat.zero_le m⟩

theorem exists_distance (h : Walk step start n a) : ∃ m, m ≤ n ∧ Distance step start m a := by
  classical
  have hsome : ∃ m, Walk step start m a := ⟨n, h⟩
  exact ⟨Nat.find hsome, Nat.find_min' hsome h, Nat.find_spec hsome,
    fun m hm => Nat.find_min' hsome hm⟩

/-- A shortest walk is shortest up to its last step. -/
theorem Distance.exists_before (h : Distance step start (n + 1) b) :
    ∃ a, Distance step start n a ∧ step a b := by
  obtain ⟨hwalk, hleast⟩ := h
  cases hwalk with
  | step hbefore hlast =>
    refine ⟨_, ⟨hbefore, fun m hm => ?_⟩, hlast⟩
    have hle := hleast (m + 1) (.step hm hlast)
    omega

/-- **The next level** is what the frontier reaches and no level so far has. -/
theorem distance_succ_iff : Distance step start (n + 1) b ↔
    (∃ a, Distance step start n a ∧ step a b) ∧ ¬ ∃ m, m ≤ n ∧ Distance step start m b := by
  constructor
  · intro h
    refine ⟨h.exists_before, fun ⟨m, hm, hnear⟩ => ?_⟩
    have heq := h.unique hnear
    omega
  · rintro ⟨⟨a, ha, hlast⟩, hnew⟩
    refine ⟨.step ha.walk hlast, fun m hm => ?_⟩
    obtain ⟨k, hk, hdist⟩ := exists_distance hm
    by_contra hlt
    exact hnew ⟨k, by omega, hdist⟩

theorem not_distance_of_empty (hempty : ∀ a, ¬ Distance step start n a) (hle : n ≤ m) :
    ¬ Distance step start m b := by
  induction m generalizing b with
  | zero =>
    obtain rfl : n = 0 := by omega
    exact hempty b
  | succ m ih =>
    by_cases hn : n = m + 1
    · subst hn
      exact hempty b
    · intro h
      obtain ⟨a, ha, -⟩ := h.exists_before
      exact ih (by omega) ha

theorem exists_distance_iff :
    (∃ m, 1 ≤ m ∧ m ≤ n ∧ Distance step start m a) ↔
      a ≠ start ∧ ∃ m, m ≤ n ∧ Walk step start m a := by
  constructor
  · rintro ⟨m, hpos, hle, hdist⟩
    refine ⟨?_, m, hle, hdist.walk⟩
    rintro rfl
    have hzero := hdist.least 0 .start
    omega
  · rintro ⟨hne, m, hle, hwalk⟩
    obtain ⟨k, hk, hdist⟩ := exists_distance hwalk
    refine ⟨k, ?_, by omega, hdist⟩
    rcases Nat.eq_zero_or_pos k with rfl | hpos
    · exact absurd (distance_zero_iff.mp hdist) hne
    · exact hpos

end

/-- Level by level, until one is empty; `next` says what a frontier adds to what is visited. -/
def search (next : List α → List α → List α) : Nat → List α → List α → List α
  | 0, _, _ => []
  | depth + 1, visited, frontier =>
    let level := next visited frontier
    if level.isEmpty then [] else level ++ search next depth (visited ++ level) level

theorem prefix_search (next : List α → List α → List α) {d d' : Nat} (h : d ≤ d')
    (visited frontier : List α) :
    search next d visited frontier <+: search next d' visited frontier := by
  induction d generalizing d' visited frontier with
  | zero => exact List.nil_prefix
  | succ d ih =>
    obtain ⟨k, rfl⟩ : ∃ k, d' = k + 1 := ⟨d' - 1, by omega⟩
    simp only [search]
    split
    · exact List.prefix_rfl
    · exact (List.prefix_append_right_inj _).mpr (ih (by omega) _ _)

/-- Each level lists, once, what the frontier reaches and nothing visited. -/
structure Expands (step : α → α → Prop) (next : List α → List α → List α) : Prop where
  mem_iff : ∀ visited frontier b, b ∈ next visited frontier ↔
    b ∉ visited ∧ ∃ a ∈ frontier, step a b
  nodup : ∀ visited frontier, (next visited frontier).Nodup

section

variable {step : α → α → Prop} {start : α} {next : List α → List α → List α}

/-- What a search from a level finds lies on the levels after it, each once and in order. -/
theorem search_from (h : Expands step next) (depth n : Nat) {visited frontier : List α}
    (hvisited : ∀ a, a ∈ visited ↔ ∃ m, m ≤ n ∧ Distance step start m a)
    (hfrontier : ∀ a, a ∈ frontier ↔ Distance step start n a) :
    (∀ a, a ∈ search next depth visited frontier ↔
        ∃ m, n < m ∧ m ≤ n + depth ∧ Distance step start m a) ∧
      (search next depth visited frontier).Nodup ∧
      (search next depth visited frontier).Pairwise fun a b =>
        ∀ i j, Distance step start i a → Distance step start j b → i ≤ j := by
  induction depth generalizing n visited frontier with
  | zero =>
    refine ⟨fun a => ?_, List.nodup_nil, List.Pairwise.nil⟩
    simp only [search, List.not_mem_nil, false_iff]
    rintro ⟨m, hlt, hle, -⟩
    omega
  | succ depth ih =>
    have hlevel : ∀ a, a ∈ next visited frontier ↔ Distance step start (n + 1) a := by
      intro a
      rw [h.mem_iff, hvisited, distance_succ_iff, and_comm]
      simp only [hfrontier]
    simp only [search]
    by_cases hempty : (next visited frontier).isEmpty = true
    · rw [if_pos hempty]
      have hnone : ∀ a, ¬ Distance step start (n + 1) a := by
        intro a ha
        rw [List.isEmpty_iff] at hempty
        have hmem := (hlevel a).mpr ha
        rw [hempty] at hmem
        cases hmem
      refine ⟨fun a => ?_, List.nodup_nil, List.Pairwise.nil⟩
      simp only [List.not_mem_nil, false_iff]
      rintro ⟨m, hlt, -, hdist⟩
      exact not_distance_of_empty hnone hlt hdist
    · rw [if_neg hempty]
      have hvisited' : ∀ a, a ∈ visited ++ next visited frontier ↔
          ∃ m, m ≤ n + 1 ∧ Distance step start m a := by
        intro a
        rw [List.mem_append, hvisited, hlevel]
        constructor
        · rintro (⟨m, hle, hdist⟩ | hdist)
          · exact ⟨m, by omega, hdist⟩
          · exact ⟨n + 1, le_rfl, hdist⟩
        · rintro ⟨m, hle, hdist⟩
          rcases Nat.lt_or_ge n m with hlt | hge
          · obtain rfl : m = n + 1 := by omega
            exact .inr hdist
          · exact .inl ⟨m, hge, hdist⟩
      obtain ⟨hmem, hnodup, hordered⟩ := ih (n + 1) hvisited' hlevel
      refine ⟨fun a => ?_, ?_, ?_⟩
      · rw [List.mem_append, hlevel, hmem]
        constructor
        · rintro (hdist | ⟨m, hlt, hle, hdist⟩)
          · exact ⟨n + 1, by omega, by omega, hdist⟩
          · exact ⟨m, by omega, by omega, hdist⟩
        · rintro ⟨m, hlt, hle, hdist⟩
          by_cases hnext : m = n + 1
          · exact .inl (hnext ▸ hdist)
          · exact .inr ⟨m, by omega, by omega, hdist⟩
      · refine List.nodup_append.mpr ⟨h.nodup _ _, hnodup, fun a ha b hb heq => ?_⟩
        subst heq
        obtain ⟨m, hlt, -, hdist⟩ := (hmem a).mp hb
        have hsame := ((hlevel a).mp ha).unique hdist
        omega
      · refine List.pairwise_append.mpr ⟨?_, hordered, fun a ha b hb i j hi hj => ?_⟩
        · refine List.Pairwise.imp_of_mem (R := fun _ _ => True) (fun ha hb _ i j hi hj => ?_)
            (List.pairwise_of_forall fun _ _ => trivial)
          have hi' := hi.unique ((hlevel _).mp ha)
          have hj' := hj.unique ((hlevel _).mp hb)
          omega
        · obtain ⟨m, hlt, -, hdist⟩ := (hmem b).mp hb
          have hi' := hi.unique ((hlevel a).mp ha)
          have hj' := hj.unique hdist
          omega

/-- **Breadth-first search** finds what lies at a distance from one to the depth, each once, and
the near before the far. -/
theorem search_spec (h : Expands step next) (start : α) (depth : Nat) :
    (∀ a, a ∈ search next depth [start] [start] ↔
        ∃ m, 1 ≤ m ∧ m ≤ depth ∧ Distance step start m a) ∧
      (search next depth [start] [start]).Nodup ∧
      (search next depth [start] [start]).Pairwise fun a b =>
        ∀ i j, Distance step start i a → Distance step start j b → i ≤ j := by
  have hfrontier : ∀ a, a ∈ [start] ↔ Distance step start 0 a := fun a => by
    rw [List.mem_singleton, distance_zero_iff]
  have hvisited : ∀ a, a ∈ [start] ↔ ∃ m, m ≤ 0 ∧ Distance step start m a := fun a => by
    rw [hfrontier]
    exact ⟨fun hdist => ⟨0, le_rfl, hdist⟩, fun ⟨m, hm, hdist⟩ => Nat.le_zero.mp hm ▸ hdist⟩
  obtain ⟨hmem, hnodup, hordered⟩ := search_from h depth 0 hvisited hfrontier
  refine ⟨fun a => ?_, hnodup, hordered⟩
  rw [hmem]
  simp only [Nat.zero_add, Nat.lt_iff_add_one_le]

end

end BreadthFirst
