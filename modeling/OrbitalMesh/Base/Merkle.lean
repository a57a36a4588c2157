import Mathlib.Data.List.Nodup
import Mathlib.Data.Nat.Log
import Mathlib.Tactic.Common

/-!
# Binary hash trees over a list of leaves

A layer of digests is paired up from the left; a layer of odd length repeats
its last digest first.  Pairing until one digest is left gives the root.  The
path of one leaf is the sibling it meets in every layer.

* `climb_path`: folding a path over its own leaf gives the root.  A path has a
  step for each layer (`length_path`).
* `collapse_injective`: where the pairs that were hashed for the two roots do not
  collide, and no leaf is mistaken for a pair, two lists of distinct leaves with
  the same root are the same list.  Repeating the last digest makes this false
  for lists with repetitions.
-/

namespace Merkle

variable {δ : Type}

/-- On which side of the path the sibling stands. -/
inductive Side where
  | left
  | right

/-- One step of a path: the sibling and its side. -/
structure Step (δ : Type) where
  position : Side
  hash : δ

def evened (layer : List δ) : List δ :=
  if layer.length % 2 = 1 then layer ++ layer.getLast?.toList else layer

def pairs : List δ → List (δ × δ)
  | [] => []
  | [_] => []
  | a :: b :: rest => (a, b) :: pairs rest

variable (node : δ → δ → δ)

def above (layer : List δ) : List δ :=
  (pairs (evened layer)).map fun pair => node pair.1 pair.2

/-- Pair up layers, at most `n` times, until at most one digest is left. -/
def collapse (node : δ → δ → δ) : Nat → List δ → List δ
  | 0, layer => layer
  | n + 1, layer => if 1 < layer.length then collapse node n (above node layer) else layer

/-- The pairs that `collapse` hashes. -/
def hashed (node : δ → δ → δ) : Nat → List δ → List (δ × δ)
  | 0, _ => []
  | n + 1, layer =>
    if 1 < layer.length then pairs (evened layer) ++ hashed node n (above node layer) else []

/-- The siblings that position `i` of a layer meets on its way up. -/
def path (node : δ → δ → δ) [Inhabited δ] : Nat → List δ → Nat → List (Step δ)
  | 0, _, _ => []
  | n + 1, layer, i =>
    if 1 < layer.length then
      let sibling := if i % 2 = 1 then i - 1 else i + 1
      ⟨if sibling < i then .left else .right, (evened layer).getD sibling default⟩ ::
        path node n (above node layer) (i / 2)
    else []

/-- The path as one loop takes it, beside the layer it ends in: `none` where the
index of a sibling lies outside the evened layer. -/
def pathLoop (node : δ → δ → δ) :
    Nat → List δ → Nat → List (Step δ) → Option (List δ × List (Step δ))
  | 0, layer, _, proof => some (layer, proof)
  | n + 1, layer, i, proof =>
    if 1 < layer.length then
      let sibling := if i % 2 = 1 then i - 1 else i + 1
      match (evened layer)[sibling]? with
      | some hash =>
        pathLoop node n (above node layer) (i / 2)
          (proof ++ [⟨if sibling < i then .left else .right, hash⟩])
      | none => none
    else some (layer, proof)

/-- The pair that a step hashes. -/
def Step.pair (step : Step δ) (cursor : δ) : δ × δ :=
  match step.position with
  | .left => (step.hash, cursor)
  | .right => (cursor, step.hash)

/-- The pairs that are hashed when a path is folded. -/
def climbed (node : δ → δ → δ) (start : δ) : List (Step δ) → List (δ × δ)
  | [] => []
  | step :: rest =>
    step.pair start :: climbed node (node (step.pair start).1 (step.pair start).2) rest

/-- Fold a path over a digest. -/
def climb (start : δ) (steps : List (Step δ)) : δ :=
  steps.foldl (fun cursor step =>
    match step.position with
    | .left => node step.hash cursor
    | .right => node cursor step.hash) start

theorem length_evened (layer : List δ) :
    (evened layer).length = layer.length + layer.length % 2 := by
  unfold evened
  split
  · next hodd =>
    have hne : layer ≠ [] := by
      rintro rfl
      simp at hodd
    simp [List.getLast?_eq_some_getLast hne, hodd]
  · omega

theorem length_pairs (layer : List δ) : (pairs layer).length = layer.length / 2 := by
  induction layer using pairs.induct with
  | case1 | case2 a => simp [pairs]
  | case3 a b rest ih =>
    simp only [pairs, List.length_cons, ih]
    omega

theorem length_above (layer : List δ) : (above node layer).length = (layer.length + 1) / 2 := by
  rw [above, List.length_map, length_pairs, length_evened]
  omega

variable {layer : List δ} {n i : Nat} {a : δ}

theorem collapse_ne_nil (h : layer ≠ []) : collapse node n layer ≠ [] := by
  induction n generalizing layer with
  | zero => exact h
  | succ n ih =>
    simp only [collapse]
    split
    · apply ih
      intro hnil
      have hlen := length_above node layer
      rw [hnil] at hlen
      simp only [List.length_nil] at hlen
      omega
    · exact h

theorem collapse_of_short (h : ¬ 1 < layer.length) : collapse node n layer = layer := by
  cases n <;> simp [collapse, h]

theorem getElem?_pairs {b : δ} (ha : layer[2 * i]? = some a) (hb : layer[2 * i + 1]? = some b) :
    (pairs layer)[i]? = some (a, b) := by
  induction layer using pairs.induct generalizing i with
  | case1 => simp at ha
  | case2 x => simp at hb
  | case3 x y rest ih =>
    cases i with
    | zero =>
      simp only [Nat.mul_zero, List.getElem?_cons_zero, Option.some.injEq] at ha
      simp only [Nat.mul_zero, Nat.zero_add, List.getElem?_cons_succ,
        List.getElem?_cons_zero, Option.some.injEq] at hb
      simp [pairs, ha, hb]
    | succ i =>
      have hdouble : 2 * (i + 1) = 2 * i + 1 + 1 := by omega
      simpa [pairs] using ih ha hb

theorem getElem?_evened (h : layer[i]? = some a) : (evened layer)[i]? = some a := by
  unfold evened
  split
  · obtain ⟨hlt, -⟩ := List.getElem?_eq_some_iff.mp h
    rw [List.getElem?_append_left hlt, h]
  · exact h

theorem getElem?_above {b : δ} (ha : (evened layer)[2 * i]? = some a)
    (hb : (evened layer)[2 * i + 1]? = some b) : (above node layer)[i]? = some (node a b) := by
  simp [above, getElem?_pairs ha hb]

/-- **A path leads to the root.**  Folding the path of a position over the
digest there gives the digest the layer collapses to. -/
theorem climb_path [Inhabited δ] (node : δ → δ → δ) (hn : layer.length ≤ n)
    (ha : layer[i]? = some a) : collapse node n layer = [climb node a (path node n layer i)] := by
  induction n generalizing layer i a with
  | zero =>
    obtain ⟨hlt, -⟩ := List.getElem?_eq_some_iff.mp ha
    omega
  | succ n ih =>
    obtain ⟨hlt, -⟩ := List.getElem?_eq_some_iff.mp ha
    by_cases hlong : 1 < layer.length
    · have heven := length_evened layer
      have ha' := getElem?_evened ha
      have hshort : (above node layer).length ≤ n := by
        rw [length_above]
        omega
      by_cases hodd : i % 2 = 1
      · -- the sibling stands to the left
        have hsib : i - 1 < (evened layer).length := by omega
        have hb := List.getElem?_eq_getElem hsib
        have hparent : (above node layer)[i / 2]? =
            some (node ((evened layer).getD (i - 1) default) a) := by
          apply getElem?_above
          · rw [show 2 * (i / 2) = i - 1 by omega, hb]
            simp [hsib]
          · rw [show 2 * (i / 2) + 1 = i by omega, ha']
        have hside : i - 1 < i := by omega
        have hclimb := ih hshort hparent
        simpa [collapse, path, hlong, hodd, hside, climb] using hclimb
      · have hsib : i + 1 < (evened layer).length := by omega
        have hb := List.getElem?_eq_getElem hsib
        have hparent : (above node layer)[i / 2]? =
            some (node a ((evened layer).getD (i + 1) default)) := by
          apply getElem?_above
          · rw [show 2 * (i / 2) = i by omega, ha']
          · rw [show 2 * (i / 2) + 1 = i + 1 by omega, hb]
            simp [hsib]
        have hside : ¬ i + 1 < i := by omega
        have hclimb := ih hshort hparent
        simpa [collapse, path, hlong, hodd, hside, climb] using hclimb
    · have hone : layer = [a] := by
        match layer, hlt, hlong with
        | [x], hlt, _ =>
          have hzero : i = 0 := by simpa using hlt
          rw [hzero] at ha
          simpa using ha
        | x :: y :: rest, _, hlong => simp at hlong
      simp [collapse, path, climb, hone]

theorem length_path [Inhabited δ] (hn : layer.length ≤ n) :
    (path node n layer i).length = Nat.clog 2 layer.length := by
  induction n generalizing layer i with
  | zero =>
    have hzero : layer.length = 0 := by omega
    simp [path, hzero]
  | succ n ih =>
    rw [path]
    split
    · next hlong =>
      have hlen := length_above node layer
      have hrest : (path node n (above node layer) (i / 2)).length =
          Nat.clog 2 (above node layer).length := ih (by omega)
      rw [Nat.clog_of_two_le (by decide) (by omega), List.length_cons, hrest, hlen]
      rfl
    · rw [Nat.clog_of_right_le_one (by omega)]
      rfl

/-- The loop meets the path and the root, and every sibling it looks for is there. -/
theorem pathLoop_eq [Inhabited δ] (hi : i < layer.length) (proof : List (Step δ)) :
    pathLoop node n layer i proof =
      some (collapse node n layer, proof ++ path node n layer i) := by
  induction n generalizing layer i proof with
  | zero => simp [pathLoop, collapse, path]
  | succ n ih =>
    rw [pathLoop, collapse, path]
    split
    · next hlong =>
      have heven := length_evened layer
      have hlen := length_above node layer
      have hsibling : (if i % 2 = 1 then i - 1 else i + 1) < (evened layer).length := by
        split <;> omega
      dsimp only
      generalize (if i % 2 = 1 then i - 1 else i + 1) = sibling at hsibling ⊢
      have hfound := List.getElem?_eq_getElem hsibling
      simp only [hfound, List.getD, Option.getD_some]
      rw [ih (by omega), List.append_assoc]
      rfl
    · simp

/-- No two of the given pairs are hashed to the same digest, and none of them
to a leaf. -/
structure Separated (isLeaf : δ → Prop) (used : δ × δ → Prop) : Prop where
  leaf_ne_node : ∀ {a pair}, isLeaf a → used pair → a ≠ node pair.1 pair.2
  node_inj : ∀ {pair other}, used pair → used other →
    node pair.1 pair.2 = node other.1 other.2 → pair = other

theorem Separated.of_lists {leaves : List δ} {used : List (δ × δ)}
    (hleaf : ∀ a ∈ leaves, ∀ pair ∈ used, a ≠ node pair.1 pair.2)
    (hnode : ∀ pair ∈ used, ∀ other ∈ used,
      node pair.1 pair.2 = node other.1 other.2 → pair = other) :
    Separated node (· ∈ leaves) (· ∈ used) :=
  ⟨fun ha hpair => hleaf _ ha _ hpair, fun hpair hother => hnode _ hpair _ hother⟩

/-- A digest of the layer at height `n`, built from the given pairs. -/
def AtHeight (node : δ → δ → δ) (isLeaf : δ → Prop) (used : δ × δ → Prop) : Nat → δ → Prop
  | 0, a => isLeaf a
  | n + 1, a => ∃ pair, used pair ∧ AtHeight node isLeaf used n pair.1 ∧ a = node pair.1 pair.2

section

variable {node : δ → δ → δ} {isLeaf : δ → Prop} {used : δ × δ → Prop} {height : Nat}

theorem AtHeight.unique (hsep : Separated node isLeaf used) {a : δ} {other : Nat}
    (h : AtHeight node isLeaf used height a) (h' : AtHeight node isLeaf used other a) :
    height = other := by
  induction height generalizing a other with
  | zero =>
    cases other with
    | zero => rfl
    | succ m =>
      obtain ⟨pair, hused, -, rfl⟩ := h'
      exact absurd rfl (hsep.leaf_ne_node h hused)
  | succ n ih =>
    obtain ⟨pair, hused, hleft, rfl⟩ := h
    cases other with
    | zero => exact absurd rfl (hsep.leaf_ne_node h' hused)
    | succ m =>
      obtain ⟨pair', hused', hleft', heq⟩ := h'
      rw [hsep.node_inj hused hused' heq] at hleft
      rw [ih hleft hleft']

variable {layer : List δ}

theorem mem_evened {a : δ} : a ∈ evened layer ↔ a ∈ layer := by
  unfold evened
  split
  · simp only [List.mem_append, Option.mem_toList]
    exact ⟨fun h => h.elim id List.mem_of_getLast?, Or.inl⟩
  · rfl

theorem mem_of_mem_pairs {pair : δ × δ} (h : pair ∈ pairs layer) :
    pair.1 ∈ layer ∧ pair.2 ∈ layer := by
  induction layer using pairs.induct with
  | case1 | case2 x => simp [pairs] at h
  | case3 x y rest ih =>
    simp only [pairs, List.mem_cons] at h
    rcases h with rfl | h
    · simp
    · simp [ih h]

theorem atHeight_above (h : ∀ a ∈ layer, AtHeight node isLeaf used height a)
    (hused : ∀ pair ∈ pairs (evened layer), used pair) :
    ∀ a ∈ above node layer, AtHeight node isLeaf used (height + 1) a := by
  intro a ha
  obtain ⟨pair, hpair, rfl⟩ := List.mem_map.mp ha
  exact ⟨pair, hused pair hpair, h _ (mem_evened.mp (mem_of_mem_pairs hpair).1), rfl⟩

variable {left right : List δ} {n m : Nat}

/-- **No path leads in from outside.**  Fold any path over a leaf: if a digest of the layer
at height `k` comes out, the leaf stands in the layer and the path has `k` steps. -/
theorem climb_sound {layer : List δ} {start : δ} {steps : List (Step δ)} {k : Nat}
    (hsep : Separated node isLeaf used) (hleaves : ∀ a ∈ layer, isLeaf a)
    (hlayers : ∀ j < k, ∀ pair ∈ pairs (evened ((above node)^[j] layer)), used pair)
    (hclimbed : ∀ pair ∈ climbed node start steps, used pair)
    (h : climb node start steps ∈ (above node)^[k] layer) :
    steps.length ≤ k ∧ start ∈ (above node)^[k - steps.length] layer := by
  induction steps generalizing start with
  | nil => exact ⟨Nat.zero_le k, h⟩
  | cons step rest ih =>
    simp only [climbed, List.forall_mem_cons] at hclimbed
    obtain ⟨hused, hclimbed⟩ := hclimbed
    have hstep : climb node start (step :: rest) =
        climb node (node (step.pair start).1 (step.pair start).2) rest := by
      cases hside : step.position <;> simp [climb, Step.pair, hside]
    rw [hstep] at h
    obtain ⟨hle, hmem⟩ := ih hclimbed h
    cases hheight : k - rest.length with
    | zero =>
      rw [hheight] at hmem
      exact absurd rfl (hsep.leaf_ne_node (hleaves _ hmem) hused)
    | succ m =>
      rw [hheight, Function.iterate_succ_apply'] at hmem
      obtain ⟨pair, hpair, heq⟩ := List.mem_map.mp hmem
      have hsame := hsep.node_inj (hlayers m (by omega) pair hpair) hused heq
      subst hsame
      refine ⟨by rw [List.length_cons]; omega, ?_⟩
      rw [show k - (step :: rest).length = m by rw [List.length_cons]; omega]
      cases hside : step.position with
      | left => simpa [Step.pair, hside] using mem_evened.mp (mem_of_mem_pairs hpair).2
      | right => simpa [Step.pair, hside] using mem_evened.mp (mem_of_mem_pairs hpair).1

theorem pairs_injective (hleft : left.length % 2 = 0) (hright : right.length % 2 = 0)
    (h : pairs left = pairs right) : left = right := by
  induction left using pairs.induct generalizing right with
  | case1 =>
    match right, hright, h with
    | [], _, _ => rfl
    | [x], hright, _ => simp at hright
    | x :: y :: rest, _, h => simp [pairs] at h
  | case2 x => simp at hleft
  | case3 x y rest ih =>
    match right, hright, h with
    | [], _, h => simp [pairs] at h
    | [x], hright, _ => simp at hright
    | x' :: y' :: rest', hright, h =>
      simp only [pairs, List.cons.injEq, Prod.mk.injEq] at h
      obtain ⟨⟨rfl, rfl⟩, hrest⟩ := h
      simp only [List.length_cons] at hleft hright
      rw [ih (by omega) (by omega) hrest]

/-- A layer that repeats its last digest is not one of distinct digests. -/
theorem evened_injective (hleft : left.Nodup) (hright : right.Nodup)
    (h : evened left = evened right) : left = right := by
  have hrepeat : ∀ {a b : List δ}, a.length % 2 = 1 → b.Nodup →
      a ++ a.getLast?.toList ≠ b := by
    rintro a b hodd hnodup rfl
    have hne : a ≠ [] := by
      rintro rfl
      simp at hodd
    rw [List.getLast?_eq_some_getLast hne] at hnodup
    have hdisjoint := (List.nodup_append.mp hnodup).2.2
    exact hdisjoint _ (List.getLast_mem hne) _ (by simp) rfl
  have hlen := congrArg List.length h
  rw [length_evened, length_evened] at hlen
  unfold evened at h
  split at h <;> split at h
  · exact (List.append_inj h (by omega)).1
  · next hl _ => exact absurd h (hrepeat hl hright)
  · next _ hr => exact absurd h.symm (hrepeat hr hleft)
  · exact h

def firsts (layer : List δ) : List δ := (pairs layer).map Prod.fst

theorem evened_cons_cons (a b : δ) (rest : List δ) :
    evened (a :: b :: rest) = a :: b :: evened rest := by
  unfold evened
  have hparity : (a :: b :: rest).length % 2 = rest.length % 2 := by
    simp only [List.length_cons]
    omega
  rw [hparity]
  split
  · next hodd =>
    have hne : rest ≠ [] := by
      rintro rfl
      simp at hodd
    simp [List.getLast?_cons, List.getLast?_eq_some_getLast hne]
  · rfl

theorem firsts_evened_sublist (layer : List δ) : (firsts (evened layer)).Sublist layer := by
  induction layer using pairs.induct with
  | case1 | case2 a => simp [evened, firsts, pairs]
  | case3 a b rest ih =>
    rw [evened_cons_cons]
    simpa [firsts, pairs] using ih.cons b

theorem nodup_above (hsep : Separated node isLeaf used)
    (hused : ∀ pair ∈ pairs (evened layer), used pair) (hnodup : layer.Nodup) :
    (above node layer).Nodup := by
  have hpairs : (pairs (evened layer)).Nodup :=
    List.Nodup.of_map Prod.fst ((firsts_evened_sublist layer).nodup hnodup)
  refine hpairs.map_on ?_
  intro pair hpair other hother heq
  exact hsep.node_inj (hused pair hpair) (hused other hother) heq

theorem eq_of_map_eq {α β : Type} {f : α → β} {left right : List α}
    (hinj : ∀ a ∈ left, ∀ b ∈ right, f a = f b → a = b) (h : left.map f = right.map f) :
    left = right := by
  induction left generalizing right with
  | nil => simpa using h.symm
  | cons a rest ih =>
    cases right with
    | nil => simp at h
    | cons b rest' =>
      simp only [List.map_cons, List.cons.injEq] at h
      rw [hinj a (by simp) b (by simp) h.1,
        ih (fun x hx y hy => hinj x (by simp [hx]) y (by simp [hy])) h.2]

theorem above_injective (hsep : Separated node isLeaf used)
    (hleft : ∀ pair ∈ pairs (evened left), used pair)
    (hright : ∀ pair ∈ pairs (evened right), used pair) (hlnodup : left.Nodup)
    (hrnodup : right.Nodup) (h : above node left = above node right) : left = right := by
  apply evened_injective hlnodup hrnodup
  have hleven := length_evened left
  have hreven := length_evened right
  apply pairs_injective (by omega) (by omega)
  apply eq_of_map_eq _ h
  intro pair hpair other hother heq
  exact hsep.node_inj (hleft pair hpair) (hright other hother) heq

theorem atHeight_collapse (h : ∀ a ∈ layer, AtHeight node isLeaf used height a)
    (hused : ∀ pair ∈ hashed node n layer, used pair) :
    ∀ a ∈ collapse node n layer, ∃ top, height ≤ top ∧ AtHeight node isLeaf used top a := by
  induction n generalizing layer height with
  | zero => exact fun a ha => ⟨height, Nat.le_refl _, h a ha⟩
  | succ n ih =>
    simp only [collapse, hashed] at hused ⊢
    split
    · next hlong =>
      rw [if_pos hlong] at hused
      simp only [List.mem_append] at hused
      intro a ha
      obtain ⟨top, hle, htop⟩ := ih (atHeight_above h fun pair hp => hused pair (.inl hp))
        (fun pair hp => hused pair (.inr hp)) a ha
      exact ⟨top, by omega, htop⟩
    · exact fun a ha => ⟨height, Nat.le_refl _, h a ha⟩

theorem collapse_layers (hn : layer.length ≤ n) :
    collapse node n layer = (above node)^[Nat.clog 2 layer.length] layer ∧
      ∀ j < Nat.clog 2 layer.length, ∀ pair ∈ pairs (evened ((above node)^[j] layer)),
        pair ∈ hashed node n layer := by
  induction n generalizing layer with
  | zero =>
    obtain rfl := List.length_eq_zero_iff.mp (Nat.le_zero.mp hn)
    simp [collapse]
  | succ n ih =>
    by_cases hlong : 1 < layer.length
    · have hlen := length_above node layer
      obtain ⟨hroot, hpairs⟩ := @ih (above node layer) (by omega)
      have hclog : Nat.clog 2 layer.length = Nat.clog 2 (above node layer).length + 1 := by
        rw [Nat.clog_of_two_le (by decide) hlong, hlen]
        rfl
      simp only [collapse, hashed, if_pos hlong, hclog, Function.iterate_succ_apply]
      refine ⟨hroot, fun j hj pair hpair => List.mem_append.mpr ?_⟩
      cases j with
      | zero => exact .inl hpair
      | succ j => exact .inr (hpairs j (by omega) pair hpair)
    · simp [collapse, hlong, Nat.clog_of_right_le_one (Nat.not_lt.mp hlong)]

theorem mem_of_climb {start : δ} {steps : List (Step δ)} (hsep : Separated node isLeaf used)
    (hn : layer.length ≤ n) (hleaves : ∀ a ∈ layer, isLeaf a) (hstart : isLeaf start)
    (hused : ∀ pair ∈ hashed node n layer, used pair)
    (hclimbed : ∀ pair ∈ climbed node start steps, used pair)
    (hroot : collapse node n layer = [climb node start steps]) :
    start ∈ layer ∧ steps.length = Nat.clog 2 layer.length := by
  obtain ⟨hiterate, hlayers⟩ := @collapse_layers _ node layer n hn
  obtain ⟨hle, hmem⟩ := climb_sound hsep hleaves
    (fun j hj pair hpair => hused pair (hlayers j hj pair hpair)) hclimbed
    (by rw [← hiterate, hroot]; exact List.mem_singleton_self _)
  cases hheight : Nat.clog 2 layer.length - steps.length with
  | zero =>
    rw [hheight] at hmem
    exact ⟨hmem, by omega⟩
  | succ m =>
    rw [hheight, Function.iterate_succ_apply'] at hmem
    obtain ⟨pair, hpair, heq⟩ := List.mem_map.mp hmem
    exact absurd heq.symm
      (hsep.leaf_ne_node hstart (hused pair (hlayers m (by omega) pair hpair)))

/-- One digest and at least two digests never collapse to the same root. -/
theorem collapse_ne_of_one (hsep : Separated node isLeaf used) {one many : List δ}
    (hone : one.length = 1) (hmany : 1 < many.length) (hm : many.length ≤ m)
    (hOne : ∀ a ∈ one, AtHeight node isLeaf used height a)
    (hMany : ∀ a ∈ many, AtHeight node isLeaf used height a)
    (hused : ∀ pair ∈ hashed node m many, used pair) :
    collapse node n one ≠ collapse node m many := by
  intro heq
  obtain ⟨a, rfl⟩ := List.length_eq_one_iff.mp hone
  rw [collapse_of_short node (by simp)] at heq
  cases m with
  | zero => omega
  | succ m =>
    simp only [collapse, hashed, hmany, if_true, List.mem_append] at heq hused
    have hmem : a ∈ collapse node m (above node many) := by simp [← heq]
    obtain ⟨top, hle, htop⟩ :=
      atHeight_collapse (atHeight_above hMany fun pair hp => hused pair (.inl hp))
        (fun pair hp => hused pair (.inr hp)) a hmem
    have hsame := (hOne a (by simp)).unique hsep htop
    omega

/-- **The root determines distinct leaves.**  Two lists of distinct leaves that
collapse to the same root are the same list. -/
theorem collapse_injective (hsep : Separated node isLeaf used) (hn : left.length ≤ n)
    (hm : right.length ≤ m) (hleft : ∀ a ∈ left, AtHeight node isLeaf used height a)
    (hright : ∀ a ∈ right, AtHeight node isLeaf used height a)
    (hlused : ∀ pair ∈ hashed node n left, used pair)
    (hrused : ∀ pair ∈ hashed node m right, used pair) (hlnodup : left.Nodup)
    (hrnodup : right.Nodup) (h : collapse node n left = collapse node m right) : left = right := by
  have hnil : left = [] ↔ right = [] := by
    constructor
    · rintro rfl
      by_contra hne
      exact collapse_ne_nil node hne (h.symm.trans (collapse_of_short node (by simp)))
    · rintro rfl
      by_contra hne
      exact collapse_ne_nil node hne (h.trans (collapse_of_short node (by simp)))
  by_cases hempty : left = []
  · rw [hempty, hnil.mp hempty]
  have hlpos : 0 < left.length := List.length_pos_iff.mpr hempty
  have hrpos : 0 < right.length := List.length_pos_iff.mpr fun hr => hempty (hnil.mpr hr)
  induction n generalizing m height left right with
  | zero => omega
  | succ n ih =>
    by_cases hl : 1 < left.length <;> by_cases hr : 1 < right.length
    · cases m with
      | zero => omega
      | succ m =>
        simp only [collapse, hashed, hl, hr, if_true, List.mem_append] at h hlused hrused
        have hl' := fun pair hp => hlused pair (.inl hp)
        have hr' := fun pair hp => hrused pair (.inl hp)
        have hlen := length_above node left
        have hlen' := length_above node right
        have hlne : above node left ≠ [] := List.length_pos_iff.mp (by omega)
        have hrne : above node right ≠ [] := List.length_pos_iff.mp (by omega)
        apply above_injective hsep hl' hr' hlnodup hrnodup
        exact ih (by omega) (by omega) (atHeight_above hleft hl') (atHeight_above hright hr')
          (fun pair hp => hlused pair (.inr hp)) (fun pair hp => hrused pair (.inr hp))
          (nodup_above hsep hl' hlnodup) (nodup_above hsep hr' hrnodup) h
          (by simp [hlne, hrne]) hlne (by omega) (by omega)
    · exact absurd h.symm
        (collapse_ne_of_one hsep (by omega) hl hn hright hleft hlused)
    · exact absurd h (collapse_ne_of_one hsep (by omega) hr hm hleft hright hrused)
    · rwa [collapse_of_short node hl, collapse_of_short node hr] at h

end

end Merkle
