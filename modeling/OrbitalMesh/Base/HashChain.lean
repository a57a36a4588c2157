import Mathlib.Data.List.Induction
import Mathlib.Data.List.Forall2

/-!
# Hash chains

A log whose entries name the digest they follow (`before`) and the digest they
produce (`after`).  The entries are linked when each follows the one before
it, from a fixed start to the current tip.

Growing a linked log at the tip keeps it linked, and two linked logs of the
same length with the same tip agree entry by entry, as far as digests can
tell: the argument walks backwards from the tip.
-/

namespace HashChain

variable {α δ : Type}

/-- The entries lead from `start` to `tip`, each following the one before. -/
def Linked (before after : α → δ) : δ → List α → δ → Prop
  | start, [], tip => start = tip
  | start, x :: rest, tip => before x = start ∧ Linked before after (after x) rest tip

variable {before after : α → δ} {start tip : δ}

@[simp] theorem linked_nil : Linked before after start [] tip ↔ start = tip := Iff.rfl

@[simp] theorem linked_cons {x : α} {rest : List α} :
    Linked before after start (x :: rest) tip ↔
      before x = start ∧ Linked before after (after x) rest tip := Iff.rfl

theorem linked_concat {entries : List α} {x : α} :
    Linked before after start (entries ++ [x]) tip ↔
      Linked before after start entries (before x) ∧ after x = tip := by
  induction entries generalizing start with
  | nil => simp [eq_comm]
  | cons y rest ih => simp [ih, and_assoc]

/-- A change to the entries that keeps both digests keeps the links. -/
theorem linked_map {β : Type} {f : β → α} {entries : List β} :
    Linked before after start (entries.map f) tip ↔
      Linked (before ∘ f) (after ∘ f) start entries tip := by
  induction entries generalizing start with
  | nil => rfl
  | cons x rest ih => simp [ih]

/-- **Tamper evidence.** Two linked logs of one length and tip are related entry by entry. -/
theorem Linked.forall₂ {R : α → α → Prop} {left right : List α}
    (hleft : Linked before after start left tip) (hright : Linked before after start right tip)
    (hlen : left.length = right.length)
    (hdigest : ∀ x ∈ left, ∀ y ∈ right, after x = after y → R x y)
    (hbefore : ∀ x y, R x y → before x = before y) : List.Forall₂ R left right := by
  induction left using List.reverseRecOn generalizing right tip with
  | nil =>
    have hnil : right = [] := List.length_eq_zero_iff.mp hlen.symm
    rw [hnil]
    exact .nil
  | append_singleton left x ih =>
    cases right using List.reverseRecOn with
    | nil => simp at hlen
    | append_singleton right y =>
      rw [linked_concat] at hleft hright
      have hxy : R x y :=
        hdigest x (by simp) y (by simp) (hleft.2.trans hright.2.symm)
      have hrest : List.Forall₂ R left right := by
        refine ih hleft.1 ?_ (by simpa using hlen) ?_
        · rw [hbefore x y hxy]
          exact hright.1
        · intro x' hx' y' hy' h
          exact hdigest x' (List.mem_append_left _ hx') y'
            (List.mem_append_left _ hy') h
      exact List.rel_append hrest (.cons hxy .nil)

end HashChain
