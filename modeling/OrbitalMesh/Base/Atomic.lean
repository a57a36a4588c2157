import Mathlib.Algebra.GroupWithZero.Nat
import Mathlib.Tactic.Common

/-!
# Programs of atomic sections, and what holds of every interleaving

A program touches the shared state only through atomic sections: a section held
under a lock, one file-system call, one answer of the outside world.  Between two
sections it computes privately.  Such a program is a tree (`Prog`).

* `Runs` executes one program on its own.  Stopping in the middle is a crash.
* `PoolRun` interleaves any number of programs, section by section.  New
  programs may start and running ones may die at any moment.
* `Prog.exec` computes one particular run, for closed examples.

The proof rule is `wp`, a weakest precondition under interference: other programs
may move the state along `rely` before every section, and a section may earn or
spend credits.  `PoolRun.sound` says that in every interleaving of programs
satisfying `wp` no more credits are spent than were earned: an exclusive right,
earned at most once, is exercised at most once.
-/

namespace Atomic

variable {Op : Type} {Resp : Op → Type} {σ α β ε : Type}

/-- A program: returned with a value, or about to issue a section. -/
inductive Prog (Op : Type) (Resp : Op → Type) (α : Type) where
  | ret (a : α)
  | call (op : Op) (k : Resp op → Prog Op Resp α)

namespace Prog

def bind : Prog Op Resp α → (α → Prog Op Resp β) → Prog Op Resp β
  | .ret a, f => f a
  | .call op k, f => .call op (fun r => bind (k r) f)

instance : Monad (Prog Op Resp) where
  pure := .ret
  bind := bind

@[simp] theorem pure_eq (a : α) : (pure a : Prog Op Resp α) = .ret a := rfl

@[simp] theorem bind_eq (p : Prog Op Resp α) (f : α → Prog Op Resp β) : p >>= f = bind p f := rfl

/-- Issue one section and return its answer. -/
def issue (op : Op) : Prog Op Resp (Resp op) := .call op .ret

/-- Every section a program can ever issue satisfies `P`, whatever the
answers are. -/
def Uses (P : Op → Prop) : Prog Op Resp α → Prop
  | .ret _ => True
  | .call op k => P op ∧ ∀ r, Uses P (k r)

variable {P : Op → Prop}

theorem uses_bind {p : Prog Op Resp α} {f : α → Prog Op Resp β} (hp : Uses P p)
    (hf : ∀ a, Uses P (f a)) : Uses P (bind p f) := by
  induction p with
  | ret a => exact hf a
  | call op k ih => exact ⟨hp.1, fun r => ih r (hp.2 r)⟩

theorem Uses.mono {Q : Op → Prop} {p : Prog Op Resp α} (h : Uses P p) (hPQ : ∀ op, P op → Q op) :
    Uses Q p := by
  induction p with
  | ret a => trivial
  | call op k ih => exact ⟨hPQ op h.1, fun r => ih r (h.2 r)⟩

/-- Every section a program can ever issue satisfies `P`, and whatever the
answers are, its sections cost at most `n` together. -/
def Within (P : Op → Prop) (cost : Op → Nat) :
    Nat → Prog Op Resp α → Prop
  | _, .ret _ => True
  | n, .call op k => P op ∧ cost op ≤ n ∧ ∀ r, Within P cost (n - cost op) (k r)

section

variable {P : Op → Prop} {cost : Op → Nat} {n m : Nat}

@[simp] theorem within_ret (a : α) : Within P cost n (.ret a : Prog Op Resp α) := trivial

variable {op : Op}

theorem within_call {k : Resp op → Prog Op Resp α} :
    Within P cost n (.call op k) ↔
      P op ∧ cost op ≤ n ∧ ∀ r, Within P cost (n - cost op) (k r) := Iff.rfl

attribute [irreducible] Within

variable {p : Prog Op Resp α}

theorem Within.mono (h : Within P cost n p) (hnm : n ≤ m) : Within P cost m p := by
  induction p generalizing n m with
  | ret a => simp
  | call op k ih =>
    obtain ⟨hP, hpaid, hrest⟩ := within_call.mp h
    exact within_call.mpr ⟨hP, by omega, fun r => ih r (hrest r) (by omega)⟩

theorem Within.weaken {Q : Op → Prop} {cost' : Op → Nat} (h : Within P cost n p)
    (hop : ∀ op, P op → Q op ∧ cost' op ≤ cost op) : Within Q cost' n p := by
  induction p generalizing n with
  | ret a => simp
  | call op k ih =>
    obtain ⟨hP, hpaid, hrest⟩ := within_call.mp h
    obtain ⟨hQ, hle⟩ := hop op hP
    refine within_call.mpr ⟨hQ, by omega, fun r => ?_⟩
    exact (ih r (hrest r)).mono (by omega)

theorem within_bind {f : α → Prog Op Resp β} (hp : Within P cost n p)
    (hf : ∀ a, Within P cost m (f a)) : Within P cost (n + m) (bind p f) := by
  induction p generalizing n with
  | ret a => exact (hf a).mono (by omega)
  | call op k ih =>
    obtain ⟨hP, hpaid, hrest⟩ := within_call.mp hp
    refine within_call.mpr ⟨hP, by omega, fun r => ?_⟩
    have hsum : n + m - cost op = (n - cost op) + m := by omega
    rw [hsum]
    exact ih r (hrest r)

theorem Within.uses (h : Within P cost n p) : Uses P p := by
  induction p generalizing n with
  | ret a => trivial
  | call op k ih =>
    obtain ⟨hP, -, hrest⟩ := within_call.mp h
    exact ⟨hP, fun r => ih r (hrest r)⟩

theorem within_issue (hP : P op) (hcost : cost op ≤ n) :
    Within P cost n (issue op : Prog Op Resp (Resp op)) :=
  within_call.mpr ⟨hP, hcost, fun _ => within_ret _⟩

end

end Prog

/-- One issued section with the answer it gave. -/
structure Event (Op : Type) (Resp : Op → Type) where
  op : Op
  resp : Resp op

/-- `p` started in `s` has issued the sections of the trace and is now `p'`
in state `s'`. -/
inductive Runs (step : (op : Op) → σ → Resp op → σ → Prop) :
    Prog Op Resp α → σ → List (Event Op Resp) → Prog Op Resp α → σ → Prop
  | refl (p : Prog Op Resp α) (s : σ) : Runs step p s [] p s
  | cons {op : Op} {k : Resp op → Prog Op Resp α} {r : Resp op} {s s' t : σ}
      {trace : List (Event Op Resp)} {p : Prog Op Resp α}
      (head : step op s r s') (tail : Runs step (k r) s' trace p t) :
      Runs step (.call op k) s (⟨op, r⟩ :: trace) p t

variable {step : (op : Op) → σ → Resp op → σ → Prop}

/-- Where every section can be answered, every program can be run to its end. -/
theorem Runs.total (hanswer : ∀ op s, ∃ r s', step op s r s') (p : Prog Op Resp α) :
    ∀ s, ∃ trace a s', Runs step p s trace (.ret a) s' := by
  induction p with
  | ret a => exact fun s => ⟨[], a, s, .refl _ s⟩
  | call op k ih =>
    intro s
    obtain ⟨r, t, hstep⟩ := hanswer op s
    obtain ⟨trace, a, s', htail⟩ := ih r t
    exact ⟨_, a, s', .cons hstep htail⟩

variable {p : Prog Op Resp α}

section

variable {step : (op : Op) → σ → Resp op → σ → Prop}
  {t : σ} {trace : List (Event Op Resp)} {p : Prog Op Resp α} {f : α → Prog Op Resp β}
  {a b : α} {s : σ} {op : Op} {q : Prog Op Resp β}

theorem Runs.ret_inv (h : Runs step (.ret a) s trace (.ret b) t) : trace = [] ∧ b = a ∧ t = s := by
  cases h
  exact ⟨rfl, rfl, rfl⟩

theorem Runs.call_inv {k : Resp op → Prog Op Resp α}
    (h : Runs step (.call op k) s trace (.ret b) t) :
    ∃ r u rest, trace = ⟨op, r⟩ :: rest ∧ step op s r u ∧ Runs step (k r) u rest (.ret b) t := by
  cases h with
  | cons head tail => exact ⟨_, _, _, rfl, head, tail⟩

theorem Runs.issue_inv {b : Resp op} (h : Runs step (Prog.issue op) s trace (.ret b) t) :
    trace = [⟨op, b⟩] ∧ step op s b t := by
  obtain ⟨r, u, rest, rfl, hstep, hrest⟩ := Runs.call_inv h
  obtain ⟨rfl, rfl, rfl⟩ := hrest.ret_inv
  exact ⟨rfl, hstep⟩

/-- A complete run of a sequence is a complete run of its first part and one of
the rest. -/
theorem Runs.bind_inv {b : β} (h : Runs step (p.bind f) s trace (.ret b) t) :
    ∃ a u left right, trace = left ++ right ∧ Runs step p s left (.ret a) u ∧
      Runs step (f a) u right (.ret b) t := by
  induction p generalizing s trace with
  | ret a => exact ⟨a, s, [], trace, rfl, .refl _ s, h⟩
  | call op k ih =>
    obtain ⟨r, u, rest, rfl, hstep, hrest⟩ := Runs.call_inv h
    obtain ⟨a, v, left, right, rfl, hleft, hright⟩ := ih r hrest
    exact ⟨a, v, _, right, rfl, .cons hstep hleft, hright⟩

/-- A run of a sequence that may stop anywhere stops in the first part, or in the
rest after a complete run of it. -/
theorem Runs.bind_cut (h : Runs step (p.bind f) s trace q t) :
    (∃ p', q = p'.bind f ∧ Runs step p s trace p' t) ∨
      ∃ a u left right, trace = left ++ right ∧ Runs step p s left (.ret a) u ∧
        Runs step (f a) u right q t := by
  induction p generalizing s trace with
  | ret a => exact .inr ⟨a, s, [], trace, rfl, .refl _ s, h⟩
  | call op k ih =>
    cases h with
    | refl => exact .inl ⟨.call op k, rfl, .refl _ _⟩
    | cons head tail =>
      obtain ⟨p', rfl, hp⟩ | ⟨a, u, left, right, rfl, hleft, hright⟩ := ih _ tail
      · exact .inl ⟨p', rfl, .cons head hp⟩
      · exact .inr ⟨a, u, _, right, rfl, .cons head hleft, hright⟩

theorem Runs.uses {P : Op → Prop} {p' : Prog Op Resp α} (h : Runs step p s trace p' t)
    (huses : p.Uses P) : ∀ e ∈ trace, P e.op := by
  induction h with
  | refl => simp
  | cons _ _ ih =>
    simp only [List.mem_cons, forall_eq_or_imp]
    exact ⟨huses.1, ih (huses.2 _)⟩

theorem Runs.bind {u : σ} {left right : List (Event Op Resp)}
    (hleft : Runs step p s left (.ret a) u) (hright : Runs step (f a) u right q t) :
    Runs step (p.bind f) s (left ++ right) q t := by
  induction p generalizing s left with
  | ret b =>
    obtain ⟨rfl, rfl, rfl⟩ := hleft.ret_inv
    exact hright
  | call op k ih =>
    obtain ⟨r, v, rest, rfl, hstep, hrest⟩ := Runs.call_inv hleft
    exact .cons hstep (ih r hrest)

/-- Run on its own, the program returns `a` and leaves `t`. -/
def Completes (step : (op : Op) → σ → Resp op → σ → Prop) (p : Prog Op Resp α) (s : σ) (a : α)
    (t : σ) : Prop :=
  ∃ trace, Runs step p s trace (.ret a) t

@[simp] theorem completes_ret : Completes step (.ret a) s b t ↔ b = a ∧ t = s := by
  constructor
  · rintro ⟨trace, hruns⟩
    exact hruns.ret_inv.2
  · rintro ⟨rfl, rfl⟩
    exact ⟨[], .refl _ _⟩

@[simp] theorem completes_issue {r : Resp op} :
    Completes step (Prog.issue op) s r t ↔ step op s r t := by
  constructor
  · rintro ⟨trace, hruns⟩
    exact hruns.issue_inv.2
  · exact fun h => ⟨_, .cons h (.refl _ _)⟩

theorem completes_bind {b : β} :
    Completes step (p.bind f) s b t ↔
      ∃ a u, Completes step p s a u ∧ Completes step (f a) u b t := by
  constructor
  · rintro ⟨trace, hruns⟩
    obtain ⟨a, u, left, right, -, hleft, hright⟩ := hruns.bind_inv
    exact ⟨a, u, ⟨left, hleft⟩, ⟨right, hright⟩⟩
  · rintro ⟨a, u, ⟨left, hleft⟩, ⟨right, hright⟩⟩
    exact ⟨_, hleft.bind hright⟩

end

/-- Against the answers at the beginning of a trace, the program returns `a`;
the rest of the trace is what it leaves. -/
inductive Replays : Prog Op Resp α → List (Event Op Resp) → α → List (Event Op Resp) → Prop
  | ret (a : α) (rest : List (Event Op Resp)) : Replays (.ret a) rest a rest
  | call {op : Op} {k : Resp op → Prog Op Resp α} {r : Resp op}
      {trace rest : List (Event Op Resp)} {a : α} (h : Replays (k r) trace a rest) :
      Replays (.call op k) (⟨op, r⟩ :: trace) a rest

namespace Prog

/-- The run in which the outside world answers as `h` says, for at most `fuel` sections. -/
def exec (h : (op : Op) → σ → Option (Resp op × σ)) :
    Nat → Prog Op Resp α → σ → Option (Prog Op Resp α × σ)
  | 0, p, s => some (p, s)
  | _ + 1, .ret a, s => some (.ret a, s)
  | n + 1, .call op k, s =>
    match h op s with
    | none => none
    | some (r, s') => exec h n (k r) s'

theorem exec_runs {step : (op : Op) → σ → Resp op → σ → Prop}
    {h : (op : Op) → σ → Option (Resp op × σ)}
    (hstep : ∀ op s r s', h op s = some (r, s') → step op s r s') {fuel : Nat} :
    ∀ {p p' : Prog Op Resp α} {s s' : σ}, exec h fuel p s = some (p', s') →
      ∃ trace, Runs step p s trace p' s' := by
  induction fuel with
  | zero =>
    intro p p' s s' hexec
    cases hexec
    exact ⟨[], .refl p s⟩
  | succ n ih =>
    intro p p' s s' hexec
    cases p with
    | ret a =>
      cases hexec
      exact ⟨[], .refl _ s⟩
    | call op k =>
      simp only [exec] at hexec
      split at hexec
      · cases hexec
      · next r t hanswer =>
        obtain ⟨trace, htail⟩ := ih hexec
        exact ⟨_, .cons (hstep op s r t hanswer) htail⟩

/-- Compute programs one after the other, each against its own outside world
and cut off after its own number of sections. -/
def execAll : List (((op : Op) → σ → Option (Resp op × σ)) × Nat × Prog Op Resp α) →
    σ → Option σ
  | [], s => some s
  | (h, fuel, p) :: rest, s =>
    match exec h fuel p s with
    | none => none
    | some (_, s') => execAll rest s'

def value? : Prog Op Resp α → Option α
  | .ret a => some a
  | .call _ _ => none

end Prog

/-- Any number of running programs over one shared state. -/
structure Pool (Op : Type) (Resp : Op → Type) (σ α : Type) where
  threads : List (Prog Op Resp α)
  state : σ

/-- One step of a pool: a program starts, issues its next section, or dies. -/
inductive PoolStep (step : (op : Op) → σ → Resp op → σ → Prop)
    (startable : Prog Op Resp α → Prop) :
    Pool Op Resp σ α → List (Event Op Resp) → Pool Op Resp σ α → Prop
  | start {p : Prog Op Resp α} {threads : List (Prog Op Resp α)} {s : σ}
      (h : startable p) :
      PoolStep step startable ⟨threads, s⟩ [] ⟨p :: threads, s⟩
  | turn {op : Op} {k : Resp op → Prog Op Resp α} {r : Resp op} {s s' : σ}
      {before after : List (Prog Op Resp α)} (h : step op s r s') :
      PoolStep step startable ⟨before ++ .call op k :: after, s⟩ [⟨op, r⟩]
        ⟨before ++ k r :: after, s'⟩
  | crash {p : Prog Op Resp α} {before after : List (Prog Op Resp α)} {s : σ} :
      PoolStep step startable ⟨before ++ p :: after, s⟩ [] ⟨before ++ after, s⟩

/-- A run of a pool, with the trace of the sections issued. -/
inductive PoolRun (step : (op : Op) → σ → Resp op → σ → Prop)
    (startable : Prog Op Resp α → Prop) (init : Pool Op Resp σ α) :
    List (Event Op Resp) → Pool Op Resp σ α → Prop
  | refl : PoolRun step startable init [] init
  | tail {trace new : List (Event Op Resp)} {pool pool' : Pool Op Resp σ α}
      (run : PoolRun step startable init trace pool)
      (last : PoolStep step startable pool new pool') :
      PoolRun step startable init (trace ++ new) pool'

section

variable {step : (op : Op) → σ → Resp op → σ → Prop} {startable : Prog Op Resp α → Prop}

theorem PoolRun.trans {pool₀ pool₁ pool₂ : Pool Op Resp σ α} {left right : List (Event Op Resp)}
    (hleft : PoolRun step startable pool₀ left pool₁)
    (hright : PoolRun step startable pool₁ right pool₂) :
    PoolRun step startable pool₀ (left ++ right) pool₂ := by
  induction hright with
  | refl => simpa using hleft
  | tail _ last ih =>
    rw [← List.append_assoc]
    exact ih.tail last

variable {init pool : Pool Op Resp σ α} {trace : List (Event Op Resp)}

section

variable (hrun : PoolRun step startable init trace pool)

include hrun

theorem PoolRun.mono {step' : (op : Op) → σ → Resp op → σ → Prop}
    (hstep : ∀ op s r t, step op s r t → step' op s r t) :
    PoolRun step' startable init trace pool := by
  induction hrun with
  | refl => exact .refl
  | tail _ last ih =>
    cases last with
    | start hp => exact ih.tail (.start hp)
    | turn h => exact ih.tail (.turn (hstep _ _ _ _ h))
    | crash => exact ih.tail .crash

/-- **History rule.**  What every section preserves, of the trace so far and
the state, holds after every run, whatever the programs are. -/
theorem PoolRun.history
    (I : List (Event Op Resp) → σ → Prop) (hinit : I [] init.state)
    (hstep : ∀ trace op s r s', I trace s → step op s r s' → I (trace ++ [⟨op, r⟩]) s') :
    I trace pool.state := by
  induction hrun with
  | refl => exact hinit
  | tail _ last ih =>
    cases last with
    | start _ => simpa using ih
    | turn h => exact hstep _ _ _ _ _ ih h
    | crash => simpa using ih

/-- **Invariant rule.**  What every section preserves of the state holds after
every run. -/
theorem PoolRun.invariant (I : σ → Prop)
    (hinit : I init.state) (hstep : ∀ op s r s', I s → step op s r s' → I s') : I pool.state :=
  hrun.history (fun _ => I) hinit fun _ op s r s' => hstep op s r s'

end

theorem Runs.poolRun {p p' : Prog Op Resp α} {s s' : σ} (hstart : startable p)
    (hruns : Runs step p s trace p' s') : PoolRun step startable ⟨[], s⟩ trace ⟨[], s'⟩ := by
  suffices h : PoolRun step startable ⟨[p], s⟩ trace ⟨[], s'⟩ from
    PoolRun.trans (PoolRun.refl.tail (.start hstart)) h
  clear hstart
  induction hruns with
  | refl p s =>
    have hcrash := @PoolStep.crash _ _ _ _ step startable p [] [] s
    exact PoolRun.refl.tail hcrash
  | @cons op k r s s' t trace p head _ ih =>
    have hturn := @PoolStep.turn _ _ _ _ step startable op k r s s' [] [] head
    exact PoolRun.trans (PoolRun.refl.tail hturn) ih

theorem Prog.execAll_poolRun
    {script : List (((op : Op) → σ → Option (Resp op × σ)) × Nat × Prog Op Resp α)}
    (hstart : ∀ entry ∈ script, startable entry.2.2)
    (hstep : ∀ entry ∈ script, ∀ op s r s', entry.1 op s = some (r, s') → step op s r s')
    {s s' : σ} (hexec : execAll script s = some s') :
    ∃ trace, PoolRun step startable ⟨[], s⟩ trace ⟨[], s'⟩ := by
  induction script generalizing s with
  | nil =>
    cases hexec
    exact ⟨[], .refl⟩
  | cons entry rest ih =>
    simp only [execAll] at hexec
    split at hexec
    · cases hexec
    · next p' t hfirst =>
      obtain ⟨left, hruns⟩ := exec_runs (hstep _ List.mem_cons_self) hfirst
      obtain ⟨right, hrest⟩ := ih (fun e he => hstart e (List.mem_cons_of_mem _ he))
        (fun e he => hstep e (List.mem_cons_of_mem _ he)) hexec
      exact ⟨_, (hruns.poolRun (hstart _ List.mem_cons_self)).trans hrest⟩

/-- In a pool of programs that only issue sections satisfying `P`, only such
sections happen. -/
theorem PoolRun.restrict {P : Op → Prop} {s : σ} (hstart : ∀ p, startable p → p.Uses P)
    (hrun : PoolRun step startable ⟨[], s⟩ trace pool) :
    PoolRun (fun op s r t => P op ∧ step op s r t) startable ⟨[], s⟩ trace pool ∧
      ∀ p ∈ pool.threads, p.Uses P := by
  induction hrun with
  | refl => exact ⟨.refl, by simp⟩
  | tail _ last ih =>
    obtain ⟨hrun, huses⟩ := ih
    cases last with
    | @start p threads s hp =>
      refine ⟨hrun.tail (.start hp), ?_⟩
      simp only [List.mem_cons, forall_eq_or_imp]
      exact ⟨hstart p hp, huses⟩
    | @turn op k r s s' before after hstep =>
      have hcall : (Prog.call op k).Uses P := huses _ (by simp)
      refine ⟨hrun.tail (.turn ⟨hcall.1, hstep⟩), ?_⟩
      intro q hq
      simp only [List.mem_append, List.mem_cons] at hq
      rcases hq with hq | rfl | hq
      · exact huses q (by simp [hq])
      · exact hcall.2 r
      · exact huses q (by simp [hq])
    | @crash p before after s =>
      refine ⟨hrun.tail .crash, ?_⟩
      intro q hq
      refine huses q ?_
      simp only [List.mem_append, List.mem_cons] at hq ⊢
      tauto

end

/-- What a proof about interleaved programs may assume and must respect. -/
structure Discipline (Op : Type) (Resp : Op → Type) (σ : Type) where
  step : (op : Op) → σ → Resp op → σ → Prop
  rely : σ → σ → Prop
  allowed : Op → σ → Prop
  earn : (op : Op) → Resp op → Nat
  spend : (op : Op) → Resp op → Nat
  rely_refl : ∀ s, rely s s
  rely_trans : ∀ {s t u}, rely s t → rely t u → rely s u

variable (D : Discipline Op Resp σ)

/-- Weakest precondition under interference: from state `s` with `c` credits every section is
allowed and paid for, and `Q` holds at the end. -/
def wp : Prog Op Resp α → (α → Nat → σ → Prop) → Nat → σ → Prop
  | .ret a, Q, c, s => ∀ t, D.rely s t → Q a c t
  | .call op k, Q, c, s =>
    ∀ t, D.rely s t → D.allowed op t ∧
      ∀ r u, D.step op t r u → D.spend op r ≤ c + D.earn op r ∧
        wp (k r) Q (c + D.earn op r - D.spend op r) u

variable {D} {Q : α → Nat → σ → Prop} {c total : Nat} {s : σ}

/-- Interference before a program starts is absorbed. -/
theorem wp.rely {t : σ} (h : wp D p Q c s) (hst : D.rely s t) : wp D p Q c t := by
  cases p with
  | ret a | call op k => exact fun u htu => h u (D.rely_trans hst htu)

theorem wp.mono {Q' : α → Nat → σ → Prop} (h : wp D p Q c s) (hQ : ∀ a c t, Q a c t → Q' a c t) :
    wp D p Q' c s := by
  induction p generalizing c s with
  | ret a => exact fun t hst => hQ a c t (h t hst)
  | call op k ih =>
    intro t hst
    obtain ⟨hallowed, hnext⟩ := h t hst
    refine ⟨hallowed, fun r u hstep => ?_⟩
    obtain ⟨hpaid, hrest⟩ := hnext r u hstep
    exact ⟨hpaid, ih r hrest⟩

/-- The precondition of a sequence is the precondition of its first part
with the precondition of the rest as postcondition. -/
theorem wp_bind {f : α → Prog Op Resp β} {Q : β → Nat → σ → Prop}
    (h : wp D p (fun a c t => wp D (f a) Q c t) c s) : wp D (p.bind f) Q c s := by
  induction p generalizing c s with
  | ret a => exact (h s (D.rely_refl s))
  | call op k ih =>
    intro t hst
    obtain ⟨hallowed, hnext⟩ := h t hst
    refine ⟨hallowed, fun r u hstep => ?_⟩
    obtain ⟨hpaid, hrest⟩ := hnext r u hstep
    exact ⟨hpaid, ih r hrest⟩

/-- A program within its budget is safe with that many credits, and keeps those
it does not need. -/
theorem wp_of_within {P : Op → Prop} {cost : Op → Nat} {n : Nat} (h : p.Within P cost n)
    (hc : n ≤ c) (hallowed : ∀ op t, D.allowed op t) (hspend : ∀ op r, D.spend op r ≤ cost op)
    (hrely : ∀ op t r u, D.step op t r u → D.rely t u) :
    wp D p (fun _ c' t => c ≤ c' + n ∧ D.rely s t) c s := by
  suffices hgeneral : ∀ n' c' t, p.Within P cost n' → n' ≤ c' → c + n' ≤ c' + n →
      D.rely s t → wp D p (fun _ c' t => c ≤ c' + n ∧ D.rely s t) c' t from
    hgeneral n c s h hc (Nat.le_refl _) (D.rely_refl s)
  clear h
  induction p with
  | ret a =>
    intro n' c' t _ hle hsum hst u htu
    exact ⟨by omega, D.rely_trans hst htu⟩
  | call op k ih =>
    intro n' c' t hwithin hle hsum hst u htu
    obtain ⟨-, hpaid, hrest⟩ := Prog.within_call.mp hwithin
    refine ⟨hallowed op u, fun r v hstep => ?_⟩
    have hcost := hspend op r
    have hsv : D.rely s v :=
      D.rely_trans (D.rely_trans hst htu) (hrely op u r v hstep)
    exact ⟨by omega, ih r (n' - cost op) _ v (hrest r) (by omega) (by omega) hsv⟩

/-- What interference and every section of the program preserve holds when it
returns. -/
theorem wp_of_uses {P : Op → Prop} {J : σ → Prop} {p : Prog Op Resp α} {c : Nat} {s : σ}
    (h : p.Uses P) (hallowed : ∀ op t, P op → D.allowed op t)
    (hfree : ∀ op r, D.spend op r = 0) (hstable : ∀ t u, J t → D.rely t u → J u)
    (hstep : ∀ op t r u, P op → J t → D.step op t r u → J u) (hs : J s) :
    wp D p (fun _ _ t => J t) c s := by
  induction p generalizing c s with
  | ret a => exact fun t hst => hstable s t hs hst
  | call op k ih =>
    intro t hst
    refine ⟨hallowed op t h.1, fun r u hnext => ?_⟩
    rw [hfree op r]
    have hu := hstep op t r u h.1 (hstable s t hs hst) hnext
    exact ⟨Nat.zero_le _, ih r (h.2 r) hu⟩

def earned (D : Discipline Op Resp σ) (trace : List (Event Op Resp)) : Nat :=
  (trace.map fun e => D.earn e.op e.resp).sum

def spent (D : Discipline Op Resp σ) (trace : List (Event Op Resp)) : Nat :=
  (trace.map fun e => D.spend e.op e.resp).sum

/-- Each running program is safe with its own share of the credits. -/
inductive Funded (D : Discipline Op Resp σ) (s : σ) :
    List (Prog Op Resp α) → Nat → Prop
  | nil : Funded D s [] 0
  | cons {p : Prog Op Resp α} {rest : List (Prog Op Resp α)} {c total : Nat}
      (head : wp D p (fun _ _ _ => True) c s) (tail : Funded D s rest total) :
      Funded D s (p :: rest) (c + total)

theorem Funded.rely {t : σ} {threads : List (Prog Op Resp α)} (h : Funded D s threads total)
    (hst : D.rely s t) : Funded D t threads total := by
  induction h with
  | nil => exact .nil
  | cons head _ ih => exact .cons (head.rely hst) ih

/-- Single out one program of a funded pool, with what it takes to put a
successor in its place. -/
theorem Funded.split {before after : List (Prog Op Resp α)}
    (h : Funded D s (before ++ p :: after) total) :
    ∃ c others, total = c + others ∧ wp D p (fun _ _ _ => True) c s ∧
      Funded D s (before ++ after) others ∧
      ∀ (q : Prog Op Resp α) (c' : Nat) (t : σ), D.rely s t →
        wp D q (fun _ _ _ => True) c' t →
        Funded D t (before ++ q :: after) (c' + others) := by
  induction before generalizing total with
  | nil =>
    cases h with
    | @cons _ _ c others head tail =>
      exact ⟨c, others, rfl, head, tail,
        fun q c' t hst hq => .cons hq (tail.rely hst)⟩
  | cons first before ih =>
    cases h with
    | @cons _ _ c₀ rest head tail =>
      obtain ⟨c, others, htotal, hp, hothers, hput⟩ := ih tail
      refine ⟨c, c₀ + others, by omega, hp, .cons head hothers, ?_⟩
      intro q c' t hst hq
      have hsum : c' + (c₀ + others) = c₀ + (c' + others) := by omega
      rw [hsum]
      exact .cons (head.rely hst) (hput q c' t hst hq)

section

variable {startable : Prog Op Resp α → Prop} {s₀ : σ} {trace : List (Event Op Resp)}
  {pool : Pool Op Resp σ α}

section

variable (hstart : ∀ p, startable p → ∀ s, D.rely s₀ s → wp D p (fun _ _ _ => True) 0 s)

include hstart

/-- In every run of a pool each section is issued where it is allowed, and the credits not yet
spent fund what is still running. -/
theorem PoolRun.funded
    (hrely : ∀ op s r t, D.rely s₀ s → D.allowed op s → D.step op s r t →
      D.rely s t)
    (hrun : PoolRun D.step startable ⟨[], s₀⟩ trace pool) :
    D.rely s₀ pool.state ∧
      PoolRun (fun op s r t => D.allowed op s ∧ D.step op s r t) startable ⟨[], s₀⟩ trace pool ∧
      ∃ total, Funded D pool.state pool.threads total ∧ spent D trace + total ≤ earned D trace := by
  induction hrun with
  | refl => exact ⟨D.rely_refl _, .refl, 0, .nil, Nat.le_refl _⟩
  | @tail trace new pool pool' run last ih =>
    obtain ⟨hreach, hguarded, total, hfunded, hsum⟩ := ih
    cases last with
    | start hp =>
      refine ⟨hreach, hguarded.tail (.start hp), 0 + total,
        .cons (hstart _ hp _ hreach) hfunded, ?_⟩
      simpa [spent, earned] using hsum
    | @crash p before after s =>
      -- a dying program takes its unspent credits with it
      obtain ⟨c, others, htotal, -, hothers, -⟩ := hfunded.split
      refine ⟨hreach, hguarded.tail .crash, others, hothers, ?_⟩
      simp only [List.append_nil]
      omega
    | @turn op k r s s' before after hstep =>
      obtain ⟨c, others, htotal, hp, -, hput⟩ := hfunded.split
      obtain ⟨hallowed, hnext⟩ := hp s (D.rely_refl s)
      obtain ⟨hpaid, hrest⟩ := hnext r s' hstep
      have hst := hrely op s r s' hreach hallowed hstep
      refine ⟨D.rely_trans hreach hst, hguarded.tail (.turn ⟨hallowed, hstep⟩), _,
        hput _ _ s' hst hrest, ?_⟩
      simp only [spent, earned, List.map_append, List.sum_append,
        List.map_cons, List.map_nil, List.sum_cons, List.sum_nil] at hsum ⊢
      omega

/-- **Interleaving soundness.** Every run of the pool moves the state along `rely` and spends no
more credits than it earns. -/
theorem PoolRun.sound
    (hrely : ∀ op s r t, D.rely s₀ s → D.allowed op s → D.step op s r t →
      D.rely s t)
    (hrun : PoolRun D.step startable ⟨[], s₀⟩ trace pool) :
    D.rely s₀ pool.state ∧ spent D trace ≤ earned D trace := by
  obtain ⟨hreach, -, total, -, hsum⟩ := hrun.funded hstart hrely
  exact ⟨hreach, by omega⟩

end

end

section

variable {Part : Type} (f : Part → Op)

/-- A program over some of the sections, as a program over all of them. -/
def Prog.embed : Prog Part (fun part => Resp (f part)) α → Prog Op Resp α
  | .ret a => .ret a
  | .call part k => .call (f part) fun r => (k r).embed

/-- What holds of the sections in general, for some of them. -/
def Discipline.along (D : Discipline Op Resp σ) :
    Discipline Part (fun part => Resp (f part)) σ where
  step part := D.step (f part)
  rely := D.rely
  allowed part := D.allowed (f part)
  earn part := D.earn (f part)
  spend part := D.spend (f part)
  rely_refl := D.rely_refl
  rely_trans := D.rely_trans

variable {f}

theorem Prog.Uses.embed {P : Op → Prop} {p : Prog Part (fun part => Resp (f part)) α}
    (h : p.Uses fun part => P (f part)) : (p.embed f).Uses P := by
  induction p with
  | ret a => trivial
  | call part k ih => exact ⟨h.1, fun r => ih r (h.2 r)⟩

theorem wp_embed {D : Discipline Op Resp σ} {p : Prog Part (fun part => Resp (f part)) α}
    {Q : α → Nat → σ → Prop} {c : Nat} {s : σ} (h : wp (D.along f) p Q c s) :
    wp D (p.embed f) Q c s := by
  induction p generalizing c s with
  | ret a => exact h
  | call part k ih =>
    intro t hst
    obtain ⟨hallowed, hnext⟩ := h t hst
    refine ⟨hallowed, fun r u hstep => ?_⟩
    obtain ⟨hpaid, hrest⟩ := hnext r u hstep
    exact ⟨hpaid, ih r hrest⟩

end

/-- No interference: the state changes through the program's own sections, and
`I` has to hold wherever the program may be cut off. -/
def alone (step : (op : Op) → σ → Resp op → σ → Prop) (I : σ → Prop) :
    Discipline Op Resp σ where
  step
  rely := Eq
  allowed _ s := I s
  earn _ _ := 0
  spend _ _ := 0
  rely_refl _ := rfl
  rely_trans := Eq.trans

/-- Started in `s` and left alone, the program keeps `I` at every cut and
establishes `Q` when it returns. -/
@[irreducible] def Keeps (step : (op : Op) → σ → Resp op → σ → Prop) (I : σ → Prop)
    (p : Prog Op Resp α) (Q : α → σ → Prop) (s : σ) : Prop :=
  wp (alone step I) p (fun a _ t => Q a t) 0 s

section

variable {step : (op : Op) → σ → Resp op → σ → Prop} {I : σ → Prop}
  {Q : α → σ → Prop} {p : Prog Op Resp α}
  {s s' : σ} {p' : Prog Op Resp α} {trace : List (Event Op Resp)}

@[simp] theorem keeps_ret {a : α} : Keeps step I (.ret a) Q s ↔ Q a s := by
  simp [Keeps, wp, alone]

@[simp] theorem keeps_call {op : Op} {k : Resp op → Prog Op Resp α} :
    Keeps step I (.call op k) Q s ↔
      I s ∧ ∀ r u, step op s r u → Keeps step I (k r) Q u := by
  simp [Keeps, wp, alone]

theorem keeps_bind {f : α → Prog Op Resp β} {Q : β → σ → Prop}
    (h : Keeps step I p (fun a t => Keeps step I (f a) Q t) s) : Keeps step I (p.bind f) Q s := by
  induction p generalizing s with
  | ret a =>
    rw [keeps_ret] at h
    exact h
  | call op k ih =>
    obtain ⟨hcut, hnext⟩ := keeps_call.mp h
    exact keeps_call.mpr ⟨hcut, fun r u hstep => ih r (hnext r u hstep)⟩

theorem Keeps.mono {Q' : α → σ → Prop} (h : Keeps step I p Q s) (hQ : ∀ a t, Q a t → Q' a t) :
    Keeps step I p Q' s := by
  unfold Keeps at h ⊢
  exact h.mono fun a _ t => hQ a t

/-- **Crash safety.** `I` holds wherever a run is cut off, and `Q` where it is not. -/
theorem Keeps.runs (h : Keeps step I p Q s) (hruns : Runs step p s trace p' s') :
    Keeps step I p' Q s' := by
  induction hruns with
  | refl => exact h
  | cons head _ ih => exact ih ((keeps_call.mp h).2 _ _ head)

theorem Keeps.cut (h : Keeps step I p Q s) (hQ : ∀ a t, Q a t → I t)
    (hruns : Runs step p s trace p' s') : I s' := by
  have hkeeps := h.runs hruns
  cases p' with
  | ret a => exact hQ a s' (keeps_ret.mp hkeeps)
  | call op k => exact (keeps_call.mp hkeeps).1

end

abbrev Raising (Op : Type) (Resp : Op → Type) (ε α : Type) := ExceptT ε (Prog Op Resp) α

namespace Raising

/-- A computation without sections. -/
def ofExcept (x : Except ε α) : Raising Op Resp ε α := .ret x

/-- One section that cannot fail. -/
def perform (op : Op) : Raising Op Resp ε (Resp op) := ExceptT.lift (Prog.issue op)

/-- How a program goes on after the first part of a sequence. -/
def andThen (f : α → Raising Op Resp ε β) : Except ε α → Prog Op Resp (Except ε β)
  | .ok a => f a
  | .error e => .ret (.error e)

theorem bind_run (x : Raising Op Resp ε α) (f : α → Raising Op Resp ε β) :
    (x >>= f : Raising Op Resp ε β) = Prog.bind x (andThen f) := by
  show Prog.bind x (ExceptT.bindCont f) = _
  congr 1
  funext r
  cases r <;> rfl

variable {P : Op → Prop} {x : Raising Op Resp ε α} {f : α → Raising Op Resp ε β} {cost : Op → Nat}

theorem uses_andThen (hx : Prog.Uses P x) (hf : ∀ a, Prog.Uses P (f a)) :
    Prog.Uses P (x >>= f : Raising Op Resp ε β) := by
  refine Prog.uses_bind hx ?_
  rintro (e | a)
  · trivial
  · exact hf a

variable {n m : Nat}

theorem within_ofExcept (x : Except ε α) :
    Prog.Within P cost n (ofExcept x : Raising Op Resp ε α) := Prog.within_ret _

theorem within_andThen (hx : Prog.Within P cost n x) (hf : ∀ a, Prog.Within P cost m (f a)) :
    Prog.Within P cost (n + m) (x >>= f : Raising Op Resp ε β) := by
  refine Prog.within_bind hx ?_
  rintro (e | a)
  · exact Prog.within_ret _
  · exact hf a

theorem within_then (hx : Prog.Within P cost 0 x) (hf : ∀ a, Prog.Within P cost n (f a)) :
    Prog.Within P cost n (x >>= f : Raising Op Resp ε β) := by
  have h := within_andThen hx hf
  rwa [Nat.zero_add] at h

theorem within_tryCatch {handler : ε → Raising Op Resp ε α} (hx : Prog.Within P cost n x)
    (hhandler : ∀ e, Prog.Within P cost m (handler e)) :
    Prog.Within P cost (n + m) (tryCatch x handler : Raising Op Resp ε α) := by
  show Prog.Within P cost (n + m) (Prog.bind x _)
  refine Prog.within_bind hx ?_
  rintro (e | a)
  · exact hhandler e
  · exact Prog.within_ret _

/-- A complete run of a sequence: the first part raises, or the rest runs after
it. -/
theorem andThen_inv {step : (op : Op) → σ → Resp op → σ → Prop} {result : Except ε β} {s t : σ}
    {trace : List (Event Op Resp)}
    (h : Runs step (x >>= f : Raising Op Resp ε β) s trace (.ret result) t) :
    (∃ e, result = .error e ∧ Runs step x s trace (.ret (.error e)) t) ∨
      ∃ a u left right, trace = left ++ right ∧ Runs step x s left (.ret (.ok a)) u ∧
        Runs step (f a) u right (.ret result) t := by
  obtain ⟨outcome, u, left, right, rfl, hleft, hright⟩ := h.bind_inv
  cases outcome with
  | error e =>
    obtain ⟨rfl, rfl, rfl⟩ := Runs.ret_inv hright
    rw [List.append_nil]
    exact .inl ⟨e, rfl, hleft⟩
  | ok a => exact .inr ⟨a, u, left, right, rfl, hleft, hright⟩

section

variable {step : (op : Op) → σ → Resp op → σ → Prop} {s t : σ} {outcome : Except ε α}

@[simp] theorem completes_pure {a : α} :
    Completes step (pure a : Raising Op Resp ε α) s outcome t ↔ outcome = .ok a ∧ t = s :=
  completes_ret

@[simp] theorem completes_ofExcept {x : Except ε α} :
    Completes step (ofExcept x : Raising Op Resp ε α) s outcome t ↔ outcome = x ∧ t = s :=
  completes_ret

@[simp] theorem completes_perform {op : Op} {outcome : Except ε (Resp op)} :
    Completes step (perform op : Raising Op Resp ε (Resp op)) s outcome t ↔
      ∃ r, outcome = .ok r ∧ step op s r t := by
  show Completes step (Prog.bind (Prog.issue op) _) s outcome t ↔ _
  simp only [completes_bind, completes_issue]
  constructor
  · rintro ⟨r, u, hstep, hret⟩
    obtain ⟨rfl, rfl⟩ := completes_ret.mp hret
    exact ⟨r, rfl, hstep⟩
  · rintro ⟨r, rfl, hstep⟩
    exact ⟨r, t, hstep, completes_ret.mpr ⟨rfl, rfl⟩⟩

/-- A sequence completes with the exception of its first part, or with its second
part. -/
theorem completes_andThen {x : Raising Op Resp ε α} {f : α → Raising Op Resp ε β}
    {outcome : Except ε β} :
    Completes step (x >>= f : Raising Op Resp ε β) s outcome t ↔
      (∃ e, outcome = .error e ∧ Completes step x s (.error e) t) ∨
        ∃ a u, Completes step x s (.ok a) u ∧ Completes step (f a) u outcome t := by
  rw [bind_run, completes_bind]
  constructor
  · rintro ⟨e | a, u, hx, hrest⟩
    · obtain ⟨rfl, rfl⟩ := completes_ret.mp hrest
      exact .inl ⟨e, rfl, hx⟩
    · exact .inr ⟨a, u, hx, hrest⟩
  · rintro (⟨e, rfl, hx⟩ | ⟨a, u, hx, hrest⟩)
    · exact ⟨.error e, t, hx, completes_ret.mpr ⟨rfl, rfl⟩⟩
    · exact ⟨.ok a, u, hx, hrest⟩

end

theorem wp_andThen {D : Discipline Op Resp σ} {Q : Except ε β → Nat → σ → Prop} {c : Nat} {s : σ}
    (h : wp D x (fun outcome c t => wp D (andThen f outcome) Q c t) c s) :
    wp D (x >>= f : Raising Op Resp ε β) Q c s := by
  rw [bind_run]
  exact wp_bind h

def ends (ok : α → σ → Prop) (err : ε → σ → Prop) : Except ε α → σ → Prop
  | .ok a, s => ok a s
  | .error e, s => err e s

section

variable {step : (op : Op) → σ → Resp op → σ → Prop} {I : σ → Prop}
  {err err' : ε → σ → Prop} {s : σ} {Q : Except ε α → σ → Prop}

@[simp] theorem keeps_pure {a : α} :
    Keeps step I (pure a : Raising Op Resp ε α) Q s ↔ Q (.ok a) s := keeps_ret

@[simp] theorem keeps_ofExcept {x : Except ε α} :
    Keeps step I (ofExcept x : Raising Op Resp ε α) Q s ↔ Q x s := keeps_ret

variable {x : Raising Op Resp ε α}

theorem keeps_andThen {f : α → Raising Op Resp ε β} {ok : β → σ → Prop}
    (h : Keeps step I x (ends (fun a t => Keeps step I (f a) (ends ok err) t) err) s) :
    Keeps step I (x >>= f : Raising Op Resp ε β) (ends ok err) s := by
  refine keeps_bind (Keeps.mono h ?_)
  rintro (e | a) t ht
  · exact keeps_ret.mpr ht
  · exact ht

variable {ok : α → σ → Prop}

theorem keeps_mono {ok' : α → σ → Prop} (h : Keeps step I x (ends ok err) s)
    (hok : ∀ a t, ok a t → ok' a t) (herr : ∀ e t, err e t → err' e t) :
    Keeps step I x (ends ok' err') s := by
  refine Keeps.mono h ?_
  rintro (e | a) t ht
  · exact herr e t ht
  · exact hok a t ht

theorem keeps_tryCatch {handler : ε → Raising Op Resp ε α}
    (h : Keeps step I x (ends ok fun e t => Keeps step I (handler e) (ends ok err) t) s) :
    Keeps step I (tryCatch x handler : Raising Op Resp ε α) (ends ok err) s := by
  show Keeps step I (Prog.bind x _) (ends ok err) s
  refine keeps_bind (Keeps.mono h ?_)
  rintro (e | a) t ht
  · exact ht
  · exact keeps_ret.mpr ht

end

/-- From every state and with whatever credits, the program is safe, and what it
returns satisfies `ok`. -/
def Respects (D : Discipline Op Resp σ) (x : Raising Op Resp ε α) (ok : α → Prop) : Prop :=
  ∀ c s, wp D x (fun outcome _ _ => ∀ a, outcome = .ok a → ok a) c s

section

variable {D : Discipline Op Resp σ} {ok : α → Prop}

theorem respects_ofExcept {x : Except ε α} (h : ∀ a, x = .ok a → ok a) :
    Respects D (ofExcept x : Raising Op Resp ε α) ok := fun _ _ _ _ => h

theorem respects_pure {a : α} (h : ok a) : Respects D (pure a : Raising Op Resp ε α) ok := by
  intro c s t _ b hb
  cases hb
  exact h

variable {ok' : β → Prop}

theorem respects_andThen {x : Raising Op Resp ε α} {f : α → Raising Op Resp ε β}
    (hx : Respects D x ok) (hf : ∀ a, ok a → Respects D (f a) ok') :
    Respects D (x >>= f : Raising Op Resp ε β) ok' := by
  intro c s
  refine wp_andThen ((hx c s).mono ?_)
  rintro (e | a) c' t ha
  · intro u _ b hb
    cases hb
  · exact hf a (ha a rfl) c' t

theorem respects_then {x : Raising Op Resp ε α} {f : α → Raising Op Resp ε β}
    (hx : Respects D x fun _ => True) (hf : ∀ a, Respects D (f a) ok') :
    Respects D (x >>= f : Raising Op Resp ε β) ok' :=
  respects_andThen hx fun a _ => hf a

theorem respects_perform {op : Op} {ok : Resp op → Prop} (hallowed : ∀ s, D.allowed op s)
    (hfree : ∀ r, D.spend op r = 0) (hok : ∀ s r t, D.step op s r t → ok r) :
    Respects D (perform op : Raising Op Resp ε (Resp op)) ok := by
  intro c s t _
  refine ⟨hallowed t, fun r u hstep => ⟨by rw [hfree r]; omega, ?_⟩⟩
  intro v _ a ha
  cases ha
  exact hok t r u hstep

end

/-- From `s`, with whatever credits, the program is safe; where it returns a
value, `ok` holds of the value and of the state then. -/
def Leads (D : Discipline Op Resp σ) (x : Raising Op Resp ε α) (ok : α → σ → Prop) (s : σ) :
    Prop :=
  ∀ c, wp D x (fun outcome _ t => ∀ a, outcome = .ok a → ok a t) c s

section

variable {D : Discipline Op Resp σ} {Q : α → σ → Prop} {s t : σ}

theorem leads_ofExcept {x : Except ε α} (h : ∀ a t, x = .ok a → D.rely s t → Q a t) :
    Leads D (ofExcept x : Raising Op Resp ε α) Q s := fun _ t hst a ha => h a t ha hst

theorem leads_pure {a : α} (h : ∀ t, D.rely s t → Q a t) :
    Leads D (pure a : Raising Op Resp ε α) Q s := by
  intro c t hst b hb
  cases hb
  exact h t hst

variable {x : Raising Op Resp ε α}

theorem leads_andThen {f : α → Raising Op Resp ε β} {Q' : β → σ → Prop} (hx : Leads D x Q s)
    (hf : ∀ a t, Q a t → Leads D (f a) Q' t) : Leads D (x >>= f : Raising Op Resp ε β) Q' s := by
  intro c
  refine wp_andThen ((hx c).mono ?_)
  rintro (e | a) c' t ha
  · intro u _ b hb
    cases hb
  · exact hf a t (ha a rfl) c'

theorem leads_tryCatch {handler : ε → Raising Op Resp ε α} (hx : Leads D x Q s)
    (hstable : ∀ a t u, Q a t → D.rely t u → Q a u) (hhandler : ∀ e t, Leads D (handler e) Q t) :
    Leads D (tryCatch x handler : Raising Op Resp ε α) Q s := by
  intro c
  show wp D (Prog.bind x _) _ c s
  refine wp_bind ((hx c).mono ?_)
  rintro (e | a) c' t ha
  · exact hhandler e t c'
  · intro u htu b hb
    cases hb
    exact hstable a t u (ha a rfl) htu

variable {J : σ → Prop}

theorem leads_when {c : Prop} [Decidable c] {x : Raising Op Resp ε Unit}
    {rest : Unit → Raising Op Resp ε α} (hx : c → Leads D x (fun _ t => J t) s) (hnot : ¬ c → J s)
    (hrest : ∀ t, J t → Leads D (rest ()) Q t) :
    Leads D (if c then x >>= rest else rest () : Raising Op Resp ε α) Q s := by
  split
  · next h => exact leads_andThen (hx h) fun _ t ht => hrest t ht
  · next h => exact hrest s (hnot h)

theorem leads_perform {op : Op} {Q : Resp op → σ → Prop} (hallowed : ∀ t, D.allowed op t)
    (hfree : ∀ r, D.spend op r = 0)
    (hok : ∀ t r u v, D.rely s t → D.step op t r u → D.rely u v → Q r v) :
    Leads D (perform op : Raising Op Resp ε (Resp op)) Q s := by
  intro c t hst
  refine ⟨hallowed t, fun r u hstep => ⟨by rw [hfree r]; omega, ?_⟩⟩
  intro v huv a ha
  cases ha
  exact hok t r u v hst hstep huv

theorem leads_of_uses {P : Op → Prop} (h : Prog.Uses P x)
    (hallowed : ∀ op t, P op → D.allowed op t) (hfree : ∀ op r, D.spend op r = 0)
    (hstable : ∀ t u, J t → D.rely t u → J u)
    (hstep : ∀ op t r u, P op → J t → D.step op t r u → J u) (hs : J s) :
    Leads D x (fun _ t => J t) s :=
  fun _ => (wp_of_uses h hallowed hfree hstable hstep hs).mono fun _ _ _ ht _ _ => ht

end

end Raising

end Atomic
