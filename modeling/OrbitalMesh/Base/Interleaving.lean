import Mathlib.Data.List.Perm.Subperm
import OrbitalMesh.Base.Atomic

/-!
# A fixed set of calls, interleaved to the end

Here the programs are given at the beginning and all of them are run, in any
interleaving (`Interleaves`).  Where each program delivers a fixed amount over its
sections, once all have returned the trace has delivered the sum
(`Interleaves.delivered`).  Where one program leads and the others help it, the
leader reaches what it was to reach (`Led.interleaves`).
-/

namespace Atomic

variable {Op : Type} {Resp : Op → Type} {σ α β : Type}

/-- The programs `threads`, run in some interleaving from `s`, have issued the
sections of the trace and are now `threads'` in state `t`. -/
inductive Interleaves (step : (op : Op) → σ → Resp op → σ → Prop) :
    List (Prog Op Resp α) → σ → List (Event Op Resp) → List (Prog Op Resp α) → σ → Prop
  | refl (threads : List (Prog Op Resp α)) (s : σ) : Interleaves step threads s [] threads s
  | turn {before after threads : List (Prog Op Resp α)} {op : Op}
      {k : Resp op → Prog Op Resp α} {r : Resp op} {s s' t : σ} {trace : List (Event Op Resp)}
      (head : step op s r s')
      (tail : Interleaves step (before ++ k r :: after) s' trace threads t) :
      Interleaves step (before ++ .call op k :: after) s (⟨op, r⟩ :: trace) threads t

theorem Interleaves.tail {step : (op : Op) → σ → Resp op → σ → Prop}
    {threads before after : List (Prog Op Resp α)} {op : Op} {k : Resp op → Prog Op Resp α}
    {s t u : σ} {r : Resp op} {trace : List (Event Op Resp)}
    (h : Interleaves step threads s trace (before ++ .call op k :: after) t)
    (hstep : step op t r u) :
    Interleaves step threads s (trace ++ [⟨op, r⟩]) (before ++ k r :: after) u := by
  generalize hthreads : before ++ Prog.call op k :: after = threads' at h
  induction h with
  | refl threads s =>
    subst hthreads
    exact .turn hstep (.refl _ _)
  | turn head _ ih => exact .turn head (ih hstep hthreads)

variable {step : (op : Op) → σ → Resp op → σ → Prop} {threads threads' : List (Prog Op Resp α)}
  {s t : σ} {trace : List (Event Op Resp)}

theorem Interleaves.upTo {left right : List (Event Op Resp)} {e : Event Op Resp}
    (h : Interleaves step threads s (left ++ e :: right) threads' t) :
    ∃ before after k u, Interleaves step threads s left (before ++ .call e.op k :: after) u := by
  generalize htrace : left ++ e :: right = trace at h
  induction h generalizing left with
  | refl => simp at htrace
  | @turn before after threads op k r s s' t trace head _ ih =>
    cases left with
    | nil =>
      cases htrace
      exact ⟨before, after, k, s, .refl _ _⟩
    | cons first left =>
      obtain ⟨rfl, hrest⟩ := List.cons.inj htrace
      obtain ⟨before', after', k', u, htail⟩ := ih hrest
      exact ⟨before', after', k', u, .turn head htail⟩

/-- The step, with the sections issued so far kept beside the state. -/
def traced (step : (op : Op) → σ → Resp op → σ → Prop) (op : Op)
    (s : σ × List (Event Op Resp)) (r : Resp op) (t : σ × List (Event Op Resp)) : Prop :=
  step op s.1 r t.1 ∧ t.2 = s.2 ++ [⟨op, r⟩]

/-- Keeping the sections issued so far changes nothing. -/
theorem Interleaves.traced (h : Interleaves step threads s trace threads' t)
    (past : List (Event Op Resp)) :
    Interleaves (traced step) threads (s, past) trace threads' (t, past ++ trace) := by
  induction h generalizing past with
  | refl threads s =>
    rw [List.append_nil]
    exact .refl _ _
  | @turn before after threads op k r s s' t trace head _ ih =>
    have htail := ih (past ++ [⟨op, r⟩])
    rw [List.append_assoc] at htail
    exact .turn ⟨head, rfl⟩ htail

theorem Interleaves.past_eq
    {step : (op : Op) → σ × List (Event Op Resp) → Resp op → σ × List (Event Op Resp) → Prop}
    (hkept : ∀ {op s r t}, step op s r t → t.2 = s.2 ++ [⟨op, r⟩])
    {s t : σ × List (Event Op Resp)} (h : Interleaves step threads s trace threads' t) :
    t.2 = s.2 ++ trace := by
  induction h with
  | refl => simp
  | turn head _ ih => rw [ih, hkept head, List.append_assoc, List.singleton_append]

/-- Every section of the program satisfies `P`, and over all its sections,
whatever the answers admitted by `answers` are, it delivers `n`. -/
def Delivers (P : Op → Prop) (answers : (op : Op) → Resp op → Prop) (amount : Op → Nat) :
    Nat → Prog Op Resp α → Prop
  | n, .ret _ => n = 0
  | n, .call op k =>
    P op ∧ amount op ≤ n ∧ ∀ r, answers op r → Delivers P answers amount (n - amount op) (k r)

/-- The programs deliver `total` together. -/
inductive Owes (P : Op → Prop) (answers : (op : Op) → Resp op → Prop) (amount : Op → Nat) :
    List (Prog Op Resp α) → Nat → Prop
  | nil : Owes P answers amount [] 0
  | cons {p : Prog Op Resp α} {rest : List (Prog Op Resp α)} {n total : Nat}
      (head : Delivers P answers amount n p) (tail : Owes P answers amount rest total) :
      Owes P answers amount (p :: rest) (n + total)

section

variable {P : Op → Prop} {answers : (op : Op) → Resp op → Prop} {amount : Op → Nat} {n m : Nat}

@[simp] theorem delivers_ret {a : α} :
    Delivers P answers amount n (.ret a : Prog Op Resp α) ↔ n = 0 := Iff.rfl

variable {p : Prog Op Resp α} {threads : List (Prog Op Resp α)}
  {f : α → Prog Op Resp β} {op : Op} {total : Nat}

theorem delivers_bind (hp : Delivers P answers amount n p)
    (hf : ∀ a, Delivers P answers amount m (f a)) :
    Delivers P answers amount (n + m) (p.bind f) := by
  induction p generalizing n with
  | ret a =>
    obtain rfl : n = 0 := hp
    rw [Nat.zero_add]
    exact hf a
  | call op k ih =>
    obtain ⟨hP, hle, hrest⟩ := hp
    refine ⟨hP, by omega, fun r hr => ?_⟩
    have hsum : n + m - amount op = n - amount op + m := by omega
    rw [hsum]
    exact ih r (hrest r hr)

theorem delivers_then (hp : Delivers P answers amount 0 p)
    (hf : ∀ a, Delivers P answers amount n (f a)) : Delivers P answers amount n (p.bind f) := by
  have h := delivers_bind hp hf
  rwa [Nat.zero_add] at h

theorem delivers_issue {f : Resp op → Prog Op Resp β} (hP : P op)
    (hf : ∀ r, answers op r → Delivers P answers amount n (f r)) :
    Delivers P answers amount (amount op + n) ((Prog.issue op).bind f) := by
  refine ⟨hP, by omega, fun r hr => ?_⟩
  rw [Nat.add_sub_cancel_left]
  exact hf r hr

theorem delivers_free {f : Resp op → Prog Op Resp β} (hP : P op) (hfree : amount op = 0)
    (hf : ∀ r, answers op r → Delivers P answers amount n (f r)) :
    Delivers P answers amount n ((Prog.issue op).bind f) := by
  have h := delivers_issue hP hf
  rwa [hfree, Nat.zero_add] at h

/-- Single out one program, with what it takes to put a successor in its
place. -/
theorem Owes.split {before after : List (Prog Op Resp α)}
    (h : Owes P answers amount (before ++ p :: after) total) :
    ∃ n others, total = n + others ∧ Delivers P answers amount n p ∧
      ∀ (q : Prog Op Resp α) (n' : Nat), Delivers P answers amount n' q →
        Owes P answers amount (before ++ q :: after) (n' + others) := by
  induction before generalizing total with
  | nil =>
    cases h with
    | @cons _ _ n others head tail => exact ⟨n, others, rfl, head, fun q n' hq => .cons hq tail⟩
  | cons first before ih =>
    cases h with
    | @cons _ _ n₀ rest head tail =>
      obtain ⟨n, others, htotal, hp, hput⟩ := ih tail
      refine ⟨n, n₀ + others, by omega, hp, fun q n' hq => ?_⟩
      have hsum : n' + (n₀ + others) = n₀ + (n' + others) := by omega
      rw [hsum]
      exact .cons head (hput q n' hq)

theorem Owes.returned (h : Owes P answers amount threads total)
    (hdone : ∀ p ∈ threads, ∃ a, p = .ret a) : total = 0 := by
  induction h with
  | nil => rfl
  | @cons p rest n total head _ ih =>
    obtain ⟨a, rfl⟩ := hdone _ (List.mem_cons_self ..)
    rw [delivers_ret.mp head, ih fun p hp => hdone p (List.mem_cons_of_mem _ hp)]

/-- **Delivery.** Once all programs have returned, the state has received what they owed. -/
theorem Interleaves.delivered {step : (op : Op) → σ → Resp op → σ → Prop} {J : Nat → σ → Prop}
    (hstep : ∀ op s r s' n, P op → J n s → step op s r s' → answers op r ∧ J (n + amount op) s')
    {threads' : List (Prog Op Resp α)} {s t : σ} {trace : List (Event Op Resp)}
    (h : Interleaves step threads s trace threads' t)
    (howes : Owes P answers amount threads total) (hJ : J n s)
    (hdone : ∀ p ∈ threads', ∃ a, p = .ret a) : J (n + total) t := by
  induction h generalizing n total with
  | refl threads s =>
    rw [howes.returned hdone]
    exact hJ
  | @turn before after threads op k r s s' t trace head _ ih =>
    obtain ⟨owed, others, rfl, hcall, hput⟩ := howes.split
    obtain ⟨hP, hle, hrest⟩ := hcall
    obtain ⟨hanswer, hJ'⟩ := hstep op s r s' n hP hJ head
    have hsum : n + (owed + others) = n + amount op + (owed - amount op + others) := by omega
    rw [hsum]
    exact ih (hput _ _ (hrest r hanswer)) hJ' hdone

/-- As long as the answers are admitted, every section of the program satisfies `P`. -/
abbrev Guarded (P : Op → Prop) (answers : (op : Op) → Resp op → Prop) (p : Prog Op Resp α) : Prop :=
  Delivers P answers (fun _ => 0) 0 p

/-- **Guarded programs.** What every section that satisfies `P` keeps holds throughout. -/
theorem Interleaves.guarded {step : (op : Op) → σ → Resp op → σ → Prop} {J : σ → Prop}
    (hstep : ∀ op s r s', P op → J s → step op s r s' → answers op r ∧ J s')
    {threads' : List (Prog Op Resp α)} {s t : σ} {trace : List (Event Op Resp)}
    (h : Interleaves step threads s trace threads' t)
    (hguarded : ∀ p ∈ threads, Guarded P answers p) (hJ : J s) : J t := by
  induction h with
  | refl => exact hJ
  | @turn before after threads op k r s s' t trace head _ ih =>
    obtain ⟨hP, -, hrest⟩ := hguarded (.call op k) (by simp)
    obtain ⟨hanswer, hJ'⟩ := hstep op s r s' hP hJ head
    refine ih (fun p hp => ?_) hJ'
    obtain hp | hp := List.mem_append.mp hp
    · exact hguarded p (List.mem_append_left _ hp)
    · obtain rfl | hp := List.mem_cons.mp hp
      · exact hrest r hanswer
      · exact hguarded p (List.mem_append_right _ (List.mem_cons_of_mem _ hp))

end

/-- Given these answers, the program has become `p'`. -/
def Answered (p : Prog Op Resp α) (own : List (Event Op Resp)) (p' : Prog Op Resp α) : Prop :=
  Runs (fun _ (_ : Unit) _ _ => True) p () own p' ()

theorem Interleaves.owned (h : Interleaves step threads s trace threads' t) :
    ∃ own : Nat → List (Event Op Resp),
      (∀ i p, threads[i]? = some p → ∃ p', threads'[i]? = some p' ∧ Answered p (own i) p') ∧
      ∀ i j, i ≠ j → List.Subperm (own i ++ own j) trace := by
  induction h with
  | refl threads s =>
    exact ⟨fun _ => [], fun i p hp => ⟨p, hp, .refl _ _⟩, fun _ _ _ => List.Subperm.refl _⟩
  | @turn before after threads op k r s s' t trace head _ ih =>
    obtain ⟨own, hown, hapart⟩ := ih
    refine ⟨Function.update own before.length (⟨op, r⟩ :: own before.length),
      fun i p hp => ?_, fun i j hne => ?_⟩
    · by_cases hi : i = before.length
      · subst hi
        rw [List.getElem?_append_right (Nat.le_refl _), Nat.sub_self] at hp
        obtain rfl : Prog.call op k = p := Option.some.inj hp
        obtain ⟨p', hp', hrest⟩ := hown before.length (k r) (by simp)
        refine ⟨p', hp', ?_⟩
        rw [Function.update_self]
        exact .cons trivial hrest
      · rw [Function.update_of_ne hi]
        refine hown i p ?_
        rw [← hp]
        by_cases hlt : i < before.length
        · rw [List.getElem?_append_left hlt, List.getElem?_append_left hlt]
        · obtain ⟨m, hm⟩ : ∃ m, i - before.length = m + 1 := ⟨i - before.length - 1, by omega⟩
          rw [List.getElem?_append_right (by omega), List.getElem?_append_right (by omega), hm,
            List.getElem?_cons_succ, List.getElem?_cons_succ]
    · by_cases hi : i = before.length
      · subst hi
        rw [Function.update_self, Function.update_of_ne hne.symm, List.cons_append]
        exact (List.subperm_cons _).mpr (hapart _ j hne)
      · by_cases hj : j = before.length
        · subst hj
          rw [Function.update_self, Function.update_of_ne hi]
          have hmiddle : (own i ++ ⟨op, r⟩ :: own before.length).Perm
              (⟨op, r⟩ :: (own i ++ own before.length)) := List.perm_middle
          exact hmiddle.subperm.trans ((List.subperm_cons _).mpr (hapart i _ hne))
        · rw [Function.update_of_ne hi, Function.update_of_ne hj]
          exact (hapart i j hne).cons_right _

/-- The first program satisfies its precondition under `lead`; the others
satisfy theirs under `help`. -/
def Led (lead help : Discipline Op Resp σ) (Q : α → Nat → σ → Prop) (s : σ) :
    List (Prog Op Resp α) → Prop
  | [] => False
  | leader :: helpers => (∃ c, wp lead leader Q c s) ∧
      ∀ q ∈ helpers, ∃ c, wp help q (fun _ _ _ => True) c s

section

variable {lead help : Discipline Op Resp σ} {Q : α → Nat → σ → Prop}

theorem Led.returned {a : α} {helpers : List (Prog Op Resp α)} {s : σ}
    (h : Led lead help Q s (.ret a :: helpers)) : ∃ c, Q a c s := by
  obtain ⟨⟨c, hwp⟩, -⟩ := h
  exact ⟨c, hwp s (lead.rely_refl s)⟩

theorem Led.turn (hsame : help.step = lead.step)
    (hlead : ∀ op s r t, lead.allowed op s → lead.step op s r t → help.rely s t)
    (hhelp : ∀ op s r t, help.allowed op s → lead.step op s r t →
      lead.rely s t ∧ help.rely s t)
    {s t : σ} {before after : List (Prog Op Resp α)} {op : Op} {k : Resp op → Prog Op Resp α}
    {r : Resp op} (h : Led lead help Q s (before ++ .call op k :: after))
    (hstep : lead.step op s r t) : Led lead help Q t (before ++ k r :: after) := by
  cases before with
  | nil =>
    obtain ⟨⟨c, hleader⟩, hhelpers⟩ := h
    obtain ⟨hallowed, hnext⟩ := hleader s (lead.rely_refl s)
    refine ⟨⟨_, (hnext r t hstep).2⟩, fun q hq => ?_⟩
    obtain ⟨c, hwp⟩ := hhelpers q hq
    exact ⟨c, hwp.rely (hlead op s r t hallowed hstep)⟩
  | cons leader before =>
    obtain ⟨⟨c, hleader⟩, hhelpers⟩ := h
    obtain ⟨c', hcall⟩ := hhelpers (.call op k) (by simp)
    obtain ⟨hallowed, hnext⟩ := hcall s (help.rely_refl s)
    obtain ⟨hleads, hhelps⟩ := hhelp op s r t hallowed hstep
    refine ⟨⟨c, hleader.rely hleads⟩, fun q hq => ?_⟩
    rcases List.mem_append.mp hq with hq | hq
    · obtain ⟨c, hwp⟩ := hhelpers q (List.mem_append_left _ hq)
      exact ⟨c, hwp.rely hhelps⟩
    rcases List.mem_cons.mp hq with rfl | hq
    · rw [hsame] at hnext
      exact ⟨_, (hnext r t hstep).2⟩
    · obtain ⟨c, hwp⟩ := hhelpers q (List.mem_append_right _ (List.mem_cons_of_mem _ hq))
      exact ⟨c, hwp.rely hhelps⟩

/-- **One program among others.** The leader reaches what it was to reach in every interleaving. -/
theorem Led.interleaves {threads threads' : List (Prog Op Resp α)} {s t : σ}
    {trace : List (Event Op Resp)} (h : Led lead help Q s threads) (hsame : help.step = lead.step)
    (hlead : ∀ op s r t, lead.allowed op s → lead.step op s r t → help.rely s t)
    (hhelp : ∀ op s r t, help.allowed op s → lead.step op s r t →
      lead.rely s t ∧ help.rely s t)
    (hrun : Interleaves lead.step threads s trace threads' t) : Led lead help Q t threads' := by
  induction hrun with
  | refl => exact h
  | turn head _ ih => exact ih (h.turn hsame hlead hhelp head)

/-- The next section of any of the programs is allowed where it stands. -/
theorem Led.allowed {s : σ} {before after : List (Prog Op Resp α)} {op : Op}
    {k : Resp op → Prog Op Resp α} (h : Led lead help Q s (before ++ .call op k :: after)) :
    lead.allowed op s ∨ help.allowed op s := by
  cases before with
  | nil =>
    obtain ⟨⟨c, hleader⟩, -⟩ := h
    exact .inl (hleader s (lead.rely_refl s)).1
  | cons leader before =>
    obtain ⟨c, hcall⟩ := h.2 (.call op k) (by simp)
    exact .inr (hcall s (help.rely_refl s)).1

end

def schedule (h : (op : Op) → σ → Option (Resp op × σ)) :
    List Nat → List (Prog Op Resp α) → σ → Option (List (Prog Op Resp α) × σ)
  | [], threads, s => some (threads, s)
  | i :: rest, threads, s =>
    match threads[i]? with
    | some (.call op k) =>
      match h op s with
      | some (r, s') => schedule h rest (threads.set i (k r)) s'
      | none => none
    | _ => none

def scheduleTrace (h : (op : Op) → σ → Option (Resp op × σ)) :
    List Nat → List (Prog Op Resp α) → σ →
      Option (List (Event Op Resp) × List (Prog Op Resp α) × σ)
  | [], threads, s => some ([], threads, s)
  | i :: rest, threads, s =>
    match threads[i]? with
    | some (.call op k) =>
      match h op s with
      | some (r, s') =>
        (scheduleTrace h rest (threads.set i (k r)) s').map fun (trace, final) =>
          (⟨op, r⟩ :: trace, final)
      | none => none
    | _ => none

variable {h : (op : Op) → σ → Option (Resp op × σ)} {turns : List Nat}

theorem scheduleTrace_interleaves (hstep : ∀ op s r s', h op s = some (r, s') → step op s r s')
    (hrun : scheduleTrace h turns threads s = some (trace, threads', t)) :
    Interleaves step threads s trace threads' t := by
  induction turns generalizing threads s trace with
  | nil =>
    cases hrun
    exact .refl _ _
  | cons i rest ih =>
    simp only [scheduleTrace] at hrun
    split at hrun
    · next op k hget =>
      split at hrun
      · next r s' hanswer =>
        obtain ⟨hi, hthread⟩ := List.getElem?_eq_some_iff.mp hget
        obtain ⟨⟨tail, final⟩, hrest, hfinal⟩ := Option.map_eq_some_iff.mp hrun
        cases hfinal
        have htail := ih hrest
        rw [List.set_eq_take_append_cons_drop, if_pos hi] at htail
        have hsplit : threads = threads.take i ++ .call op k :: threads.drop (i + 1) := by
          rw [← hthread, List.getElem_cons_drop, List.take_append_drop]
        rw [hsplit]
        exact .turn (hstep op s r s' hanswer) htail
      · cases hrun
    · cases hrun

theorem exists_scheduleTrace (hrun : schedule h turns threads s = some (threads', t)) :
    ∃ trace, scheduleTrace h turns threads s = some (trace, threads', t) := by
  induction turns generalizing threads s with
  | nil =>
    cases hrun
    exact ⟨[], rfl⟩
  | cons i rest ih =>
    simp only [schedule] at hrun
    split at hrun
    · next op k hget =>
      split at hrun
      · next r s' hanswer =>
        obtain ⟨trace, htrace⟩ := ih hrun
        refine ⟨⟨op, r⟩ :: trace, ?_⟩
        simp only [scheduleTrace, hget, hanswer, htrace, Option.map_some]
      · cases hrun
    · cases hrun

theorem schedule_interleaves (hstep : ∀ op s r s', h op s = some (r, s') → step op s r s')
    (hrun : schedule h turns threads s = some (threads', t)) :
    ∃ trace, Interleaves step threads s trace threads' t := by
  obtain ⟨trace, htrace⟩ := exists_scheduleTrace hrun
  exact ⟨trace, scheduleTrace_interleaves hstep htrace⟩

variable {startable : Prog Op Resp α → Prop}

theorem Interleaves.poolRun (h : Interleaves step threads s trace threads' t) :
    PoolRun step startable ⟨threads, s⟩ trace ⟨threads', t⟩ := by
  induction h with
  | refl => exact .refl
  | turn head _ ih => exact PoolRun.trans (PoolRun.refl.tail (.turn head)) ih

theorem PoolRun.startAll (s : σ)
    (h : ∀ p ∈ threads, startable p) : PoolRun step startable ⟨[], s⟩ [] ⟨threads, s⟩ := by
  induction threads with
  | nil => exact .refl
  | cons p rest ih =>
    have hrest := ih fun q hq => h q (List.mem_cons_of_mem _ hq)
    exact hrest.tail (.start (h p List.mem_cons_self))

def allReturned (threads : List (Prog Op Resp α)) : Bool :=
  threads.all fun p => p.value?.isSome

theorem exists_ret_of_allReturned (h : allReturned threads = true) :
    ∀ p ∈ threads, ∃ a, p = .ret a := by
  intro p hp
  have hvalue := List.all_eq_true.mp h p hp
  cases p with
  | ret a => exact ⟨a, rfl⟩
  | call op k => simp [Prog.value?] at hvalue

end Atomic
