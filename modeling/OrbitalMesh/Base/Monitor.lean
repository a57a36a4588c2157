import OrbitalMesh.Base.Interleaving

/-!
# Monitors

A monitor watches the sections of a run and says which section may come next, from
what it remembers of the answers so far.  A program obeys a monitor when every
section it issues is admitted, whatever the answers are; a section is silent when it
is always admitted and leaves no mark on the memory.

One program that obeys the monitor, among any number of programs with silent
sections only, produces traces that it accepts (`Interleaves.accepted`).
-/

namespace Atomic

variable {Op : Type} {Resp : Op → Type} {σ α β ε μ : Type}

/-- Every value the program can return satisfies `Q`, whatever the answers are. -/
def Prog.Yields (Q : α → Prop) : Prog Op Resp α → Prop
  | .ret a => Q a
  | .call _ k => ∀ r, Yields Q (k r)

theorem Prog.yields_bind {p : Prog Op Resp α} {f : α → Prog Op Resp β} {P : α → Prop}
    {Q : β → Prop} (hp : p.Yields P) (hf : ∀ a, P a → (f a).Yields Q) : (p.bind f).Yields Q := by
  induction p with
  | ret a => exact hf a hp
  | call op k ih => exact fun r => ih r (hp r)

theorem Prog.yields_any (p : Prog Op Resp α) : p.Yields fun _ => True := by
  induction p with
  | ret a => trivial
  | call op k ih => exact ih

/-- What may come next, and what is remembered. -/
structure Monitor (Op : Type) (Resp : Op → Type) (μ : Type) where
  admits : μ → Op → Prop
  next : μ → (op : Op) → Resp op → μ

namespace Monitor

/-- Every section of the trace is admitted where it stands. -/
def Accepts (M : Monitor Op Resp μ) : μ → List (Event Op Resp) → Prop
  | _, [] => True
  | m, e :: rest => M.admits m e.op ∧ Accepts M (M.next m e.op e.resp) rest

variable (M : Monitor Op Resp μ)

def after (m : μ) (trace : List (Event Op Resp)) : μ :=
  trace.foldl (fun m e => M.next m e.op e.resp) m

theorem after_concat (m : μ) (trace : List (Event Op Resp))
    (e : Event Op Resp) : M.after m (trace ++ [e]) = M.next (M.after m trace) e.op e.resp := by
  simp [after]

theorem Accepts.admits {M : Monitor Op Resp μ} {m : μ} {before rest : List (Event Op Resp)}
    {e : Event Op Resp} (h : M.Accepts m (before ++ e :: rest)) :
    M.admits (M.after m before) e.op := by
  induction before generalizing m with
  | nil => exact h.1
  | cons first before ih => exact ih h.2

/-- The section is always admitted and leaves no mark. -/
def Silent (op : Op) : Prop :=
  ∀ m, M.admits m op ∧ ∀ r, M.next m op r = m

/-- From memory `m`, every section of the program is admitted, and `Q` holds at its end. -/
def Obeys (M : Monitor Op Resp μ) : Prog Op Resp α → (α → μ → Prop) → μ → Prop
  | .ret a, Q, m => Q a m
  | .call op k, Q, m => M.admits m op ∧ ∀ r, Obeys M (k r) Q (M.next m op r)

section

variable {M : Monitor Op Resp μ} {m : μ} {p : Prog Op Resp α}

theorem Obeys.mono {Q Q' : α → μ → Prop} (h : M.Obeys p Q m) (hQ : ∀ a m, Q a m → Q' a m) :
    M.Obeys p Q' m := by
  induction p generalizing m with
  | ret a => exact hQ a m h
  | call op k ih => exact ⟨h.1, fun r => ih r (h.2 r)⟩

theorem obeys_bind {f : α → Prog Op Resp β} {Q : β → μ → Prop}
    (h : M.Obeys p (fun a m => M.Obeys (f a) Q m) m) : M.Obeys (p.bind f) Q m := by
  induction p generalizing m with
  | ret a => exact h
  | call op k ih => exact ⟨h.1, fun r => ih r (h.2 r)⟩

/-- A program with silent sections only leaves no mark, whatever it returns. -/
theorem obeys_of_silent {Q : α → Prop} (h : p.Uses M.Silent) (hQ : p.Yields Q) :
    M.Obeys p (fun a m' => Q a ∧ m' = m) m := by
  induction p with
  | ret a => exact ⟨hQ, rfl⟩
  | call op k ih =>
    obtain ⟨hadmits, hnext⟩ := h.1 m
    refine ⟨hadmits, fun r => ?_⟩
    rw [hnext r]
    exact ih r (h.2 r) (hQ r)

end

/-- One of the programs obeys the monitor from `m`; the others are silent. -/
inductive Watched (M : Monitor Op Resp μ) (m : μ) : List (Prog Op Resp α) → Prop
  | here {p : Prog Op Resp α} {rest : List (Prog Op Resp α)}
      (head : M.Obeys p (fun _ _ => True) m) (tail : ∀ q ∈ rest, q.Uses M.Silent) :
      Watched M m (p :: rest)
  | there {q : Prog Op Resp α} {rest : List (Prog Op Resp α)}
      (head : q.Uses M.Silent) (tail : Watched M m rest) : Watched M m (q :: rest)

theorem Watched.turn {M : Monitor Op Resp μ} {m : μ} {before after : List (Prog Op Resp α)}
    {op : Op} {k : Resp op → Prog Op Resp α} (h : Watched M m (before ++ .call op k :: after)) :
    M.admits m op ∧ ∀ r, Watched M (M.next m op r) (before ++ k r :: after) := by
  induction before with
  | nil =>
    cases h with
    | here head tail => exact ⟨head.1, fun r => .here (head.2 r) tail⟩
    | there head tail =>
      obtain ⟨hadmits, hnext⟩ := head.1 m
      refine ⟨hadmits, fun r => ?_⟩
      rw [hnext r]
      exact .there (head.2 r) tail
  | cons first before ih =>
    cases h with
    | here head tail =>
      have hcall : (Prog.call op k).Uses M.Silent := tail _ (by simp)
      obtain ⟨hadmits, hnext⟩ := hcall.1 m
      refine ⟨hadmits, fun r => ?_⟩
      rw [hnext r]
      refine .here head fun q hq => ?_
      rcases List.mem_append.mp hq with hq | hq
      · exact tail q (List.mem_append_left _ hq)
      · rcases List.mem_cons.mp hq with rfl | hq
        · exact hcall.2 r
        · exact tail q (List.mem_append_right _ (List.mem_cons_of_mem _ hq))
    | there head tail =>
      obtain ⟨hadmits, hrest⟩ := ih tail
      exact ⟨hadmits, fun r => .there head (hrest r)⟩

end Monitor

/-- **Monitored interleavings.**  Where one program obeys a monitor and all
others are silent, every trace is accepted. -/
theorem Interleaves.accepted {M : Monitor Op Resp μ} {m : μ}
    {step : (op : Op) → σ → Resp op → σ → Prop} {threads threads' : List (Prog Op Resp α)}
    {s t : σ} {trace : List (Event Op Resp)} (h : Interleaves step threads s trace threads' t)
    (hwatched : M.Watched m threads) : M.Accepts m trace := by
  induction h generalizing m with
  | refl => trivial
  | turn _ _ ih =>
    obtain ⟨hadmits, hrest⟩ := hwatched.turn
    exact ⟨hadmits, ih (hrest _)⟩

namespace Raising

/-- Every value that the program can return satisfies `Q`; it may also raise. -/
def Gives (Q : α → Prop) (x : Raising Op Resp ε α) : Prop :=
  Prog.Yields (fun | .ok a => Q a | .error _ => True) x

@[simp] theorem gives_pure {Q : α → Prop} {a : α} :
    Gives Q (pure a : Raising Op Resp ε α) ↔ Q a := Iff.rfl

theorem gives_any (x : Raising Op Resp ε α) : Gives (fun _ => True) x := by
  have hsame : (fun | .ok _ => True | .error _ => True : Except ε α → Prop) = fun _ => True := by
    funext r
    cases r <;> rfl
  rw [Gives, hsame]
  exact Prog.yields_any x

variable {x : Raising Op Resp ε α} {f : α → Raising Op Resp ε β} {err : ε → μ → Prop}
  {P : α → Prop} {Q : β → Prop} {ok : β → μ → Prop}

theorem gives_andThen (hx : Gives P x) (hf : ∀ a, P a → Gives Q (f a)) :
    Gives Q (x >>= f : Raising Op Resp ε β) := by
  refine Prog.yields_bind hx ?_
  rintro (e | a) ha
  · trivial
  · exact hf a ha

/-- A sequence, where the value of its first part does not matter. -/
theorem gives_then (hf : ∀ a, Gives Q (f a)) : Gives Q (x >>= f : Raising Op Resp ε β) :=
  gives_andThen (gives_any x) fun a _ => hf a

variable {M : Monitor Op Resp μ} {m : μ}

theorem obeys_andThen (h : M.Obeys x (ends (fun a m => M.Obeys (f a) (ends ok err) m) err) m) :
    M.Obeys (x >>= f : Raising Op Resp ε β) (ends ok err) m := by
  refine Monitor.obeys_bind (h.mono ?_)
  rintro (e | a) m' hm'
  · exact hm'
  · exact hm'

theorem obeys_silent_then (hx : Prog.Uses M.Silent x) (hP : Gives P x) (herr : ∀ e, err e m)
    (hf : ∀ a, P a → M.Obeys (f a) (ends ok err) m) :
    M.Obeys (x >>= f : Raising Op Resp ε β) (ends ok err) m := by
  refine obeys_andThen ((Monitor.obeys_of_silent hx hP).mono ?_)
  rintro (e | a) m' ⟨ha, rfl⟩
  · exact herr e
  · exact hf a ha

theorem obeys_tryCatch {handler : ε → Raising Op Resp ε α} {ok : α → μ → Prop}
    (h : M.Obeys x (ends ok fun e m => M.Obeys (handler e) (ends ok err) m) m) :
    M.Obeys (tryCatch x handler : Raising Op Resp ε α) (ends ok err) m := by
  show M.Obeys (Prog.bind x _) (ends ok err) m
  refine Monitor.obeys_bind (h.mono ?_)
  rintro (e | a) m' hm'
  · exact hm'
  · exact hm'

theorem obeys_mono {ok ok' : α → μ → Prop} {err' : ε → μ → Prop} (h : M.Obeys x (ends ok err) m)
    (hok : ∀ a m, ok a m → ok' a m) (herr : ∀ e m, err e m → err' e m) :
    M.Obeys x (ends ok' err') m := by
  refine h.mono ?_
  rintro (e | a) m' hm'
  · exact herr e m' hm'
  · exact hok a m' hm'

end Raising

end Atomic
