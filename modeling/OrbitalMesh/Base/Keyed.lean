import Mathlib.Logic.Function.Basic
import Mathlib.Data.List.Basic

/-!
# Cells under keys

A family of cells, one for each key, and events that each change the cell of
their own key and give an answer that depends on it.  The cell of a key, and the
answers to its events, are then those of a single cell that sees these events
alone.
-/

namespace OrbitalMesh.Keyed

variable {κ σ ε ω : Type*}

def answers (change : σ → ε → σ) (answer : σ → ε → ω) (cell : σ) : List ε → List ω
  | [] => []
  | event :: events => answer cell event :: answers change answer (change cell event) events

variable {change : σ → ε → σ}

theorem answers_append {answer : σ → ε → ω} (cell : σ) (left right : List ε) :
    answers change answer cell (left ++ right) =
      answers change answer cell left ++ answers change answer (left.foldl change cell) right := by
  induction left generalizing cell with
  | nil => rfl
  | cons event left ih => exact congrArg (List.cons _) (ih _)

variable [DecidableEq κ]

def cellsAfter (change : σ → ε → σ) (key : ε → κ) (cells : κ → σ) (event : ε) : κ → σ :=
  Function.update cells (key event) (change (cells (key event)) event)

def play (change : σ → ε → σ) (key : ε → κ) (cells : κ → σ) (events : List ε) : κ → σ :=
  events.foldl (cellsAfter change key) cells

variable {key : ε → κ}

theorem play_append (cells : κ → σ) (left right : List ε) :
    play change key cells (left ++ right) =
      play change key (play change key cells left) right :=
  List.foldl_append

/-- **A cell is the fold over its own events.** -/
theorem play_apply (cells : κ → σ) (events : List ε) (k : κ) :
    play change key cells events k =
      (events.filter fun event => key event = k).foldl change (cells k) := by
  induction events generalizing cells with
  | nil => rfl
  | cons event events ih =>
    rw [play, List.foldl_cons, ← play, ih]
    by_cases h : key event = k
    · rw [List.filter_cons_of_pos (by simpa using h), List.foldl_cons, cellsAfter, ← h,
        Function.update_self]
    · rw [List.filter_cons_of_neg (by simpa using h), cellsAfter,
        Function.update_of_ne (Ne.symm h)]

end OrbitalMesh.Keyed
