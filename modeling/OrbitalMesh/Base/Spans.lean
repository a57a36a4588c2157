import Mathlib.Data.List.Basic
import Mathlib.Order.Lattice

/-!
# How long a condition has held

A series of timed samples is walked from its latest sample back, as long as each sample meets a
condition; the span is the time between the last one reached and the latest.  Where the series
is in the order of its times, that is the length of the longest stretch of time up to the
latest sample in which every sample meets the condition: a notion in which no order occurs.
-/

namespace Spans

variable {β : Type}

def earliest (p : β → Bool) (time : Int) : List (Int × β) → Int
  | [] => time
  | sample :: rest => if p sample.2 then earliest p sample.1 rest else time

variable (p : β → Bool)

def span : List (Int × β) → Int
  | [] => 0
  | latest :: rest => if p latest.2 then latest.1 - earliest p latest.1 rest else 0

variable (samples : List (Int × β))

def LatestFirst : Prop := samples.Pairwise fun a b => b.1 < a.1

def HoldsSince (time : Int) : Prop :=
  ∀ sample ∈ samples, time ≤ sample.1 → p sample.2 = true

structure HeldFirst (first : Int × β) : Prop where
  mem : first ∈ samples
  holds : HoldsSince p samples first.1
  least : ∀ other ∈ samples, HoldsSince p samples other.1 → first.1 ≤ other.1

/-- The length of the longest stretch up to the latest sample in which the condition has held;
it is zero where the condition does not hold. -/
inductive LongestSpan (p : β → Bool) (samples : List (Int × β)) : Int → Prop
  | held {first last : Int × β} (hfirst : HeldFirst p samples first) (hlast : last ∈ samples)
      (hlatest : ∀ sample ∈ samples, sample.1 ≤ last.1) :
      LongestSpan p samples (last.1 - first.1)
  | never (hnever : ∀ sample ∈ samples, ¬ HoldsSince p samples sample.1) :
      LongestSpan p samples 0

section

variable {p q : β → Bool} {latest : Int × β} {rest samples : List (Int × β)}

section

variable (h : LatestFirst (latest :: rest))

include h

theorem LatestFirst.tail : LatestFirst rest :=
  (List.pairwise_cons.mp h).2

variable {sample : Int × β}

theorem LatestFirst.lt (hmem : sample ∈ rest) : sample.1 < latest.1 :=
  (List.pairwise_cons.mp h).1 sample hmem

theorem LatestFirst.le (hmem : sample ∈ latest :: rest) : sample.1 ≤ latest.1 := by
  obtain rfl | hrest := List.mem_cons.mp hmem
  · exact Int.le_refl _
  · exact Int.le_of_lt (h.lt hrest)

theorem earliest_le : earliest p latest.1 rest ≤ latest.1 := by
  induction rest generalizing latest with
  | nil => exact Int.le_refl _
  | cons sample rest ih =>
    rw [earliest]
    split
    · have hle := ih h.tail
      have hlt := h.lt List.mem_cons_self
      omega
    · exact Int.le_refl _

theorem heldFirst_earliest (hlatest : p latest.2 = true) :
    ∃ first, HeldFirst p (latest :: rest) first ∧ earliest p latest.1 rest = first.1 := by
  induction rest generalizing latest with
  | nil =>
    refine ⟨latest, ⟨List.mem_cons_self, ?_, ?_⟩, rfl⟩
    · intro sample hmem _
      rwa [List.mem_singleton.mp hmem]
    · intro other hmem _
      rw [List.mem_singleton.mp hmem]
  | cons sample rest ih =>
    rw [earliest]
    have hlt := h.lt (List.mem_cons_self (a := sample) (l := rest))
    by_cases hsample : p sample.2 = true
    · obtain ⟨first, hfirst, heq⟩ := ih h.tail hsample
      rw [if_pos hsample, heq]
      have hle := h.tail.le hfirst.mem
      refine ⟨first, ⟨List.mem_cons_of_mem _ hfirst.mem, ?_, ?_⟩, rfl⟩
      · intro other hmem hsince
        obtain rfl | hrest := List.mem_cons.mp hmem
        · exact hlatest
        · exact hfirst.holds other hrest hsince
      · intro other hmem hholds
        obtain rfl | hrest := List.mem_cons.mp hmem
        · omega
        · apply hfirst.least other hrest
          intro third hthird
          exact hholds third (List.mem_cons_of_mem _ hthird)
    · rw [if_neg hsample]
      refine ⟨latest, ⟨List.mem_cons_self, ?_, ?_⟩, rfl⟩
      · intro other hmem hsince
        obtain rfl | hrest := List.mem_cons.mp hmem
        · exact hlatest
        · have := h.lt hrest
          omega
      · intro other hmem hholds
        obtain rfl | hrest := List.mem_cons.mp hmem
        · exact Int.le_refl _
        · have hmeets := hholds sample (List.mem_cons_of_mem _ List.mem_cons_self)
            (h.tail.le hrest)
          exact absurd hmeets hsample

end

/-- **What the span is.**  Over a series in the order of its times it is the length of the
longest stretch in which the condition has held. -/
theorem span_longest (h : LatestFirst samples) : LongestSpan p samples (span p samples) := by
  cases samples with
  | nil =>
    apply LongestSpan.never
    intro sample hmem
    cases hmem
  | cons latest rest =>
    rw [span]
    split
    · next hlatest =>
      obtain ⟨first, hfirst, heq⟩ := heldFirst_earliest h hlatest
      rw [heq]
      exact .held hfirst List.mem_cons_self fun sample hmem => h.le hmem
    · next hlatest =>
      apply LongestSpan.never
      intro sample hmem hholds
      exact hlatest (hholds latest List.mem_cons_self (h.le hmem))

theorem span_nonneg (h : LatestFirst samples) : 0 ≤ span p samples := by
  cases samples with
  | nil => exact Int.le_refl _
  | cons latest rest =>
    rw [span]
    split
    · have := earliest_le (p := p) h
      omega
    · exact Int.le_refl _

/-- A weaker condition takes the walk further back. -/
theorem earliest_anti (h : LatestFirst (latest :: rest)) (hpq : ∀ b, p b = true → q b = true) :
    earliest q latest.1 rest ≤ earliest p latest.1 rest := by
  induction rest generalizing latest with
  | nil => exact Int.le_refl _
  | cons sample rest ih =>
    rw [earliest, earliest]
    by_cases hp : p sample.2 = true
    · rw [if_pos hp, if_pos (hpq _ hp)]
      exact ih h.tail
    · rw [if_neg hp]
      split
      · have hle := earliest_le (p := q) h.tail
        have hlt := h.lt List.mem_cons_self
        omega
      · exact Int.le_refl _

theorem span_mono (h : LatestFirst samples) (hpq : ∀ b, p b = true → q b = true) :
    span p samples ≤ span q samples := by
  by_cases hlatest : ∃ latest rest, samples = latest :: rest ∧ p latest.2 = true
  · obtain ⟨latest, rest, rfl, hp⟩ := hlatest
    rw [span, span, if_pos hp, if_pos (hpq _ hp)]
    have := earliest_anti h hpq
    omega
  · have hzero : span p samples = 0 := by
      cases samples with
      | nil => rfl
      | cons latest rest =>
        rw [span, if_neg fun hp => hlatest ⟨latest, rest, rfl, hp⟩]
    rw [hzero]
    exact span_nonneg h

def RunFits (p : β → Bool) (bound : Int) : List (Int × β) → Prop
  | [] => True
  | latest :: rest =>
    ∀ sample ∈ (latest :: rest).takeWhile (fun sample => p sample.2),
      latest.1 - sample.1 ≤ bound

theorem earliest_mem_takeWhile (p : β → Bool) (latest : Int × β) (rest : List (Int × β)) :
    earliest p latest.1 rest = latest.1 ∨
      ∃ sample ∈ rest.takeWhile (fun sample => p sample.2),
        earliest p latest.1 rest = sample.1 := by
  induction rest generalizing latest with
  | nil => exact .inl rfl
  | cons sample rest ih =>
    rw [earliest, List.takeWhile_cons]
    by_cases hp : p sample.2 = true
    · rw [if_pos hp, if_pos hp]
      refine .inr ?_
      obtain heq | ⟨other, hmem, heq⟩ := ih sample
      · exact ⟨sample, List.mem_cons_self, heq⟩
      · exact ⟨other, List.mem_cons_of_mem _ hmem, heq⟩
    · rw [if_neg hp]
      exact .inl rfl

theorem earliest_le_of_mem_takeWhile (h : LatestFirst (latest :: rest)) {sample : Int × β}
    (hmem : sample ∈ rest.takeWhile fun sample => p sample.2) :
    earliest p latest.1 rest ≤ sample.1 := by
  induction rest generalizing latest with
  | nil => cases hmem
  | cons next rest ih =>
    rw [List.takeWhile_cons] at hmem
    rw [earliest]
    by_cases hp : p next.2 = true
    · rw [if_pos hp] at hmem
      rw [if_pos hp]
      obtain rfl | hrest := List.mem_cons.mp hmem
      · exact earliest_le h.tail
      · exact ih h.tail hrest
    · rw [if_neg hp] at hmem
      cases hmem

theorem span_le_iff {bound : Int} (h : LatestFirst samples) (hbound : 0 ≤ bound) :
    span p samples ≤ bound ↔ RunFits p bound samples := by
  cases samples with
  | nil => exact ⟨fun _ => trivial, fun _ => hbound⟩
  | cons latest rest =>
    simp only [span, RunFits, List.takeWhile_cons]
    by_cases hp : p latest.2 = true
    · rw [if_pos hp, if_pos hp]
      constructor
      · intro hspan sample hmem
        obtain rfl | hrest := List.mem_cons.mp hmem
        · omega
        · have := earliest_le_of_mem_takeWhile h hrest
          omega
      · intro hfits
        obtain heq | ⟨sample, hmem, heq⟩ := earliest_mem_takeWhile p latest rest
        · omega
        · have := hfits sample (List.mem_cons_of_mem _ hmem)
          omega
    · rw [if_neg hp, if_neg hp]
      exact ⟨fun _ _ hmem => absurd hmem List.not_mem_nil, fun _ => hbound⟩

theorem earliest_congr {time : Int} (h : ∀ sample ∈ rest, p sample.2 = q sample.2) :
    earliest p time rest = earliest q time rest := by
  induction rest generalizing time with
  | nil => rfl
  | cons sample rest ih =>
    rw [earliest, earliest, h sample List.mem_cons_self]
    split
    · exact ih fun other hother => h other (List.mem_cons_of_mem _ hother)
    · rfl

theorem span_congr (h : ∀ sample ∈ samples, p sample.2 = q sample.2) :
    span p samples = span q samples := by
  cases samples with
  | nil => rfl
  | cons latest rest =>
    rw [span, span, h latest List.mem_cons_self,
      earliest_congr fun other hother => h other (List.mem_cons_of_mem _ hother)]

theorem LongestSpan.of_mem_iff {others : List (Int × β)} {d : Int}
    (h : LongestSpan p samples d) (hmem : ∀ sample, sample ∈ samples ↔ sample ∈ others) :
    LongestSpan p others d := by
  have hholds : ∀ time, HoldsSince p samples time ↔ HoldsSince p others time := by
    intro time
    simp only [HoldsSince, hmem]
  cases h with
  | held hfirst hlast hlatest =>
    refine .held ⟨(hmem _).mp hfirst.mem, (hholds _).mp hfirst.holds, ?_⟩ ((hmem _).mp hlast) ?_
    · intro other hother hsince
      exact hfirst.least other ((hmem _).mpr hother) ((hholds _).mpr hsince)
    · intro sample hsample
      exact hlatest sample ((hmem _).mpr hsample)
  | never hnever =>
    apply LongestSpan.never
    intro sample hsample hsince
    exact hnever sample ((hmem _).mpr hsample) ((hholds _).mpr hsince)

end

end Spans
