import Mathlib.Algebra.Order.Ring.Rat
import Mathlib.Data.Rat.Floor
import Mathlib.Tactic.FieldSimp
import Mathlib.Tactic.NormNum
import Mathlib.Tactic.Positivity

/-!
# Doubles

Floating-point numbers with 53 binary digits, as the rationals they stand for.
Every operation computes the exact result and rounds it once, to the nearest
double and to the even one of two.  The two zeros are one.
-/

inductive Binary64 where
  | finite (value : ℚ)
  | infinite (neg : Bool)
  | nan
deriving DecidableEq

namespace Binary64

/-- The integer nearest to `x`, the even one of two. -/
def nearestInt (x : ℚ) : Int :=
  let below := x.floor
  let rest := x - below
  if rest < 1 / 2 then below
  else if 1 / 2 < rest then below + 1
  else if below % 2 = 0 then below
  else below + 1

/-- `x` without its sign. -/
def magnitude (x : ℚ) : ℚ := if x < 0 then -x else x

/-- `2 ^ e`. -/
def powerOfTwo (e : Int) : ℚ :=
  if 0 ≤ e then ((2 ^ e.toNat : Nat) : ℚ) else 1 / ((2 ^ (-e).toNat : Nat) : ℚ)

/-- The place of the last of the 53 digits of `x`. -/
def lastPlace (x : ℚ) : Int :=
  let guess : Int := (Nat.log2 x.num.natAbs : Int) - Nat.log2 x.den
  let first := if powerOfTwo guess ≤ magnitude x then guess else guess - 1
  max (first - 52) (-1074)

/-- The double nearest to `x`. -/
def nearest (x : ℚ) : Binary64 :=
  let unit := powerOfTwo (lastPlace x)
  let value := nearestInt (x / unit) * unit
  if powerOfTwo 1024 ≤ magnitude value then .infinite (decide (x < 0)) else .finite value

/-- Decimal literals are read as the nearest double. -/
instance : OfScientific Binary64 where
  ofScientific mantissa sign exponent :=
    nearest (if sign then (mantissa : ℚ) / ((10 ^ exponent : Nat) : ℚ)
      else ((mantissa * 10 ^ exponent : Nat) : ℚ))

/-- `x + y`. -/
def add : Binary64 → Binary64 → Binary64
  | .finite x, .finite y => nearest (x + y)
  | .infinite s, .infinite t => if s = t then .infinite s else .nan
  | .infinite s, .finite _ | .finite _, .infinite s => .infinite s
  | .nan, _ | _, .nan => .nan

/-- `-x`. -/
def neg : Binary64 → Binary64
  | .finite x => .finite (-x)
  | .infinite s => .infinite (!s)
  | .nan => .nan

/-- `x - y`. -/
def sub (x y : Binary64) : Binary64 := x.add y.neg

/-- `x * y`. -/
def mul : Binary64 → Binary64 → Binary64
  | .finite x, .finite y => nearest (x * y)
  | .infinite s, .infinite t => .infinite (s != t)
  | .infinite s, .finite x | .finite x, .infinite s =>
    if x = 0 then .nan else .infinite (s != decide (x < 0))
  | .nan, _ | _, .nan => .nan

/-- `x / y`, where `y` is not zero. -/
def div : Binary64 → Binary64 → Binary64
  | .finite x, .finite y => nearest (x / y)
  | .infinite s, .finite y => .infinite (s != decide (y < 0))
  | .finite _, .infinite _ => .finite 0
  | .infinite _, .infinite _ => .nan
  | .nan, _ | _, .nan => .nan

/-- `x < y`. -/
def lt : Binary64 → Binary64 → Bool
  | .finite x, .finite y => decide (x < y)
  | .infinite s, .finite _ => s
  | .finite _, .infinite s => !s
  | .infinite s, .infinite t => s && !t
  | .nan, _ | _, .nan => false

/-- `x <= y`. -/
def le : Binary64 → Binary64 → Bool
  | .finite x, .finite y => decide (x ≤ y)
  | .infinite s, .finite _ => s
  | .finite _, .infinite s => !s
  | .infinite s, .infinite t => s || !t
  | .nan, _ | _, .nan => false

/-- `min(x, y)`: the second only where it is smaller. -/
def least (x y : Binary64) : Binary64 := if y.lt x then y else x

/-- `max(x, y)`: the second only where it is greater. -/
def greatest (x y : Binary64) : Binary64 := if x.lt y then y else x

/-- `round(x, digits)`. -/
def roundTo (digits : Nat) : Binary64 → Binary64
  | .finite x =>
    let scale : ℚ := ((10 ^ digits : Nat) : ℚ)
    nearest (nearestInt (x * scale) / scale)
  | x => x

example : add 0.1 0.2 ≠ 0.3 := by decide +kernel

example : roundTo 2 0.015 = 0.01 ∧ roundTo 2 (mul 0.1 0.1) = 0.01 := by decide +kernel

theorem floor_le_nearestInt (x : ℚ) : x.floor ≤ nearestInt x := by
  unfold nearestInt
  simp only
  split
  · exact le_rfl
  · split
    · omega
    · split <;> omega

theorem nearestInt_intCast (n : Int) : nearestInt (n : ℚ) = n := by
  unfold nearestInt
  simp [Rat.floor_intCast]

theorem lastPlace_natCast {n : Nat} (h : 0 < n) : lastPlace (n : ℚ) = (Nat.log2 n : Int) - 52 := by
  have hpower : powerOfTwo (Nat.log2 n : Int) ≤ magnitude (n : ℚ) := by
    have hself : 2 ^ Nat.log2 n ≤ n := Nat.log2_self_le h.ne'
    simp only [powerOfTwo, magnitude]
    rw [if_pos (by positivity), if_neg (by simp)]
    exact_mod_cast hself
  unfold lastPlace
  have hone : Nat.log2 1 = 0 := by decide
  simp only [Rat.num_natCast, Int.natAbs_natCast, Rat.den_natCast, hone, Nat.cast_zero, sub_zero,
    if_pos hpower]
  omega

theorem le_of_nearest_natCast {m n : Nat} {x : ℚ} (hm : m ≤ n) (hsmall : m ≤ 2 ^ 52) (hn : 0 < n)
    (h : nearest (n : ℚ) = .finite x) : (m : ℚ) ≤ x := by
  unfold nearest at h
  simp only at h
  split at h
  · cases h
  · cases h
    rw [lastPlace_natCast hn]
    by_cases hlog : Nat.log2 n ≤ 52
    · -- the number has at most 53 digits
      obtain ⟨k, hk⟩ : ∃ k : Nat, (Nat.log2 n : Int) - 52 = -(k : Int) :=
        ⟨52 - Nat.log2 n, by omega⟩
      have hunit : powerOfTwo ((Nat.log2 n : Int) - 52) = 1 / (2 ^ k : ℚ) := by
        rw [hk, powerOfTwo]
        split
        · next hle =>
          have hzero : k = 0 := by omega
          subst hzero
          simp
        · simp
      have hdiv : (n : ℚ) / (1 / 2 ^ k) = ((n * 2 ^ k : Nat) : Int) := by
        push_cast
        field_simp
      rw [hunit, hdiv, nearestInt_intCast]
      have hvalue : (((n * 2 ^ k : Nat) : Int) : ℚ) * (1 / 2 ^ k) = n := by
        push_cast
        field_simp
      rw [hvalue]
      exact_mod_cast hm
    · -- what is lost stands behind the first 53 digits
      obtain ⟨k, hk⟩ : ∃ k : Nat, Nat.log2 n = 52 + k := ⟨Nat.log2 n - 52, by omega⟩
      have hunit : powerOfTwo ((Nat.log2 n : Int) - 52) = (2 ^ k : ℚ) := by
        rw [hk, powerOfTwo, if_pos (by omega)]
        have hnat : ((52 + k : Nat) : Int) - 52 = (k : Int) := by omega
        simp
      have hself : 2 ^ (52 + k) ≤ n := hk ▸ Nat.log2_self_le hn.ne'
      have hfloor : (2 ^ 52 : Int) ≤ nearestInt ((n : ℚ) / 2 ^ k) := by
        refine le_trans ?_ (floor_le_nearestInt _)
        rw [Rat.le_floor_iff, le_div_iff₀ (by positivity)]
        have hcast : ((2 ^ (52 + k) : Nat) : ℚ) ≤ n := by exact_mod_cast hself
        push_cast at hcast ⊢
        rw [pow_add] at hcast
        exact hcast
      rw [hunit]
      have hone : (1 : ℚ) ≤ 2 ^ k := one_le_pow₀ (by norm_num)
      calc (m : ℚ) ≤ 2 ^ 52 := by exact_mod_cast hsmall
        _ ≤ (nearestInt ((n : ℚ) / 2 ^ k) : ℚ) := by exact_mod_cast hfloor
        _ ≤ nearestInt ((n : ℚ) / 2 ^ k) * 2 ^ k := by
            refine le_mul_of_one_le_right ?_ hone
            have hpos : (0 : Int) ≤ nearestInt ((n : ℚ) / 2 ^ k) :=
              le_trans (by norm_num) hfloor
            exact_mod_cast hpos

end Binary64
