import Mathlib.Algebra.Order.Field.Power
import Mathlib.Tactic.Linarith
import Mathlib.Tactic.Ring
import OrbitalMesh.Base.Binary64

/-!
# The order of doubles

Comparison is a total order on the doubles that are numbers.  Rounding is odd and keeps
the order, and so do the operations that round once.
-/

namespace Binary64

theorem le_self {x : Binary64} (h : x ≠ .nan) : x.le x = true := by
  cases x with
  | finite q => simp [le]
  | infinite s => cases s <;> rfl
  | nan => exact absurd rfl h

variable {y : Binary64}

theorem le_trans {x z : Binary64} (hxy : x.le y = true) (hyz : y.le z = true) : x.le z = true := by
  cases x <;> cases y <;> cases z <;> simp_all [le]
  · exact hxy.trans hyz
  · next s t u => cases s <;> cases t <;> simp_all

theorem le_eq_not_lt {x : Binary64} (hx : x ≠ .nan) (hy : y ≠ .nan) : x.le y = !y.lt x := by
  cases x with
  | finite q =>
    cases y with
    | finite r => simp [Binary64.le, Binary64.lt, ← not_lt]
    | infinite s => cases s <;> rfl
    | nan => exact absurd rfl hy
  | infinite s =>
    cases y with
    | finite r => cases s <;> rfl
    | infinite t => cases s <;> cases t <;> rfl
    | nan => exact absurd rfl hy
  | nan => exact absurd rfl hx

/-- A number and its negative stand on different sides of zero. -/
theorem neg_le_self {x : Binary64} (h : (finite 0).le x = true) : x.neg.le x = true := by
  cases x with
  | finite q =>
    simp only [le, neg, decide_eq_true_eq] at h ⊢
    linarith
  | infinite s => cases s <;> simp_all [le, neg]
  | nan => simp [le] at h

/-- What lies between the negative of a number and the number makes it positive. -/
theorem nonneg_of_between {x : Binary64} (hlow : x.neg.le y = true) (hhigh : y.le x = true) :
    (finite 0).le x = true := by
  have hself := le_trans hlow hhigh
  cases x with
  | finite q =>
    simp only [le, neg, decide_eq_true_eq] at hself ⊢
    linarith
  | infinite s => cases s <;> simp_all [le, neg]
  | nan => simp [neg, le] at hself

theorem neg_ne_nan {x : Binary64} (h : x ≠ .nan) : x.neg ≠ .nan := by
  cases x <;> simp_all [neg]

variable (x : ℚ)

theorem nearest_ne_nan : nearest x ≠ .nan := by
  unfold nearest
  dsimp only
  split <;> simp

theorem nearestInt_le : nearestInt x ≤ x.floor + 1 := by
  unfold nearestInt
  simp only
  split
  · omega
  · split
    · omega
    · split <;> omega

theorem nearestInt_mono {x y : ℚ} (h : x ≤ y) : nearestInt x ≤ nearestInt y := by
  have hfloor : x.floor ≤ y.floor := by
    rw [Rat.le_floor_iff]
    exact (Rat.floor_le x).trans h
  rcases hfloor.lt_or_eq with hlt | heq
  · exact (nearestInt_le x).trans ((Int.add_one_le_iff.mpr hlt).trans (floor_le_nearestInt y))
  · unfold nearestInt
    simp only [heq]
    split
    · split
      · exact le_rfl
      · split
        · omega
        · split <;> omega
    · next hhalf =>
      rw [if_neg (by linarith : ¬ y - y.floor < 1 / 2)]
      split
      · next habove => rw [if_pos (by linarith)]
      · split
        · split
          · omega
          · exact le_rfl
        · split <;> exact le_rfl

theorem nearestInt_nonneg {x : ℚ} (h : 0 ≤ x) : 0 ≤ nearestInt x := by
  have hzero := nearestInt_mono h
  simpa using (nearestInt_intCast 0) ▸ hzero

/-- The floor of the negative of a number that is not whole. -/
theorem floor_neg {x : ℚ} (h : (x.floor : ℚ) ≠ x) : (-x).floor = -x.floor - 1 := by
  have hbelow : (x.floor : ℚ) < x := lt_of_le_of_ne (Rat.floor_le x) h
  have habove : x < x.floor + 1 := by exact_mod_cast Rat.lt_floor_add_one x
  apply le_antisymm
  · by_contra hlt
    have hle : -x.floor ≤ (-x).floor := by omega
    rw [Rat.le_floor_iff] at hle
    push_cast at hle
    linarith
  · rw [Rat.le_floor_iff]
    push_cast
    linarith

theorem nearestInt_neg : nearestInt (-x) = -nearestInt x := by
  by_cases hwhole : (x.floor : ℚ) = x
  · rw [← hwhole, ← Int.cast_neg, nearestInt_intCast, nearestInt_intCast]
  · unfold nearestInt
    simp only [floor_neg hwhole]
    push_cast
    have hrest : -x - (-(x.floor : ℚ) - 1) = 1 - (x - x.floor) := by ring
    rw [hrest]
    rcases lt_trichotomy (x - x.floor) (1 / 2) with hlow | heq | hhigh
    · have hfirst : ¬ (1 - (x - x.floor) < 1 / 2) := by linarith
      have hsecond : 1 / 2 < 1 - (x - x.floor) := by linarith
      rw [if_neg hfirst, if_pos hsecond, if_pos hlow]
      ring
    · rw [heq]
      norm_num
      split <;> split <;> omega
    · have hfirst : 1 - (x - x.floor) < 1 / 2 := by linarith
      have hsecond : ¬ (x - x.floor < 1 / 2) := by linarith
      rw [if_pos hfirst, if_neg hsecond, if_pos hhigh]
      ring

theorem powerOfTwo_eq (e : Int) : powerOfTwo e = (2 : ℚ) ^ e := by
  unfold powerOfTwo
  split
  · next h =>
    obtain ⟨n, rfl⟩ := Int.eq_ofNat_of_zero_le h
    simp
  · next h =>
    obtain ⟨n, hn⟩ := Int.eq_ofNat_of_zero_le (by omega : 0 ≤ -e)
    obtain rfl : e = -n := by omega
    simp

theorem powerOfTwo_pos (e : Int) : 0 < powerOfTwo e := by
  rw [powerOfTwo_eq]
  positivity

/-- The place of the first binary digit of `x`. -/
def firstPlace : Int :=
  let guess : Int := (Nat.log2 x.num.natAbs : Int) - Nat.log2 x.den
  if powerOfTwo guess ≤ magnitude x then guess else guess - 1

theorem lastPlace_eq : lastPlace x = max (firstPlace x - 52) (-1074) := rfl

theorem firstPlace_spec {x : ℚ} (h : 0 < x) :
    powerOfTwo (firstPlace x) ≤ x ∧ x < powerOfTwo (firstPlace x + 1) := by
  have hmagnitude : magnitude x = x := by simp [magnitude, h.le]
  have hnum : 0 < x.num := Rat.num_pos.mpr h
  obtain ⟨n, hn⟩ := Int.eq_ofNat_of_zero_le hnum.le
  have hnpos : n ≠ 0 := by omega
  have hx : x * x.den = n := by
    rw [Rat.mul_den_eq_num, hn]
    simp
  have hden : (0 : ℚ) < x.den := by exact_mod_cast x.den_pos
  have hnlow : (2 : ℚ) ^ (Nat.log2 n : Int) ≤ n := by
    exact_mod_cast Nat.log2_self_le hnpos
  have hnhigh : (n : ℚ) < 2 ^ ((Nat.log2 n : Int) + 1) := by
    exact_mod_cast @Nat.lt_log2_self n
  have hdlow : (2 : ℚ) ^ (Nat.log2 x.den : Int) ≤ x.den := by
    exact_mod_cast Nat.log2_self_le x.den_ne_zero
  have hdhigh : (x.den : ℚ) < 2 ^ ((Nat.log2 x.den : Int) + 1) := by
    exact_mod_cast @Nat.lt_log2_self x.den
  have hbelow : (2 : ℚ) ^ ((Nat.log2 n : Int) - Nat.log2 x.den - 1) < x := by
    refine lt_of_mul_lt_mul_right ?_ hden.le
    calc (2 : ℚ) ^ ((Nat.log2 n : Int) - Nat.log2 x.den - 1) * x.den
        < 2 ^ ((Nat.log2 n : Int) - Nat.log2 x.den - 1) * 2 ^ ((Nat.log2 x.den : Int) + 1) :=
          mul_lt_mul_of_pos_left hdhigh (by positivity)
      _ = 2 ^ (Nat.log2 n : Int) := by
          rw [← zpow_add₀ (by norm_num)]
          congr 1
          ring
      _ ≤ n := hnlow
      _ = x * x.den := hx.symm
  have habove : x < 2 ^ ((Nat.log2 n : Int) - Nat.log2 x.den + 1) := by
    refine lt_of_mul_lt_mul_right ?_ hden.le
    calc x * x.den = n := hx
      _ < 2 ^ ((Nat.log2 n : Int) + 1) := hnhigh
      _ = 2 ^ ((Nat.log2 n : Int) - Nat.log2 x.den + 1) * 2 ^ (Nat.log2 x.den : Int) := by
          rw [← zpow_add₀ (by norm_num)]
          congr 1
          ring
      _ ≤ 2 ^ ((Nat.log2 n : Int) - Nat.log2 x.den + 1) * x.den :=
          mul_le_mul_of_nonneg_left hdlow (by positivity)
  have habs : x.num.natAbs = n := by omega
  unfold firstPlace
  simp only [hmagnitude, habs]
  by_cases hguess : powerOfTwo ((Nat.log2 n : Int) - Nat.log2 x.den) ≤ x
  · rw [if_pos hguess]
    exact ⟨hguess, by rw [powerOfTwo_eq]; exact habove⟩
  · rw [if_neg hguess]
    refine ⟨by rw [powerOfTwo_eq]; exact hbelow.le, ?_⟩
    rw [sub_add_cancel]
    exact not_le.mp hguess

theorem firstPlace_mono {x y : ℚ} (hx : 0 < x) (h : x ≤ y) : firstPlace x ≤ firstPlace y := by
  have hlow := (firstPlace_spec hx).1
  have hhigh := (firstPlace_spec (hx.trans_le h)).2
  rw [powerOfTwo_eq] at hlow hhigh
  have hlt := (hlow.trans h).trans_lt hhigh
  rw [zpow_lt_zpow_iff_right₀ (by norm_num)] at hlt
  omega

theorem lastPlace_neg : lastPlace (-x) = lastPlace x := by
  have hmagnitude : magnitude (-x) = magnitude x := by
    unfold magnitude
    split <;> split <;> linarith
  unfold lastPlace
  simp only [hmagnitude, Rat.neg_num, Int.natAbs_neg, Rat.den_neg_eq_den]

def rounded : ℚ := nearestInt (x / powerOfTwo (lastPlace x)) * powerOfTwo (lastPlace x)

theorem nearest_eq :
    nearest x = if powerOfTwo 1024 ≤ magnitude (rounded x) then .infinite (decide (x < 0))
      else .finite (rounded x) := rfl

theorem rounded_nonneg {x : ℚ} (h : 0 ≤ x) : 0 ≤ rounded x := by
  have hunit := powerOfTwo_pos (lastPlace x)
  have hwhole : 0 ≤ nearestInt (x / powerOfTwo (lastPlace x)) :=
    nearestInt_nonneg (div_nonneg h hunit.le)
  exact mul_nonneg (by exact_mod_cast hwhole) hunit.le

theorem rounded_neg : rounded (-x) = -rounded x := by
  unfold rounded
  rw [lastPlace_neg, neg_div, nearestInt_neg]
  push_cast
  ring

theorem rounded_le {x : ℚ} (hx : 0 < x) : rounded x ≤ 2 ^ (53 + lastPlace x) := by
  have hlast : firstPlace x - 52 ≤ lastPlace x := by
    rw [lastPlace_eq]
    omega
  have hbound : x / powerOfTwo (lastPlace x) ≤ ((2 ^ 53 : Int) : ℚ) := by
    rw [div_le_iff₀ (powerOfTwo_pos _)]
    refine (firstPlace_spec hx).2.le.trans ?_
    rw [powerOfTwo_eq, powerOfTwo_eq]
    calc (2 : ℚ) ^ (firstPlace x + 1) ≤ 2 ^ (53 + lastPlace x) :=
          zpow_le_zpow_right₀ (by norm_num) (by omega)
      _ = ((2 ^ 53 : Int) : ℚ) * 2 ^ lastPlace x := by
          rw [zpow_add₀ (by norm_num)]
          norm_num
  have hwhole := nearestInt_mono hbound
  rw [nearestInt_intCast] at hwhole
  calc rounded x ≤ ((2 ^ 53 : Int) : ℚ) * powerOfTwo (lastPlace x) :=
        mul_le_mul_of_nonneg_right (by exact_mod_cast hwhole) (powerOfTwo_pos _).le
    _ = 2 ^ (53 + lastPlace x) := by
        rw [powerOfTwo_eq, zpow_add₀ (by norm_num)]
        norm_num

theorem rounded_mono_of_pos {x y : ℚ} (hx : 0 < x) (h : x ≤ y) : rounded x ≤ rounded y := by
  have hy : 0 < y := hx.trans_le h
  have hfirst := firstPlace_mono hx h
  have hplace : lastPlace x ≤ lastPlace y := by
    rw [lastPlace_eq, lastPlace_eq]
    omega
  rcases hplace.lt_or_eq with hlt | heq
  · -- between the two lies the power of two at which the digits of `y` start
    have hlast : lastPlace y = firstPlace y - 52 := by
      rw [lastPlace_eq] at hlt ⊢
      rw [lastPlace_eq] at hlt
      omega
    have hlow : rounded x ≤ powerOfTwo (firstPlace y) := by
      rw [powerOfTwo_eq]
      exact (rounded_le hx).trans (zpow_le_zpow_right₀ (by norm_num) (by omega))
    have hhigh : powerOfTwo (firstPlace y) ≤ rounded y := by
      have hbound : ((2 ^ 52 : Int) : ℚ) ≤ y / powerOfTwo (lastPlace y) := by
        rw [le_div_iff₀ (powerOfTwo_pos _)]
        refine le_of_eq_of_le ?_ (firstPlace_spec hy).1
        rw [powerOfTwo_eq, powerOfTwo_eq, hlast,
          show firstPlace y = 52 + (firstPlace y - 52) by ring, zpow_add₀ (by norm_num)]
        norm_num
      have hwhole := nearestInt_mono hbound
      rw [nearestInt_intCast] at hwhole
      calc powerOfTwo (firstPlace y) = ((2 ^ 52 : Int) : ℚ) * powerOfTwo (lastPlace y) := by
            rw [powerOfTwo_eq, powerOfTwo_eq, hlast,
              show firstPlace y = 52 + (firstPlace y - 52) by ring, zpow_add₀ (by norm_num)]
            norm_num
        _ ≤ rounded y := mul_le_mul_of_nonneg_right (by exact_mod_cast hwhole) (powerOfTwo_pos _).le
    exact hlow.trans hhigh
  · unfold rounded
    rw [heq]
    have hunit := powerOfTwo_pos (lastPlace y)
    have hwhole := nearestInt_mono (div_le_div_of_nonneg_right h hunit.le)
    exact mul_le_mul_of_nonneg_right (by exact_mod_cast hwhole) hunit.le

/-- **Rounding keeps the order.** -/
theorem rounded_mono {x y : ℚ} (h : x ≤ y) : rounded x ≤ rounded y := by
  rcases lt_or_ge 0 x with hx | hx
  · exact rounded_mono_of_pos hx h
  · have hlow : rounded x ≤ 0 := by
      have hneg := rounded_nonneg (neg_nonneg.mpr hx)
      rw [rounded_neg] at hneg
      linarith
    rcases lt_or_ge y 0 with hy | hy
    · have hneg := rounded_mono_of_pos (neg_pos.mpr hy) (neg_le_neg h)
      rw [rounded_neg, rounded_neg] at hneg
      linarith
    · exact hlow.trans (rounded_nonneg hy)

theorem nearest_mono {x y : ℚ} (h : x ≤ y) : (nearest x).le (nearest y) = true := by
  have hrounded := rounded_mono h
  have hsign {z : ℚ} (hz : z < 0) : rounded z ≤ 0 := by
    have hneg := rounded_nonneg (neg_nonneg.mpr hz.le)
    rw [rounded_neg] at hneg
    linarith
  rw [nearest_eq, nearest_eq]
  by_cases hx : powerOfTwo 1024 ≤ magnitude (rounded x) <;>
    by_cases hy : powerOfTwo 1024 ≤ magnitude (rounded y)
  · rw [if_pos hx, if_pos hy]
    by_cases hneg : y < 0
    · have hxneg : x < 0 := h.trans_lt hneg
      simp [le, hxneg]
    · simp [le, hneg]
  · rw [if_pos hx, if_neg hy]
    by_cases hneg : x < 0
    · simp [le, hneg]
    · have hpos := rounded_nonneg (not_lt.mp hneg)
      simp only [magnitude] at hx hy
      rw [if_neg (by linarith)] at hx
      rw [if_neg (by linarith)] at hy
      linarith
  · rw [if_neg hx, if_pos hy]
    by_cases hneg : y < 0
    · have hysign := hsign hneg
      simp only [magnitude] at hx hy
      split at hx <;> split at hy <;> linarith
    · simp [le, hneg]
  · rw [if_neg hx, if_neg hy]
    simpa [le] using hrounded

theorem nearest_neg {x : ℚ} : nearest (-x) = (nearest x).neg := by
  have hmagnitude : magnitude (rounded (-x)) = magnitude (rounded x) := by
    rw [rounded_neg]
    unfold magnitude
    split <;> split <;> linarith
  rw [nearest_eq, nearest_eq, hmagnitude]
  by_cases hbig : powerOfTwo 1024 ≤ magnitude (rounded x)
  · rw [if_pos hbig, if_pos hbig]
    rcases lt_trichotomy x 0 with hneg | rfl | hpos
    · simp [neg, hneg, hneg.le]
    · have hzero : rounded 0 = 0 := by
        have hneg := rounded_neg 0
        rw [neg_zero] at hneg
        linarith
      rw [hzero] at hbig
      have hunit := powerOfTwo_pos 1024
      simp only [magnitude, lt_irrefl, if_false] at hbig
      linarith
    · simp [neg, hpos, hpos.le]
  · rw [if_neg hbig, if_neg hbig, rounded_neg]
    rfl

theorem rounded_zero : rounded 0 = 0 := by
  have hneg := rounded_neg 0
  rw [neg_zero] at hneg
  linarith

theorem rounded_of_whole {x : ℚ} {n : Int} (h : x / powerOfTwo (lastPlace x) = n) :
    rounded x = x := by
  unfold rounded
  rw [h, nearestInt_intCast, ← h]
  exact div_mul_cancel₀ x (powerOfTwo_pos _).ne'

theorem rounded_rounded_of_pos {x : ℚ} (hx : 0 < x) : rounded (rounded x) = rounded x := by
  rcases (rounded_nonneg hx.le).eq_or_lt with hzero | hpos
  · rw [← hzero, rounded_zero]
  · obtain ⟨p, hp⟩ : ∃ p, p = lastPlace x := ⟨_, rfl⟩
    obtain ⟨q, hq⟩ : ∃ q, q = lastPlace (rounded x) := ⟨_, rfl⟩
    have hform : rounded x = nearestInt (x / powerOfTwo p) * 2 ^ p := by
      rw [hp, ← powerOfTwo_eq]
      rfl
    rcases le_or_gt q p with hle | hlt
    · obtain ⟨k, hk⟩ := Int.eq_ofNat_of_zero_le (sub_nonneg.mpr hle)
      apply rounded_of_whole (n := nearestInt (x / powerOfTwo p) * 2 ^ k)
      rw [← hq, powerOfTwo_eq, hform]
      push_cast
      rw [mul_div_assoc, ← zpow_sub₀ (by norm_num), hk]
      simp
    · have hfirst : q = firstPlace (rounded x) - 52 := by
        rw [lastPlace_eq] at hp hq
        omega
      have hlow := (firstPlace_spec hpos).1
      have hhigh := rounded_le hx
      rw [powerOfTwo_eq] at hlow
      have hplaces := hlow.trans hhigh
      rw [zpow_le_zpow_iff_right₀ (by norm_num), ← hp] at hplaces
      have heq : rounded x = 2 ^ (52 + q) := by
        apply le_antisymm
        · calc rounded x ≤ 2 ^ (53 + lastPlace x) := hhigh
            _ = 2 ^ (52 + q) := by
                congr 1
                omega
        · calc (2 : ℚ) ^ (52 + q) = 2 ^ firstPlace (rounded x) := by
                congr 1
                omega
            _ ≤ rounded x := hlow
      apply rounded_of_whole (n := 2 ^ 52)
      rw [← hq, powerOfTwo_eq, heq, zpow_add₀ (by norm_num), mul_div_assoc,
        div_self (by positivity)]
      norm_num

/-- **What has been rounded stays.** -/
theorem rounded_rounded : rounded (rounded x) = rounded x := by
  rcases lt_trichotomy x 0 with hneg | rfl | hpos
  · have hturned := rounded_rounded_of_pos (neg_pos.mpr hneg)
    rw [rounded_neg, rounded_neg] at hturned
    exact neg_injective hturned
  · rw [rounded_zero, rounded_zero]
  · exact rounded_rounded_of_pos hpos

theorem nearest_nearest {x y : ℚ} (h : nearest x = .finite y) : nearest y = .finite y := by
  rw [nearest_eq] at h
  split at h
  · cases h
  · next hsmall =>
    obtain rfl := finite.inj h
    rw [nearest_eq, rounded_rounded, if_neg hsmall]

/-- `float(x)` of a number that may have more digits. -/
def shortened : Binary64 → Binary64
  | .finite x => nearest x
  | x => x

theorem shortened_nearest : (nearest x).shortened = nearest x := by
  cases h : nearest x with
  | finite y => exact nearest_nearest h
  | infinite s | nan => rfl

theorem le_infinite {x : Binary64} (h : x ≠ .nan) : x.le (.infinite false) = true := by
  cases x with
  | finite q => rfl
  | infinite s => cases s <;> rfl
  | nan => exact absurd rfl h

theorem infinite_le {x : Binary64} (h : x ≠ .nan) : (infinite true).le x = true := by
  cases x with
  | finite q | infinite s => rfl
  | nan => exact absurd rfl h

/-- **Multiplying by a positive number keeps the order.** -/
theorem mul_le_mul {x : Binary64} {q : ℚ} (hq : 0 < q) (h : x.le y = true) :
    (x.mul (.finite q)).le (y.mul (.finite q)) = true := by
  cases x with
  | finite a =>
    cases y with
    | finite b =>
      simp only [le, decide_eq_true_eq] at h
      exact nearest_mono (mul_le_mul_of_nonneg_right h hq.le)
    | infinite t =>
      cases t with
      | false =>
        have hinfinite : (infinite false).mul (.finite q) = .infinite false := by
          simp [mul, hq.ne', hq.le]
        rw [hinfinite]
        exact le_infinite (nearest_ne_nan _)
      | true => cases h
    | nan => cases h
  | infinite s =>
    cases s with
    | true =>
      have hinfinite : (infinite true).mul (.finite q) = .infinite true := by
        simp [mul, hq.ne', hq.le]
      rw [hinfinite]
      refine infinite_le ?_
      cases y with
      | finite b => exact nearest_ne_nan _
      | infinite t => simp [mul, hq.ne']
      | nan => cases h
    | false =>
      cases y with
      | finite b => cases h
      | infinite t => cases t <;> simp_all [le, mul, hq.ne']
      | nan => cases h
  | nan => cases h

theorem shortened_mono {x : Binary64} (h : x.le y = true) : x.shortened.le y.shortened = true := by
  cases x with
  | finite a =>
    cases y with
    | finite b =>
      simp only [le, decide_eq_true_eq] at h
      exact nearest_mono h
    | infinite t =>
      cases t with
      | false => exact le_infinite (nearest_ne_nan a)
      | true => cases h
    | nan => cases h
  | infinite s =>
    cases y with
    | finite b =>
      cases s with
      | true => exact infinite_le (nearest_ne_nan b)
      | false => cases h
    | infinite t => exact h
    | nan => cases h
  | nan => cases h

/-- **Rounding to decimal places keeps the order.** -/
theorem roundTo_mono (digits : Nat) {x : Binary64} (h : x.le y = true) :
    (x.roundTo digits).le (y.roundTo digits) = true := by
  have hscale : (0 : ℚ) < ((10 ^ digits : Nat) : ℚ) := by positivity
  cases x with
  | finite a =>
    cases y with
    | finite b =>
      simp only [le, decide_eq_true_eq] at h
      have hwhole := nearestInt_mono (mul_le_mul_of_nonneg_right h hscale.le)
      apply nearest_mono
      apply div_le_div_of_nonneg_right _ hscale.le
      exact_mod_cast hwhole
    | infinite t =>
      cases t with
      | false => exact le_infinite (nearest_ne_nan _)
      | true => cases h
    | nan => cases h
  | infinite s =>
    cases y with
    | finite b =>
      cases s with
      | true => exact infinite_le (nearest_ne_nan _)
      | false => cases h
    | infinite t => exact h
    | nan => cases h
  | nan => cases h

theorem le_of_lt {x : Binary64} (h : x.lt y = true) : x.le y = true := by
  cases x with
  | finite a =>
    cases y with
    | finite b =>
      simp only [lt, le, decide_eq_true_eq] at h ⊢
      exact h.le
    | infinite t => exact h
    | nan => cases h
  | infinite s =>
    cases y with
    | finite b => exact h
    | infinite t => cases s <;> cases t <;> simp_all [lt, le]
    | nan => cases h
  | nan => cases h

theorem not_lt_of_lt {x : Binary64} (h : x.lt y = true) : y.lt x = false := by
  cases x with
  | finite a =>
    cases y with
    | finite b =>
      simp only [lt, decide_eq_true_eq, decide_eq_false_iff_not] at h ⊢
      exact h.not_gt
    | infinite t => cases t <;> simp_all [lt]
    | nan => cases h
  | infinite s =>
    cases y with
    | finite b => cases s <;> simp_all [lt]
    | infinite t => cases s <;> cases t <;> simp_all [lt]
    | nan => cases h
  | nan => cases h

theorem lt_of_le_of_ne {x : Binary64} (h : x.le y = true) (hne : x ≠ y) : x.lt y = true := by
  cases x with
  | finite a =>
    cases y with
    | finite b =>
      simp only [lt, le, decide_eq_true_eq] at h ⊢
      have hvalues : a ≠ b := fun heq => hne (congrArg finite heq)
      exact h.lt_of_ne hvalues
    | infinite t => exact h
    | nan => cases h
  | infinite s =>
    cases y with
    | finite b => exact h
    | infinite t => cases s <;> cases t <;> simp_all [lt, le]
    | nan => cases h
  | nan => cases h

/-- A number that is held between two bounds lies between them, whatever it is. -/
theorem between_of_clamped {low high : Binary64} (hbounds : low.le high = true) (x : Binary64) :
    low.le (greatest low (least high x)) = true ∧
      (greatest low (least high x)).le high = true := by
  have hlow : low ≠ .nan := by
    intro hnan
    rw [hnan] at hbounds
    cases hbounds
  have hhigh : high ≠ .nan := by
    intro hnan
    rw [hnan] at hbounds
    cases low <;> cases hbounds
  have hleast : (least high x).le high = true := by
    unfold least
    by_cases hlt : x.lt high = true
    · rw [if_pos hlt]
      exact le_of_lt hlt
    · rw [if_neg hlt]
      exact le_self hhigh
  unfold greatest
  by_cases hlt : low.lt (least high x) = true
  · rw [if_pos hlt]
    exact ⟨le_of_lt hlt, hleast⟩
  · rw [if_neg hlt]
    exact ⟨le_self hlow, hbounds⟩

end Binary64
