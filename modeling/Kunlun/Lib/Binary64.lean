import Mathlib.Data.Int.Log
import Mathlib.Data.Rat.Floor
import Mathlib.Tactic.FieldSimp
import Mathlib.Tactic.Linarith
import Mathlib.Tactic.NormNum
import Mathlib.Tactic.Positivity
import Mathlib.Tactic.Ring

/-!
# Correctly rounded quotients

The quotient of two integers as an IEEE binary64 number, rounded to nearest with ties to
even. A quotient of positive integers below 2^63 is far from the subnormal range, so the
exponent has no lower end here.
-/

namespace Binary64

/-- The integer closest to `q`, the even one of two that are equally close. -/
def roundEven (q : ℚ) : ℤ :=
  let f := ⌊q⌋
  let r := q - f
  if r < 1 / 2 then f else if 1 / 2 < r then f + 1 else if f % 2 = 0 then f else f + 1

/-- The exponent of the last of the 53 bits that a number of this size keeps. -/
def ulpExponent (q : ℚ) : ℤ := Int.log 2 q - 52

def round (q : ℚ) : ℚ := roundEven (q / 2 ^ ulpExponent q) * 2 ^ ulpExponent q

/-- `n / d` on positive integers, or nothing when the result is too large for a float. -/
def quotient? (n d : ℕ) : Option ℚ :=
  let q := round (n / d)
  if q < 2 ^ 1024 then some q else none

/-! ## The closest integer -/

theorem floor_le_roundEven (q : ℚ) : ⌊q⌋ ≤ roundEven q := by
  unfold roundEven
  dsimp only
  split_ifs <;> omega

theorem roundEven_le_floor (q : ℚ) : roundEven q ≤ ⌊q⌋ + 1 := by
  unfold roundEven
  dsimp only
  split_ifs <;> omega

@[simp]
theorem roundEven_intCast (m : ℤ) : roundEven m = m := by
  simp [roundEven]

theorem roundEven_mono {q q' : ℚ} (h : q ≤ q') : roundEven q ≤ roundEven q' := by
  have hf : ⌊q⌋ ≤ ⌊q'⌋ := Int.floor_mono h
  rcases hf.lt_or_eq with hlt | heq
  · have h1 := roundEven_le_floor q
    have h2 := floor_le_roundEven q'
    omega
  · -- of one floor, the larger one has the larger rest
    unfold roundEven
    dsimp only
    rw [← heq]
    split_ifs <;> first | omega | (exfalso; linarith)

theorem roundEven_nonneg {q : ℚ} (h : 0 ≤ q) : 0 ≤ roundEven q := by
  have hf : 0 ≤ ⌊q⌋ := Int.floor_nonneg.2 h
  unfold roundEven
  dsimp only
  split_ifs <;> omega

theorem lt_roundEven_iff {q : ℚ} {m : ℤ} (hm : m % 2 = 0) (h : (m : ℚ) ≤ q) :
    m < roundEven q ↔ 1 / 2 < q - m := by
  rcases (Int.le_floor.2 h).lt_or_eq with hlt | heq
  · have h1 := floor_le_roundEven q
    have h2 : (m : ℚ) + 1 ≤ q := by exact_mod_cast Int.le_floor.1 (Int.add_one_le_iff.2 hlt)
    constructor
    · intro
      linarith
    · intro
      omega
  · unfold roundEven
    dsimp only
    rw [← heq]
    split_ifs <;> constructor <;> intro <;> first | omega | linarith

theorem roundEven_eq_of_close {q : ℚ} {m : ℤ} (h : q ≤ m)
    (hm : (m : ℚ) - q < 1 / 2) : roundEven q = m := by
  rcases h.lt_or_eq with hlt | rfl
  · have hf : ⌊q⌋ = m - 1 := by
      rw [Int.floor_eq_iff]
      push_cast
      constructor <;> linarith
    unfold roundEven
    dsimp only
    rw [hf]
    push_cast
    rw [if_neg (by linarith), if_pos (by linarith)]
    omega
  · exact roundEven_intCast m

/-! ## The significand -/

theorem two_zpow_pos (k : ℤ) : (0 : ℚ) < 2 ^ k := zpow_pos (by norm_num) k

theorem log_le_self {q : ℚ} (h : 0 < q) : (2 : ℚ) ^ Int.log 2 q ≤ q := by
  exact_mod_cast Int.zpow_log_le_self (R := ℚ) (b := 2) (by norm_num) h

theorem lt_log_succ (q : ℚ) : q < 2 ^ (Int.log 2 q + 1) := by
  exact_mod_cast Int.lt_zpow_succ_log_self (R := ℚ) (b := 2) (by norm_num) q

theorem two_pow_log (q : ℚ) : (2 : ℚ) ^ Int.log 2 q = ((2 ^ 52 : ℤ) : ℚ) * 2 ^ ulpExponent q := by
  rw [ulpExponent, zpow_sub₀ (by norm_num)]
  norm_num
  ring

theorem two_pow_log_succ (q : ℚ) : (2 : ℚ) ^ (Int.log 2 q + 1) =
    ((2 ^ 53 : ℤ) : ℚ) * 2 ^ ulpExponent q := by
  rw [zpow_add_one₀ (by norm_num), two_pow_log]
  norm_num
  ring

theorem scaled_upper (q : ℚ) : q / 2 ^ ulpExponent q ≤ ((2 ^ 53 : ℤ) : ℚ) := by
  rw [div_le_iff₀ (two_zpow_pos _), ← two_pow_log_succ]
  exact (lt_log_succ q).le

theorem round_le_log (q : ℚ) : round q ≤ 2 ^ (Int.log 2 q + 1) := by
  have hs : roundEven (q / 2 ^ ulpExponent q) ≤ (2 ^ 53 : ℤ) := by
    rw [← roundEven_intCast (2 ^ 53)]
    exact roundEven_mono (scaled_upper q)
  rw [two_pow_log_succ]
  exact mul_le_mul_of_nonneg_right (by exact_mod_cast hs) (two_zpow_pos _).le

theorem round_zero : round 0 = 0 := by
  have h := roundEven_intCast 0
  rw [Int.cast_zero] at h
  simp [round, h]

theorem round_nonneg {q : ℚ} (h : 0 ≤ q) : 0 ≤ round q := by
  have hp : (0 : ℚ) ≤ 2 ^ ulpExponent q := zpow_nonneg (by norm_num) _
  exact mul_nonneg (Int.cast_nonneg (roundEven_nonneg (div_nonneg h hp))) hp

theorem round_le_double {q : ℚ} (h : 0 < q) : round q ≤ 2 * q := by
  calc round q ≤ 2 ^ (Int.log 2 q + 1) := round_le_log q
    _ = 2 * 2 ^ Int.log 2 q := by rw [zpow_add_one₀ (by norm_num), mul_comm]
    _ ≤ 2 * q := mul_le_mul_of_nonneg_left (log_le_self h) (by norm_num)

/-! ## The ceiling of a rounded number -/

theorem round_eq_self {q : ℚ} {m : ℤ} (h : q / 2 ^ ulpExponent q = m) : round q = q := by
  rw [round, h, roundEven_intCast, ← h, div_mul_cancel₀ _ (two_zpow_pos _).ne']

theorem int_div_ulp {q : ℚ} {n : ℕ} (hn : ulpExponent q = -n) (k : ℤ) :
    (k : ℚ) / 2 ^ ulpExponent q = ((k * 2 ^ n : ℤ) : ℚ) := by
  rw [hn, zpow_neg, zpow_natCast]
  push_cast
  rw [div_inv_eq_mul]

theorem ceil_of_fract {q : ℚ} (h : Int.fract q ≠ 0) : ⌈q⌉ = ⌊q⌋ + 1 :=
  (Int.ceil_eq_floor_add_one_iff_notMem q).2 (Int.fract_ne_zero_iff.1 h)

/-- Below 2^53, an integer in between is a number of the format. -/
theorem ceil_round_of_fine {q : ℚ} (hu : ulpExponent q ≤ 0) (hf : Int.fract q ≠ 0) :
    ⌈round q⌉ = ⌈q⌉ ↔ (⌊q⌋ : ℚ) < round q := by
  obtain ⟨n, hn⟩ := Int.exists_eq_neg_ofNat hu
  have hle : round q ≤ ⌈q⌉ := by
    have hm : roundEven (q / 2 ^ ulpExponent q) ≤ ⌈q⌉ * 2 ^ n := by
      rw [← roundEven_intCast (⌈q⌉ * 2 ^ n), ← int_div_ulp hn]
      exact roundEven_mono (div_le_div_of_nonneg_right (Int.le_ceil q) (two_zpow_pos _).le)
    calc round q ≤ ((⌈q⌉ * 2 ^ n : ℤ) : ℚ) * 2 ^ ulpExponent q :=
          mul_le_mul_of_nonneg_right (by exact_mod_cast hm) (two_zpow_pos _).le
      _ = ⌈q⌉ := by rw [← int_div_ulp hn, div_mul_cancel₀ _ (two_zpow_pos _).ne']
  rw [ceil_of_fract hf] at hle ⊢
  constructor
  · intro heq
    exact Int.lt_ceil.1 (by omega)
  · intro hlt
    have h1 : ⌊q⌋ < ⌈round q⌉ := Int.lt_ceil.2 hlt
    have h2 : ⌈round q⌉ ≤ ⌊q⌋ + 1 := Int.ceil_le.2 hle
    omega

/-- Below 2^52, the ceiling is lost where the number is within half a unit above an integer. -/
theorem ceil_round_of_small {q : ℚ} (hu : ulpExponent q < 0) :
    ⌈round q⌉ = ⌈q⌉ ↔ Int.fract q = 0 ∨ 2 ^ (ulpExponent q - 1) < Int.fract q := by
  obtain ⟨n, hn⟩ := Int.exists_eq_neg_ofNat hu.le
  have hfloor := int_div_ulp hn ⌊q⌋
  by_cases hf : Int.fract q = 0
  · have hq : (⌊q⌋ : ℚ) = q := by rw [← Int.floor_add_fract q, hf]; simp
    rw [hq] at hfloor
    simp [round_eq_self hfloor, hf]
  · have heven : ⌊q⌋ * 2 ^ n % 2 = 0 := by
      obtain ⟨k, rfl⟩ : ∃ k, n = k + 1 := ⟨n - 1, by omega⟩
      rw [pow_succ, ← mul_assoc]
      exact Int.mul_emod_left _ _
    have hle : ((⌊q⌋ * 2 ^ n : ℤ) : ℚ) ≤ q / 2 ^ ulpExponent q := by
      rw [← hfloor]
      exact div_le_div_of_nonneg_right (Int.floor_le q) (two_zpow_pos _).le
    have hhalf : (1 / 2 : ℚ) < q / 2 ^ ulpExponent q - ((⌊q⌋ * 2 ^ n : ℤ) : ℚ) ↔
        2 ^ (ulpExponent q - 1) < Int.fract q := by
      rw [← hfloor, ← sub_div, lt_div_iff₀ (two_zpow_pos _), zpow_sub_one₀ (by norm_num), Int.fract]
      constructor <;> intro h <;> linarith
    rw [ceil_round_of_fine hu.le hf, ← hhalf, ← lt_roundEven_iff heven hle]
    constructor
    · intro h
      have := (div_lt_div_iff_of_pos_right (two_zpow_pos (ulpExponent q))).2 h
      rw [hfloor, round, mul_div_cancel_right₀ _ (two_zpow_pos _).ne'] at this
      exact .inr (by exact_mod_cast this)
    · intro h
      have h := h.resolve_left hf
      rw [round, ← div_lt_iff₀ (two_zpow_pos _), hfloor]
      exact_mod_cast h

/-- From 2^52 to 2^53, the number is rounded to an integer. -/
theorem ceil_round_of_unit {q : ℚ} (hu : ulpExponent q = 0) : ⌈round q⌉ = ⌈q⌉ ↔
    Int.fract q = 0 ∨ 1 / 2 < Int.fract q ∨ Int.fract q = 1 / 2 ∧ ⌊q⌋ % 2 = 1 := by
  rw [round, hu]
  simp only [zpow_zero, div_one, mul_one, Int.ceil_intCast]
  by_cases hf : Int.fract q = 0
  · have hq : (⌊q⌋ : ℚ) = q := by rw [← Int.floor_add_fract q, hf]; simp
    rw [← hq]
    simp
  · rw [ceil_of_fract hf]
    unfold roundEven
    dsimp only
    rw [← Int.fract]
    split_ifs with h1 h2 h3
    · constructor
      · intro h
        omega
      · rintro (h | h | ⟨h, -⟩)
        · exact absurd h hf
        · linarith
        · linarith
    · exact ⟨fun _ => .inr (.inl h2), fun _ => rfl⟩
    · have heq : Int.fract q = 1 / 2 := by linarith
      simp [heq, h3]
    · have heq : Int.fract q = 1 / 2 := by linarith
      have hodd : ⌊q⌋ % 2 = 1 := by omega
      simp [heq, hodd]

/-- From 2^53 on, the numbers are integers, and the ceiling must be one of them. -/
theorem ceil_round_of_large {q : ℚ} {n : ℕ} (hn : ulpExponent q = n) (hpos : 0 < n) :
    ⌈round q⌉ = ⌈q⌉ ↔ (2 ^ n : ℤ) ∣ ⌈q⌉ := by
  have hround : round q = ((roundEven (q / 2 ^ n) * 2 ^ n : ℤ) : ℚ) := by
    rw [round, hn, zpow_natCast]
    push_cast
    rfl
  rw [hround, Int.ceil_intCast]
  constructor
  · intro h
    exact ⟨_, by rw [← h, mul_comm]⟩
  · rintro ⟨m, hm⟩
    have hp : (0 : ℚ) < 2 ^ n := by positivity
    have hceil : ((⌈q⌉ : ℤ) : ℚ) = m * 2 ^ n := by
      rw [hm]
      push_cast
      ring
    have hle : q / 2 ^ n ≤ m := by
      rw [div_le_iff₀ hp, ← hceil]
      exact Int.le_ceil q
    have hclose : (m : ℚ) - q / 2 ^ n < 1 / 2 := by
      have h2 : (2 : ℚ) ≤ 2 ^ n := by
        calc (2 : ℚ) = 2 ^ 1 := by norm_num
          _ ≤ 2 ^ n := pow_le_pow_right₀ (by norm_num) hpos
      rw [sub_lt_iff_lt_add, ← sub_lt_iff_lt_add', lt_div_iff₀ hp]
      have := Int.ceil_lt_add_one q
      rw [hceil] at this
      nlinarith
    rw [roundEven_eq_of_close hle hclose, hm, mul_comm]

/-! ## Integers -/

theorem round_natCast {k : ℕ} (h : k < 2 ^ 53) : round k = k := by
  rcases Nat.eq_zero_or_pos k with rfl | hk
  · exact_mod_cast round_zero
  · have hlog : Nat.log 2 k < 53 := Nat.log_lt_of_lt_pow hk.ne' h
    obtain ⟨n, hn⟩ := Nat.exists_eq_add_of_le (Nat.le_of_lt_succ hlog)
    have hulp : ulpExponent (k : ℚ) = -(n : ℤ) := by
      have hcast : Int.log 2 (k : ℚ) = Nat.log 2 k := Int.log_natCast 2 k
      rw [ulpExponent, hcast]
      omega
    refine round_eq_self (m := k * 2 ^ n) ?_
    rw [hulp, zpow_neg, div_inv_eq_mul, zpow_natCast]
    push_cast
    rfl

/-! ## Quotients -/

theorem quotient?_nonneg {n d : ℕ} {q : ℚ} (h : quotient? n d = some q) : 0 ≤ q := by
  simp only [quotient?, Option.ite_none_right_eq_some, Option.some.injEq] at h
  rw [← h.2]
  exact round_nonneg (div_nonneg (Nat.cast_nonneg n) (Nat.cast_nonneg d))

theorem quotient?_of_lt {n d k : ℕ} (hk : k < 1024) (h : (n / d : ℚ) < 2 ^ k) :
    quotient? n d = some (round (n / d)) := by
  refine if_pos ?_
  rcases (show (0 : ℚ) ≤ n / d by positivity).eq_or_lt with h0 | h0
  · rw [← h0, round_zero]
    exact pow_pos (by norm_num) _
  · calc round (n / d : ℚ) ≤ 2 * (n / d) := round_le_double h0
      _ < 2 * 2 ^ k := by linarith
      _ = 2 ^ (k + 1) := (pow_succ' 2 k).symm
      _ ≤ 2 ^ 1024 := pow_le_pow_right₀ (by norm_num) hk

end Binary64
