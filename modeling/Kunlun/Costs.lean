import Kunlun.Billing

/-!
# The cost of tokens

`token_cost` divides as floats, and takes the ceiling of what the division rounds to.
-/

namespace Kunlun

/-! ## Where the ceiling is exact -/

/-- The ceiling of `n / 1000000` survives the rounding of the quotient to 53 bits. Below 2^52
microUSD a rest is lost that is at most half a unit in the last place, and from 2^53 on the
ceiling itself must have 53 bits. -/
def CeilingKept (n : Nat) : Prop :=
  let whole := n / 1000000
  let rest := n % 1000000
  let bits := Nat.log2 whole
  if bits < 52 then rest = 0 ∨ 1000000 < rest * 2 ^ (53 - bits)
  else if bits = 52 then rest = 0 ∨ 1000000 < 2 * rest ∨ 2 * rest = 1000000 ∧ whole % 2 = 1
  else 2 ^ (bits - 52) ∣ if rest = 0 then whole else whole + 1

instance (n : Nat) : Decidable (CeilingKept n) := by
  unfold CeilingKept
  infer_instance

section Million

variable {n : Nat}

theorem floor_million (n : Nat) : ⌊(n / 1000000 : ℚ)⌋ = ((n / 1000000 : Nat) : ℤ) := by
  exact_mod_cast Rat.floor_natCast_div_natCast n 1000000

theorem fract_million (n : Nat) : Int.fract (n / 1000000 : ℚ) = (n % 1000000 : Nat) / 1000000 := by
  exact_mod_cast Int.fract_div_natCast_eq_div_natCast_mod (k := ℚ) (m := n) (n := 1000000)

theorem fract_million_eq_zero : Int.fract (n / 1000000 : ℚ) = 0 ↔ n % 1000000 = 0 := by
  rw [fract_million, div_eq_zero_iff]
  norm_num

theorem ceil_million (n : Nat) :
    ⌈(n / 1000000 : ℚ)⌉ = ((if n % 1000000 = 0 then n / 1000000
      else n / 1000000 + 1 : Nat) : ℤ) := by
  split
  · rename_i h
    have hf := fract_million_eq_zero.2 h
    rw [← Int.floor_add_fract (n / 1000000 : ℚ), hf, floor_million]
    simp
  · rename_i h
    rw [Binary64.ceil_of_fract (mt fract_million_eq_zero.1 h), floor_million]
    rfl

theorem ulp_million (h : 1 ≤ n / 1000000) :
    Binary64.ulpExponent (n / 1000000 : ℚ) = (Nat.log2 (n / 1000000) : ℤ) - 52 := by
  have h1 : (1 : ℚ) ≤ n / 1000000 := by
    rw [le_div_iff₀ (by norm_num)]
    exact_mod_cast (Nat.le_div_iff_mul_le (by norm_num)).1 h
  rw [Binary64.ulpExponent, Int.log_of_one_le_right 2 h1, Nat.log2_eq_log_two]
  rw [← Int.floor_toNat, floor_million, Int.toNat_natCast]

/-- A quotient below one is far from the half unit that is lost. -/
theorem ceil_round_of_lt_one {q : ℚ} (h0 : 0 < q) (h1 : q < 1) : ⌈Binary64.round q⌉ = ⌈q⌉ := by
  have hlog : Int.log 2 q < 0 := by
    rw [← Int.lt_zpow_iff_log_lt (by norm_num) h0]
    simpa using h1
  have hu : Binary64.ulpExponent q < 0 := by
    unfold Binary64.ulpExponent
    omega
  rw [Binary64.ceil_round_of_small hu, Int.fract_eq_self.2 ⟨h0.le, h1⟩]
  refine .inr (lt_of_lt_of_le ?_ (Binary64.log_le_self h0))
  apply zpow_lt_zpow_right₀ (by norm_num)
  unfold Binary64.ulpExponent
  omega

theorem half_ulp_lt_iff {bits : Nat} (h : bits < 52) : (2 : ℚ) ^ ((bits : ℤ) - 52 - 1) <
    (n % 1000000 : Nat) / 1000000 ↔
    1000000 < n % 1000000 * 2 ^ (53 - bits) := by
  have hexp : (2 : ℚ) ^ ((bits : ℤ) - 52 - 1) = 1 / 2 ^ (53 - bits) := by
    rw [one_div, ← zpow_natCast, ← zpow_neg]
    congr 1
    omega
  rw [hexp, div_lt_div_iff₀ (by positivity) (by norm_num), one_mul]
  exact_mod_cast Iff.rfl

theorem ceil_round_iff (n : Nat) :
    ⌈Binary64.round (n / 1000000 : ℚ)⌉ = ⌈(n / 1000000 : ℚ)⌉ ↔ CeilingKept n := by
  rcases Nat.eq_zero_or_pos (n / 1000000) with hw | hw
  · have hkept : CeilingKept n := by
      simp only [CeilingKept, hw]
      rw [if_pos (by decide)]
      rw [show Nat.log2 0 = 0 from by decide]
      omega
    refine ⟨fun _ => hkept, fun _ => ?_⟩
    rcases Nat.eq_zero_or_pos n with rfl | hn
    · simp [Binary64.round_zero]
    · apply ceil_round_of_lt_one (by positivity)
      rw [div_lt_one (by norm_num)]
      exact_mod_cast (Nat.div_eq_zero_iff_lt (by norm_num)).1 hw
  · have hulp := ulp_million hw
    unfold CeilingKept
    dsimp only
    split_ifs with h1 h2 h3
    · rw [Binary64.ceil_round_of_small (by omega), fract_million_eq_zero, hulp, fract_million,
        half_ulp_lt_iff h1]
    · have hlt : (1 / 2 : ℚ) < (n % 1000000 : Nat) / 1000000 ↔ 1000000 < 2 * (n % 1000000) := by
        rw [div_lt_div_iff₀ (by norm_num) (by norm_num), one_mul, mul_comm]
        exact_mod_cast Iff.rfl
      have heq : ((n % 1000000 : Nat) / 1000000 : ℚ) = 1 / 2 ↔ 2 * (n % 1000000) = 1000000 := by
        rw [div_eq_div_iff (by norm_num) (by norm_num), one_mul, mul_comm]
        exact_mod_cast Iff.rfl
      rw [Binary64.ceil_round_of_unit (by omega), fract_million_eq_zero, floor_million,
        fract_million, hlt, heq]
      exact_mod_cast Iff.rfl
    · rw [Binary64.ceil_round_of_large (n := Nat.log2 (n / 1000000) - 52) (by omega) (by omega),
        ceil_million, if_pos h3]
      exact_mod_cast Iff.rfl
    · rw [Binary64.ceil_round_of_large (n := Nat.log2 (n / 1000000) - 52) (by omega) (by omega),
        ceil_million, if_neg h3]
      exact_mod_cast Iff.rfl

end Million

/-! ## Costs -/

theorem ceilDiv_million {n : Nat} (h : n < 2 ^ 120) :
    ceilDiv n 1000000 = .ok ⌈(n / 1000000 : ℚ)⌉ ↔ CeilingKept n := by
  have hq : (n / 1000000 : ℚ) < 2 ^ 120 := by
    rw [div_lt_iff₀ (by norm_num)]
    have hn : (n : ℚ) < 2 ^ 120 := by exact_mod_cast h
    linarith
  unfold ceilDiv
  have hquot : Binary64.quotient? n 1000000 = some (Binary64.round (n / 1000000 : ℚ)) := by
    exact_mod_cast Binary64.quotient?_of_lt (k := 120) (d := 1000000) (by decide)
      (by exact_mod_cast hq)
  rw [hquot, ← ceil_round_iff]
  simp only [Except.ok.injEq]

/-- On the prices that the settings admit, the cost is the exact ceiling where the rounded
quotient keeps it. -/
theorem costs_exact {tokens price : Int} (ht : 0 ≤ tokens)
    (htokens : tokens < 2 ^ 63) (hp : 0 ≤ price)
    (hprice : price ≤ 1000000000000) :
    tokenCost tokens price = .ok ⌈(tokens * price / 1000000 : ℚ)⌉ ↔
    CeilingKept (tokens * price).toNat := by
  obtain ⟨n, hn⟩ := Int.eq_ofNat_of_zero_le (mul_nonneg ht hp)
  have hcast : (tokens * price : ℚ) = n := by exact_mod_cast hn
  have hlt : n < 2 ^ 120 := by
    have : tokens * price ≤ 2 ^ 63 * 1000000000000 := mul_le_mul htokens.le hprice hp (by norm_num)
    rw [hn] at this
    have h2 : (2 ^ 63 * 1000000000000 : ℤ) < 2 ^ 120 := by norm_num
    exact_mod_cast this.trans_lt h2
  rw [hcast, hn, Int.toNat_natCast, ← ceilDiv_million hlt]
  unfold tokenCost
  split
  · rename_i h
    have h0 : n = 0 := by
      rcases h with h | h
      · obtain rfl := le_antisymm h ht
        simpa using hn.symm
      · obtain rfl := le_antisymm h hp
        simpa using hn.symm
    simp [h0, (ceilDiv_million (n := 0) (by decide)).2 (by decide)]
  · rw [hn, Int.toNat_natCast]

/-- At 2^34 microUSD a rest of one millionth is lost. -/
theorem cost_short : tokenCost 17179869184000001 1 = .ok 17179869184 ∧
    ⌈((17179869184000001 : ℤ) * (1 : ℤ) / 1000000 : ℚ)⌉ = 17179869185 := by
  decide +kernel

theorem costs_exact_cheap : tokenCost 1500001 3 = .ok ⌈((1500001 : ℤ) * (3 : ℤ) / 1000000 : ℚ)⌉ :=
  (costs_exact (by decide) (by decide) (by decide) (by decide)).2 (by decide)

end Kunlun
