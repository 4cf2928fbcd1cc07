import Kunlun.Lib.Binary64
import Mathlib.Data.List.DropRight

/-!
# Numbers in decimal notation

A number that is not negative is printed with six significant digits, as C's `%g` does it, and
read back as the number that its digits say.
-/

namespace Decimal

abbrev isDigit (c : ℕ) : Bool := decide (48 ≤ c ∧ c ≤ 57)

/-- The number of a text of digits. -/
def natOf (s : List ℕ) : ℕ := s.foldl (fun n c => 10 * n + (c - 48)) 0

/-- The last `k` digits of a number. -/
def digits : ℕ → ℕ → List ℕ
  | 0, _ => []
  | k + 1, m => digits k (m / 10) ++ [48 + m % 10]

def dropZeros (s : List ℕ) : List ℕ := s.rdropWhile (· = 48)

/-- `k` digits before the point, which goes with the zeros at the end. -/
def pointed (k : ℕ) (s : List ℕ) : List ℕ :=
  match dropZeros (s.drop k) with
  | [] => s.take k
  | f => s.take k ++ 46 :: f

/-- The six digits of a positive number, and the exponent of the first. -/
def significand (q : ℚ) : ℕ × ℤ :=
  let e := Int.log 10 q
  let m := (Binary64.roundEven (q / 10 ^ (e - 5))).toNat
  if m = 1000000 then (100000, e + 1) else (m, e)

def exponentText (e : ℤ) : List ℕ :=
  [101, if e < 0 then 45 else 43] ++ digits (if e.natAbs < 100 then 2 else 3) e.natAbs

/-- `%g` -/
def format (q : ℚ) : List ℕ :=
  if q = 0 then [48]
  else
    let (m, e) := significand q
    if e < -4 ∨ 6 ≤ e then pointed 1 (digits 6 m) ++ exponentText e
    else if e < 0 then pointed 1 (List.replicate (-e).toNat 48 ++ digits 6 m)
    else pointed (e + 1).toNat (digits 6 m)

/-- With a sign before a negative number. -/
def formatSigned (q : ℚ) : List ℕ := if q < 0 then 45 :: format (-q) else format q

/-! ## Reading -/

/-- `digits[.digits]` -/
def readPointed? (s : List ℕ) : Option ℚ :=
  let i := s.takeWhile isDigit
  match s.dropWhile isDigit with
  | [] => if i = [] then none else some (natOf i : ℚ)
  | 46 :: f =>
    if i ≠ [] ∧ f ≠ [] ∧ f.all isDigit then some ((natOf (i ++ f) : ℚ) / 10 ^ f.length) else none
  | _ => none

def readExponent? (s : List ℕ) : Option ℤ :=
  match s with
  | [] => some 0
  | 101 :: 43 :: ds => if ds ≠ [] ∧ ds.all isDigit then some (natOf ds) else none
  | 101 :: 45 :: ds => if ds ≠ [] ∧ ds.all isDigit then some (-natOf ds) else none
  | _ => none

/-- `digits[.digits][e±digits]` -/
def read? (s : List ℕ) : Option ℚ := do
  let m ← readPointed? (s.takeWhile (· ≠ 101))
  let e ← readExponent? (s.dropWhile (· ≠ 101))
  return m * 10 ^ e

/-! ## Digits -/

theorem natOf_foldl (s : List ℕ) (n : ℕ) : s.foldl (fun n c => 10 * n + (c - 48)) n = n * 10
    ^ s.length + natOf s := by
  unfold natOf
  induction s generalizing n with
  | nil => simp
  | cons c s ih =>
    rw [List.foldl_cons, List.foldl_cons, ih, ih (10 * 0 + (c - 48)), List.length_cons]
    ring

theorem natOf_append (s t : List ℕ) : natOf (s ++ t) = natOf s * 10 ^ t.length + natOf t := by
  rw [natOf, List.foldl_append]
  exact natOf_foldl t _

@[simp]
theorem length_digits (k m : ℕ) : (digits k m).length = k := by
  induction k generalizing m with
  | zero => rfl
  | succ k ih => rw [digits, List.length_append, ih, List.length_singleton]

theorem natOf_digits (k m : ℕ) : natOf (digits k m) = m % 10 ^ k := by
  induction k generalizing m with
  | zero =>
    rw [pow_zero, Nat.mod_one]
    rfl
  | succ k ih =>
    have hlast : natOf [48 + m % 10] = m % 10 := by simp [natOf]
    rw [digits, natOf_append, ih, hlast, List.length_singleton, pow_one, pow_succ', Nat.mod_mul]
    ring

theorem isDigit_digits (k m : ℕ) : ∀ c ∈ digits k m, isDigit c := by
  induction k generalizing m with
  | zero => exact nofun
  | succ k ih =>
    intro c hc
    rcases List.mem_append.1 hc with hc | hc
    · exact ih _ c hc
    · rw [List.mem_singleton.1 hc]
      exact decide_eq_true (by omega)

/-- The digits behind a point. -/
def fraction (s : List ℕ) : ℚ := natOf s / 10 ^ s.length

theorem natOf_append_div (s t : List ℕ) : (natOf (s ++ t) / 10 ^ t.length : ℚ) =
    natOf s + fraction t := by
  rw [natOf_append, fraction]
  push_cast
  field_simp

theorem fraction_dropZeros (s : List ℕ) : fraction (dropZeros s) = fraction s := by
  unfold dropZeros
  induction s using List.reverseRecOn with
  | nil => rfl
  | append_singleton s c ih =>
    by_cases hc : c = 48
    · rw [List.rdropWhile_concat_pos (fun c => decide (c = 48)) _ _ (decide_eq_true hc), ih, hc,
        fraction, fraction, natOf_append]
      have hzero : natOf [48] = 0 := rfl
      rw [hzero, List.length_append, List.length_singleton, pow_succ]
      push_cast
      field_simp
      ring
    · rw [List.rdropWhile_concat_neg]
      simpa using hc

theorem mem_of_mem_dropZeros {s : List ℕ} {c : ℕ} (h : c ∈ dropZeros s) : c ∈ s :=
  (List.rdropWhile_prefix _ _).subset h

/-! ## What is printed is read -/

section Pointed

variable {k : ℕ} {s : List ℕ} (hdigits : ∀ c ∈ s, isDigit c)

include hdigits

theorem readPointed?_pointed (hk : 1 ≤ k) (hlength : k ≤ s.length) :
    readPointed? (pointed k s) = some ((natOf s : ℚ) / 10 ^ (s.length - k)) := by
  have hhead : ∀ c ∈ s.take k, isDigit c := fun c hc => hdigits c (List.mem_of_mem_take hc)
  have hne : s.take k ≠ [] := by
    refine List.ne_nil_of_length_pos ?_
    rw [List.length_take]
    omega
  have hvalue : (natOf s / 10 ^ (s.length - k) : ℚ) = natOf (s.take k) + fraction (s.drop k) := by
    rw [← natOf_append_div, List.take_append_drop, List.length_drop]
  rw [hvalue, ← fraction_dropZeros]
  unfold pointed
  cases hf : dropZeros (s.drop k) with
  | nil =>
    have hzero : fraction [] = 0 := by simp [fraction, natOf]
    simp only [readPointed?, List.takeWhile_eq_self_iff.2 hhead, List.dropWhile_eq_nil_iff.2 hhead,
      if_neg hne, hzero, add_zero]
  | cons c f =>
    have hpoint : ¬ isDigit 46 := by decide
    have htake : (s.take k ++ 46 :: c :: f).takeWhile isDigit = s.take k := by
      rw [List.takeWhile_append_of_pos hhead, List.takeWhile_cons_of_neg hpoint, List.append_nil]
    have hdrop : (s.take k ++ 46 :: c :: f).dropWhile isDigit = 46 :: c :: f := by
      rw [List.dropWhile_append_of_pos hhead, List.dropWhile_cons_of_neg hpoint]
    have hrest : (c :: f).all isDigit := by
      rw [List.all_eq_true, ← hf]
      exact fun x hx => hdigits x (List.mem_of_mem_drop (mem_of_mem_dropZeros hx))
    rw [← natOf_append_div]
    dsimp only
    simp only [readPointed?, htake, hdrop]
    rw [if_pos ⟨hne, List.cons_ne_nil _ _, hrest⟩]

theorem pointed_no_exponent : ∀ c ∈ pointed k s, decide (c ≠ 101) = true := by
  have hdigit {c : ℕ} (hc : c ∈ s) : decide (c ≠ 101) = true := by
    have h := of_decide_eq_true (hdigits c hc)
    exact decide_eq_true (by omega)
  unfold pointed
  intro c hc
  split at hc
  · exact hdigit (List.mem_of_mem_take hc)
  · rename_i f hf
    rcases List.mem_append.1 hc with hc | hc
    · exact hdigit (List.mem_of_mem_take hc)
    · rcases List.mem_cons.1 hc with rfl | hc
      · decide
      · exact hdigit (List.mem_of_mem_drop (mem_of_mem_dropZeros hc))

theorem read?_pointed (hk : 1 ≤ k) (hlength : k ≤ s.length) {tail : List ℕ} {e : ℤ}
    (hhead : tail.head? = none ∨ tail.head? = some 101) (htail : readExponent? tail = some e) :
    read? (pointed k s ++ tail) = some ((natOf s : ℚ) / 10 ^ (s.length - k) * 10 ^ e) := by
  have hstop : tail.takeWhile (fun c => decide (c ≠ 101)) = [] ∧
      tail.dropWhile (fun c => decide (c ≠ 101)) = tail := by
    cases tail with
    | nil => exact ⟨rfl, rfl⟩
    | cons c tail =>
      have hc : c = 101 := by simpa using hhead
      rw [hc]
      exact ⟨List.takeWhile_cons_of_neg (by decide), List.dropWhile_cons_of_neg (by decide)⟩
  have hall := pointed_no_exponent (k := k) hdigits
  unfold read?
  rw [List.takeWhile_append_of_pos hall, List.dropWhile_append_of_pos hall, hstop.1, hstop.2,
    List.append_nil, readPointed?_pointed hdigits hk hlength, htail]
  rfl

end Pointed

theorem readExponent?_exponentText {e : ℤ} (h : e.natAbs < 1000) :
    readExponent? (exponentText e) = some e := by
  have hwidth {k : ℕ} (hk : 0 < k) (hlt : e.natAbs < 10 ^ k) :
      digits k e.natAbs ≠ [] ∧ (digits k e.natAbs).all isDigit ∧
      natOf (digits k e.natAbs) = e.natAbs := by
    refine ⟨List.ne_nil_of_length_pos (by rw [length_digits]; exact hk),
      List.all_eq_true.2 (isDigit_digits _ _), ?_⟩
    rw [natOf_digits, Nat.mod_eq_of_lt hlt]
  obtain ⟨hne, hall, hvalue⟩ :=
    hwidth (k := if e.natAbs < 100 then 2 else 3) (by split_ifs <;> decide)
    (by split_ifs <;> omega)
  unfold exponentText
  rw [List.cons_append, List.cons_append, List.nil_append]
  split_ifs at hne hall hvalue ⊢ with hneg hsmall
  all_goals
    simp only [readExponent?]
    rw [if_pos ⟨hne, hall⟩, hvalue]
    congr 1
    omega

/-- `%g` has six digits. -/
def sixDigits (q : ℚ) : ℚ := (significand q).1 * 10 ^ ((significand q).2 - 5)

section Format

variable {q : ℚ}

theorem roundEven_scaled_le (q : ℚ) :
    Binary64.roundEven (q / 10 ^ (Int.log 10 q - 5)) ≤ 1000000 := by
  have hlt : q < (10 : ℚ) ^ (Int.log 10 q + 1) := Int.lt_zpow_succ_log_self (by norm_num) q
  have hsplit : (10 : ℚ) ^ (Int.log 10 q + 1) = 1000000 * 10 ^ (Int.log 10 q - 5) := by
    have hexp : Int.log 10 q + 1 = 6 + (Int.log 10 q - 5) := by ring
    rw [hexp, zpow_add₀ (by norm_num)]
    norm_num
  have hle : q / 10 ^ (Int.log 10 q - 5) ≤ ((1000000 : ℤ) : ℚ) := by
    rw [div_le_iff₀ (zpow_pos (by norm_num) _)]
    rw [hsplit] at hlt
    exact_mod_cast hlt.le
  calc Binary64.roundEven (q / 10 ^ (Int.log 10 q - 5))
    _ ≤ Binary64.roundEven ((1000000 : ℤ) : ℚ) := Binary64.roundEven_mono hle
    _ = 1000000 := Binary64.roundEven_intCast _

theorem significand_lt (q : ℚ) : (significand q).1 < 1000000 := by
  have hle := roundEven_scaled_le q
  unfold significand
  dsimp only
  split_ifs with hcarry
  · exact show 100000 < 1000000 by decide
  · dsimp only
    omega

variable (hq : 0 < q)

include hq

/-- A carry changes the digits, and not the number. -/
theorem sixDigits_eq : sixDigits q = Binary64.roundEven (q / 10 ^ (Int.log 10 q - 5)) * 10
    ^ (Int.log 10 q - 5) := by
  have hnonneg : 0 ≤ Binary64.roundEven (q / 10 ^ (Int.log 10 q - 5)) :=
    Binary64.roundEven_nonneg (div_nonneg hq.le (zpow_pos (by norm_num) _).le)
  unfold sixDigits significand
  dsimp only
  split_ifs with hcarry
  · have hround : Binary64.roundEven (q / 10 ^ (Int.log 10 q - 5)) = 1000000 := by omega
    have hexp : Int.log 10 q + 1 - 5 = 1 + (Int.log 10 q - 5) := by ring
    rw [hround, hexp, zpow_add₀ (by norm_num)]
    push_cast
    ring
  · have hcast : (((Binary64.roundEven (q / 10 ^ (Int.log 10 q - 5))).toNat : ℤ) : ℚ) =
        Binary64.roundEven (q / 10 ^ (Int.log 10 q - 5)) := by rw [Int.toNat_of_nonneg hnonneg]
    exact congrArg (· * (10 : ℚ) ^ (Int.log 10 q - 5)) (by exact_mod_cast hcast)

/-- What is printed of a number is read as the number of its six digits. -/
theorem read?_format (hsmall : (significand q).2.natAbs < 1000) :
    read? (format q) = some (sixDigits q) := by
  have hlt := significand_lt q
  unfold format sixDigits
  rw [if_neg hq.ne']
  generalize significand q = p at hlt hsmall ⊢
  obtain ⟨m, e⟩ := p
  dsimp only at hlt hsmall ⊢
  have hvalue : natOf (digits 6 m) = m := by
    rw [natOf_digits]
    exact Nat.mod_eq_of_lt hlt
  have hdigits := isDigit_digits 6 m
  have hpow (k : ℕ) (j : ℤ) (hj : e - 5 = j - k) :
      (m : ℚ) / 10 ^ k * 10 ^ j = m * 10 ^ (e - 5) := by
    rw [hj, zpow_sub₀ (by norm_num), zpow_natCast]
    ring
  split_ifs with hscientific hneg
  · rw [read?_pointed hdigits (by decide) (by rw [length_digits]; decide) (.inr rfl)
      (readExponent?_exponentText hsmall), hvalue, length_digits, hpow 5 e rfl]
  · have hzeros : ∀ c ∈ List.replicate (-e).toNat 48 ++ digits 6 m, isDigit c := by
      intro c hc
      rcases List.mem_append.1 hc with hc | hc
      · rw [List.eq_of_mem_replicate hc]
        decide
      · exact hdigits c hc
    have hlead : natOf (List.replicate (-e).toNat 48) = 0 := by
      induction (-e).toNat with
      | zero => rfl
      | succ n ih =>
        rw [List.replicate_succ', natOf_append, ih]
        rfl
    have hread := read?_pointed (k := 1) hzeros le_rfl
      (by rw [List.length_append, length_digits]; omega) (.inl rfl)
      (show readExponent? [] = some 0 from rfl)
    rw [List.append_nil] at hread
    rw [hread, natOf_append, hlead, hvalue, List.length_append, List.length_replicate,
      length_digits, Nat.zero_mul, Nat.zero_add, hpow _ 0 (by omega)]
  · have hread := read?_pointed (k := (e + 1).toNat) hdigits (by omega)
      (by rw [length_digits]; omega) (.inl rfl)
      (show readExponent? [] = some 0 from rfl)
    rw [List.append_nil] at hread
    rw [hread, hvalue, length_digits, hpow _ 0 (by omega)]

end Format

/-! ## Natural numbers -/

/-- The number ends with as many zeros as it has digits beyond six. -/
def ShortNat (n : ℕ) : Prop := 10 ^ (Nat.log 10 n - 5) ∣ n

instance (n : ℕ) : Decidable (ShortNat n) := inferInstanceAs (Decidable (_ ∣ _))

theorem log_natCast (n : ℕ) : Int.log 10 (n : ℚ) = Nat.log 10 n := Int.log_natCast 10 n

theorem sixDigits_nat_iff {n : ℕ} (hn : 0 < n) : sixDigits n = n ↔ ShortNat n := by
  have hq : (0 : ℚ) < n := by exact_mod_cast hn
  rw [sixDigits_eq hq, log_natCast, ShortNat]
  rcases le_or_gt (Nat.log 10 n) 5 with hle | hgt
  · -- the scaled number is an integer
    obtain ⟨j, hj⟩ := Nat.exists_eq_add_of_le hle
    have hexp : (Nat.log 10 n : ℤ) - 5 = -(j : ℤ) := by omega
    have hscaled : (n : ℚ) / 10 ^ (-(j : ℤ)) = ((n * 10 ^ j : ℕ) : ℤ) := by
      rw [zpow_neg, div_inv_eq_mul, zpow_natCast]
      push_cast
      rfl
    have hone : Nat.log 10 n - 5 = 0 := by omega
    rw [hexp, hscaled, Binary64.roundEven_intCast, hone, pow_zero]
    refine iff_of_true ?_ (one_dvd n)
    rw [zpow_neg, zpow_natCast]
    push_cast
    field_simp
  · obtain ⟨k, hk⟩ := Nat.exists_eq_add_of_le hgt.le
    have hexp : (Nat.log 10 n : ℤ) - 5 = k := by omega
    have hsub : Nat.log 10 n - 5 = k := by omega
    rw [hexp, hsub, zpow_natCast]
    constructor
    · intro h
      have hint : Binary64.roundEven ((n : ℚ) / 10 ^ k) * 10 ^ k = (n : ℤ) := by exact_mod_cast h
      have hdvd : ((10 ^ k : ℕ) : ℤ) ∣ (n : ℤ) := by
        rw [← hint]
        push_cast
        exact dvd_mul_left _ _
      exact Int.natCast_dvd_natCast.1 hdvd
    · rintro ⟨c, hc⟩
      have hscaled : (n : ℚ) / 10 ^ k = (c : ℤ) := by
        rw [hc]
        push_cast
        field_simp
      rw [hscaled, Binary64.roundEven_intCast, hc]
      push_cast
      ring

theorem read?_format_nat_iff {n : ℕ} (h : n < 10 ^ 100) :
    read? (format n) = some (n : ℚ) ↔ ShortNat n := by
  rcases Nat.eq_zero_or_pos n with rfl | hn
  · have hzero : read? (format ((0 : ℕ) : ℚ)) = some ((0 : ℕ) : ℚ) := by
      rw [format, if_pos Nat.cast_zero]
      simp [read?, readPointed?, readExponent?, natOf]
    exact iff_of_true hzero (dvd_zero _)
  · have hq : (0 : ℚ) < n := by exact_mod_cast hn
    have hlog : Nat.log 10 n < 100 := Nat.log_lt_of_lt_pow hn.ne' h
    have hsmall : (significand n).2.natAbs < 1000 := by
      unfold significand
      rw [log_natCast]
      dsimp only
      split_ifs
      · dsimp only
        omega
      · dsimp only
        omega
    rw [read?_format hq hsmall, Option.some.injEq, sixDigits_nat_iff hn]

/-! ## The characters -/

theorem le_of_mem_pointed {k : ℕ} {s : List ℕ} (h : ∀ c ∈ s, 43 ≤ c) :
    ∀ c ∈ pointed k s, 43 ≤ c := by
  intro c hc
  unfold pointed at hc
  split at hc
  · exact h c (List.mem_of_mem_take hc)
  · rename_i f hf
    rcases List.mem_append.1 hc with hc | hc
    · exact h c (List.mem_of_mem_take hc)
    · rcases List.mem_cons.1 hc with rfl | hc
      · decide
      · exact h c (List.mem_of_mem_drop (mem_of_mem_dropZeros hc))

theorem le_of_mem_digits {k m : ℕ} : ∀ c ∈ digits k m, 43 ≤ c := by
  intro c hc
  have hdigit := of_decide_eq_true (isDigit_digits k m c hc)
  omega

theorem le_of_mem_format (q : ℚ) : ∀ c ∈ format q, 43 ≤ c := by
  have hzero : ∀ c ∈ [48], 43 ≤ c := by decide
  have hexponent (e : ℤ) : ∀ c ∈ exponentText e, 43 ≤ c := by
    refine List.forall_mem_append.2 ⟨?_, le_of_mem_digits⟩
    split_ifs <;> decide
  unfold format
  split_ifs
  · exact hzero
  · split
    split_ifs
    · exact List.forall_mem_append.2 ⟨le_of_mem_pointed le_of_mem_digits, hexponent _⟩
    · refine le_of_mem_pointed (List.forall_mem_append.2 ⟨fun c hc => ?_, le_of_mem_digits⟩)
      rw [List.eq_of_mem_replicate hc]
      decide
    · exact le_of_mem_pointed le_of_mem_digits

end Decimal
