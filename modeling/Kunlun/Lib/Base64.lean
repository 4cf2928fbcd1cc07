import Mathlib.Tactic.Common
import Mathlib.Data.List.Basic

/-!
# Base64 with the URL alphabet

Octets are read as six-bit groups, the last of them filled with zero bits, and every group is
written as one character. No padding is written, and what is read is padded to groups of four.
The reader is a strict one, yet any number of pads may follow groups that are complete.
-/

namespace Base64

/-- Three octets make four groups. -/
def sextets : List Nat → List Nat
  | [] => []
  | [a] => [a / 4, a % 4 * 16]
  | [a, b] => [a / 4, a % 4 * 16 + b / 16, b % 16 * 4]
  | a :: b :: c :: rest => [a / 4, a % 4 * 16 + b / 16, b % 16 * 4 + c / 64, c % 64] ++ sextets rest

/-- The character of a group: `A` to `Z`, `a` to `z`, `0` to `9`, `-` and `_`. -/
def digit (n : Nat) : Nat :=
  if n < 26 then 65 + n
  else if n < 52 then 71 + n
  else if n < 62 then n - 4
  else if n = 62 then 45
  else 95

def encode (octets : List Nat) : List Nat := (sextets octets).map digit

/-- The group of a character, also of the `+` and `/` that the standard alphabet has for `-` and
`_`. -/
def value? (c : Nat) : Option Nat :=
  if 65 ≤ c ∧ c ≤ 90 then some (c - 65)
  else if 97 ≤ c ∧ c ≤ 122 then some (c - 71)
  else if 48 ≤ c ∧ c ≤ 57 then some (c + 4)
  else if c = 45 ∨ c = 43 then some 62
  else if c = 95 ∨ c = 47 then some 63
  else none

/-- What a text of this length lacks to groups of four. -/
def padding (length : Nat) : List Nat := List.replicate ((4 - length % 4) % 4) 61

/-- The octets of padded groups of four. The bits that fill the last group are not looked at, and
the pads after a complete group are not counted. -/
def decode : List Nat → Option (List Nat)
  | [] => some []
  | [a, b, 61, 61] => do
    let x ← value? a
    let y ← value? b
    return [x * 4 + y / 16]
  | [a, b, c, 61] => do
    let x ← value? a
    let y ← value? b
    let z ← value? c
    return [x * 4 + y / 16, y % 16 * 16 + z / 4]
  | a :: b :: c :: d :: rest => do
    let x ← value? a
    let y ← value? b
    let z ← value? c
    let w ← value? d
    let group := [x * 4 + y / 16, y % 16 * 16 + z / 4, z % 4 * 64 + w]
    if rest.all (· == 61) then some group else (decode rest).map (group ++ ·)
  | _ => none

/-- Excess pads are read after complete groups only. -/
example : decode (padding 3 ++ padding 3) = none ∧ decode [65, 65, 65, 65, 61] = some [0, 0, 0]
    ∧ decode [65, 65, 65, 61, 61] = none ∧ decode [65, 65, 65, 65, 61, 65] = none := by decide

theorem length_sextets (octets : List Nat) :
    (sextets octets).length = (4 * octets.length + 2) / 3 := by
  fun_induction sextets octets with
  | case1 => rfl
  | case2 a => simp
  | case3 a b => simp
  | case4 a b c rest ih =>
    simp only [List.length_append, List.length_cons, List.length_nil, ih]
    omega

theorem length_encode (octets : List Nat) :
    (encode octets).length = (4 * octets.length + 2) / 3 := by
  rw [encode, List.length_map, length_sextets]

/-- A character of the alphabet. -/
def IsDigit (c : Nat) : Prop := 48 ≤ c ∧ c ≤ 57 ∨ 65 ≤ c ∧ c ≤ 90 ∨ 97 ≤ c ∧
    c ≤ 122 ∨ c = 45 ∨ c = 95

theorem isDigit_digit (n : Nat) : IsDigit (digit n) := by
  unfold IsDigit digit
  split_ifs <;> omega

theorem isDigit_of_mem {octets : List Nat} {c : Nat} (h : c ∈ encode octets) : IsDigit c := by
  obtain ⟨n, -, rfl⟩ := List.mem_map.1 h
  exact isDigit_digit n

theorem digit_ne_pad (n : Nat) : digit n ≠ 61 := by
  have h := isDigit_digit n
  unfold IsDigit at h
  omega

theorem value?_digit {n : Nat} (h : n < 64) : value? (digit n) = some n := by
  unfold value? digit
  split_ifs <;> first | omega | (congr 1; omega)

/-- Between groups, what does not begin with a pad is read as a text of its own. -/
theorem decode_rest (group : List Nat) {text : List Nat} (h : text.head? ≠ some 61) :
    (if text.all (· == 61) then some group else (decode text).map (group ++ ·))
      = (decode text).map (group ++ ·) := by
  cases text with
  | nil => simp [decode]
  | cons c rest =>
    have hc : (c == 61) = false := by simpa using h
    rw [List.all_cons, hc, Bool.false_and, if_neg Bool.false_ne_true]

theorem head?_encode (octets : List Nat) :
    ((sextets octets).map digit ++ padding ((4 * octets.length + 2) / 3)).head? ≠ some 61 := by
  fun_cases sextets octets with
  | case1 => decide
  | case2 a => simpa using digit_ne_pad _
  | case3 a b => simpa using digit_ne_pad _
  | case4 a b c rest => simpa using digit_ne_pad _

theorem decode_encode {octets : List Nat} (h : ∀ x ∈ octets, x < 256) :
    decode (encode octets ++ padding (encode octets).length) = some octets := by
  rw [length_encode]
  unfold encode
  fun_induction sextets octets with
  | case1 => rfl
  | case2 a =>
    have ha : a < 256 := h a (by simp)
    have hx := value?_digit (show a / 4 < 64 by omega)
    have hy := value?_digit (show a % 4 * 16 < 64 by omega)
    have hpad : padding ((4 * [a].length + 2) / 3) = [61, 61] := by simp [padding, List.replicate]
    rw [hpad]
    simp only [List.map_cons, List.map_nil, List.cons_append, List.nil_append, decode, hx, hy,
      Option.bind_eq_bind, Option.bind_some, Option.pure_def, Option.some.injEq, List.cons.injEq,
      and_true]
    omega
  | case3 a b =>
    have ha : a < 256 := h a (by simp)
    have hb : b < 256 := h b (by simp)
    have hx := value?_digit (show a / 4 < 64 by omega)
    have hy := value?_digit (show a % 4 * 16 + b / 16 < 64 by omega)
    have hz := value?_digit (show b % 16 * 4 < 64 by omega)
    have hpad : padding ((4 * [a, b].length + 2) / 3) = [61] := by simp [padding]
    rw [hpad, List.map_cons, List.map_cons, List.map_cons, List.map_nil, List.cons_append,
      List.cons_append, List.cons_append, List.nil_append, decode]
    · simp only [hx, hy, hz, Option.bind_eq_bind, Option.bind_some,
        Option.pure_def, Option.some.injEq, List.cons.injEq, and_true]
      omega
    · exact digit_ne_pad _
  | case4 a b c rest ih =>
    have ha : a < 256 := h a (by simp)
    have hb : b < 256 := h b (by simp)
    have hc : c < 256 := h c (by simp)
    have ih := ih fun x hx => h x (by simp [hx])
    have hx := value?_digit (show a / 4 < 64 by omega)
    have hy := value?_digit (show a % 4 * 16 + b / 16 < 64 by omega)
    have hz := value?_digit (show b % 16 * 4 + c / 64 < 64 by omega)
    have hw := value?_digit (show c % 64 < 64 by omega)
    have hpad : padding ((4 * (a :: b :: c :: rest).length + 2) / 3) = padding
        ((4 * rest.length + 2) / 3) := by
      have hlength : (4 * (a :: b :: c :: rest).length + 2) / 3 =
          (4 * rest.length + 2) / 3 + 4 := by
        simp only [List.length_cons]
        omega
      rw [hlength, padding, padding, Nat.add_mod_right]
    have hhead := head?_encode rest
    rw [hpad, List.map_append, List.append_assoc]
    generalize (sextets rest).map digit ++ padding ((4 * rest.length + 2) / 3) = text at ih hhead ⊢
    show decode (digit (a / 4) :: digit (a % 4 * 16 + b / 16) :: digit (b % 16 * 4 + c / 64) ::
      digit (c % 64) :: text) = _
    rw [decode]
    · simp only [hx, hy, hz, hw, Option.bind_eq_bind, Option.bind_some]
      rw [decode_rest _ hhead, ih]
      simp only [Option.map_some, Option.some.injEq, List.cons_append, List.nil_append,
        List.cons.injEq, and_true]
      omega
    · exact fun h _ _ => digit_ne_pad _ h
    · exact fun h _ => digit_ne_pad _ h

theorem digit_alphanumeric_iff (n : Nat) : digit n ≠ 45 ∧ digit n ≠ 95 ↔ n < 62 := by
  unfold digit
  split_ifs <;> omega

end Base64
