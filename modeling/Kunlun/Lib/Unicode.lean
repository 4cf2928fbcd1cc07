import Mathlib.Tactic.Common

/-!
# Unicode text from octets

Three encodings, each read as a list of code points. A lone surrogate is a code point like
another, and what is cut short or out of range is no text.
-/

namespace Unicode

abbrev isTail (b : Nat) : Prop := 0x80 ≤ b ∧ b ≤ 0xBF

/-- A character is not written longer than it needs to be. -/
def utf8 : List Nat → Option (List Nat)
  | [] => some []
  | a :: rest =>
    if a < 0x80 then (utf8 rest).map (a :: ·)
    else match rest with
      | [] => none
      | b :: rest =>
        if 0xC2 ≤ a ∧ a ≤ 0xDF ∧ isTail b then
          (utf8 rest).map (((a - 0xC0) * 0x40 + (b - 0x80)) :: ·)
        else match rest with
          | [] => none
          | c :: rest =>
            if (a = 0xE0 ∧ 0xA0 ≤ b ∨ 0xE1 ≤ a ∧ a ≤ 0xEF) ∧ isTail b ∧ isTail c then
              (utf8 rest).map (((a - 0xE0) * 0x1000 + (b - 0x80) * 0x40 + (c - 0x80)) :: ·)
            else match rest with
              | [] => none
              | d :: rest =>
                if (a = 0xF0 ∧ 0x90 ≤ b ∨ 0xF1 ≤ a ∧ a ≤ 0xF3 ∨ a = 0xF4 ∧ b ≤ 0x8F) ∧ isTail b ∧
                  isTail c ∧ isTail d then
                  (utf8 rest).map
                    (((a - 0xF0) * 0x40000 + (b - 0x80) * 0x1000 + (c - 0x80) *
                      0x40 + (d - 0x80)) :: ·)
                else none

inductive Order where
  | big
  | little

/-- The units of UTF-16, two octets each. -/
def units (order : Order) : List Nat → Option (List Nat)
  | [] => some []
  | [_] => none
  | a :: b :: rest => (units order rest).map ((match order with
      | .big => 0x100 * a + b
      | .little => 0x100 * b + a) :: ·)

/-- A high surrogate and a low one are one character. -/
def pairs : List Nat → List Nat
  | [] => []
  | [u] => [u]
  | u :: v :: rest =>
    if 0xD800 ≤ u ∧ u < 0xDC00 ∧ 0xDC00 ≤ v ∧ v < 0xE000 then
      (0x10000 + (u - 0xD800) * 0x400 + (v - 0xDC00)) :: pairs rest
    else u :: pairs (v :: rest)

def utf16 (order : Order) (octets : List Nat) : Option (List Nat) := (units order octets).map pairs

def utf32 (order : Order) : List Nat → Option (List Nat)
  | [] => some []
  | a :: b :: c :: d :: rest =>
    let n := match order with
      | .big => 0x1000000 * a + 0x10000 * b + 0x100 * c + d
      | .little => 0x1000000 * d + 0x10000 * c + 0x100 * b + a
    if n < 0x110000 then (utf32 order rest).map (n :: ·) else none
  | _ => none

/-! ## The first character -/

theorem head?_utf8 {a : Nat} {rest text : List Nat} (ha : a < 0x80)
    (h : utf8 (a :: rest) = some text) :
    text.head? = some a := by
  rw [utf8.eq_def] at h
  dsimp only at h
  rw [if_pos ha] at h
  obtain ⟨tail, -, rfl⟩ := Option.map_eq_some_iff.1 h
  rfl

theorem head?_pairs {u : Nat} (hu : u < 0xD800) (rest : List Nat) :
    (pairs (u :: rest)).head? = some u := by
  cases rest with
  | nil => rfl
  | cons v rest =>
    rw [pairs, if_neg (by omega)]
    rfl

theorem head?_utf16_little {a : Nat} {rest text : List Nat} (ha : a < 0xD800)
    (h : utf16 .little (a :: 0 :: rest) = some text) : text.head? = some a := by
  obtain ⟨us, hus, rfl⟩ := Option.map_eq_some_iff.1 h
  obtain ⟨tail, -, rfl⟩ := Option.map_eq_some_iff.1 hus
  have hunit : 0x100 * 0 + a = a := by omega
  dsimp only
  rw [hunit]
  exact head?_pairs ha tail

theorem head?_utf32_little {a : Nat} {rest text : List Nat}
    (h : utf32 .little (a :: 0 :: 0 :: 0 :: rest) = some text) :
    text.head? = some a := by
  have hword : 0x1000000 * 0 + 0x10000 * 0 + 0x100 * 0 + a = a := by omega
  rw [utf32, hword] at h
  split_ifs at h with hlt
  obtain ⟨tail, -, rfl⟩ := Option.map_eq_some_iff.1 h
  rfl

end Unicode
