import Mathlib.Tactic.Common

/-!
# Lines, and what follows the last separator

A text is cut into the lines that its separators end and the rest. Text that arrives in
pieces has the same lines as the whole, when each piece is put behind the rest of the
pieces before it.
-/

namespace Lines

variable {α : Type} [DecidableEq α] (sep : α)

/-- The lines that end with a separator. -/
def ended (xs : List α) : List (List α) := (xs.splitOn sep).dropLast

/-- What follows the last separator. -/
def rest (xs : List α) : List α := (xs.splitOn sep).getLast (List.splitOn_ne_nil sep xs)

/-- Some line, or the rest, has more than `n` elements. -/
def Long (n : Nat) (xs : List α) : Prop := ∃ u ∈ xs.splitOn sep, n < u.length

instance (n : Nat) (xs : List α) : Decidable (Long sep n xs) := by
  unfold Long
  infer_instance

variable {sep} {xs ys l r : List α}

theorem ended_of_not_mem (h : sep ∉ xs) : ended sep xs = [] := by
  rw [ended, List.splitOn_eq_singleton h]
  rfl

theorem rest_of_not_mem (h : sep ∉ xs) : rest sep xs = xs := by
  simp [rest, List.splitOn_eq_singleton h]

theorem ended_cons (h : sep ∉ l) : ended sep (l ++ sep :: r) = l :: ended sep r := by
  rw [ended, List.splitOn_append_cons_self_of_not_mem h, List.dropLast_cons_of_ne_nil (by simp)]
  rfl

theorem rest_cons (h : sep ∉ l) : rest sep (l ++ sep :: r) = rest sep r := by
  simp only [rest, List.splitOn_append_cons_self_of_not_mem h]
  exact List.getLast_cons (by simp)

/-- A text has no separator, or begins with a line. -/
@[elab_as_elim]
theorem induction_line (sep : α) {motive : List α → Prop} (last : ∀ xs, sep ∉ xs → motive xs)
    (line : ∀ l r, sep ∉ l → motive r → motive (l ++ sep :: r)) (xs : List α) : motive xs := by
  induction hn : xs.length using Nat.strongRecOn generalizing xs with
  | ind n ih =>
    by_cases h : sep ∈ xs
    · obtain ⟨l, r, rfl, hl⟩ := List.eq_append_cons_of_mem h
      refine line l r hl (ih r.length ?_ r rfl)
      simp at hn
      omega
    · exact last xs h

theorem not_mem_rest (xs : List α) : sep ∉ rest sep xs := by
  induction xs using induction_line sep with
  | last xs h => rwa [rest_of_not_mem h]
  | line l r hl ih => rwa [rest_cons hl]

theorem ended_append (xs ys : List α) : ended sep (xs ++ ys) = ended sep xs ++ ended sep
    (rest sep xs ++ ys) := by
  induction xs using induction_line sep with
  | last xs h => rw [ended_of_not_mem h, rest_of_not_mem h, List.nil_append]
  | line l r hl ih =>
    rw [List.append_assoc, List.cons_append, ended_cons hl, ended_cons hl, rest_cons hl,
      ih, List.cons_append]

theorem rest_append (xs ys : List α) : rest sep (xs ++ ys) = rest sep (rest sep xs ++ ys) := by
  induction xs using induction_line sep with
  | last xs h => rw [rest_of_not_mem h]
  | line l r hl ih => rw [List.append_assoc, List.cons_append, rest_cons hl, rest_cons hl, ih]

theorem long_of_not_mem {n : Nat} (h : sep ∉ xs) : Long sep n xs ↔ n < xs.length := by
  simp [Long, List.splitOn_eq_singleton h]

theorem long_cons {n : Nat} (h : sep ∉ l) : Long sep n (l ++ sep :: r) ↔
    n < l.length ∨ Long sep n r := by
  simp [Long, List.splitOn_append_cons_self_of_not_mem h]

theorem long_of_append {n : Nat} (h : sep ∉ xs) (hlong : n < xs.length) :
    Long sep n (xs ++ ys) := by
  by_cases hy : sep ∈ ys
  · obtain ⟨l, r, rfl, hl⟩ := List.eq_append_cons_of_mem hy
    rw [← List.append_assoc, long_cons (by simp [h, hl])]
    exact .inl (by simp; omega)
  · rw [long_of_not_mem (by simp [h, hy])]
    simp
    omega

theorem long_append {n : Nat} (h : Long sep n (rest sep xs ++ ys)) : Long sep n (xs ++ ys) := by
  induction xs using induction_line sep with
  | last xs hx => rwa [rest_of_not_mem hx] at h
  | line l r hl ih =>
    rw [rest_cons hl] at h
    rw [List.append_assoc, List.cons_append, long_cons hl]
    exact .inr (ih h)

end Lines
