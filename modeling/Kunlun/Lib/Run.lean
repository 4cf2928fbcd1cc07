import Mathlib.Tactic.Common

/-!
# Runs of a step function

A run takes the actions of a list one after the other. An invariant that each step keeps is
kept by the whole run, also where the steps are only known to be allowed as they are taken.
-/

namespace Run

variable {S A : Type} (step : A → S → S)

/-- The state after the actions. -/
def after (s : S) (actions : List A) : S := actions.foldl (fun s a => step a s) s

/-- Each action is allowed in the state in which it is taken. -/
def Along (allowed : A → S → Prop) : S → List A → Prop
  | _, [] => True
  | s, a :: rest => allowed a s ∧ Along allowed (step a s) rest

@[simp]
theorem after_nil (s : S) : after step s [] = s := rfl

@[simp]
theorem after_cons (s : S) (a : A) (rest : List A) : after step s (a :: rest) = after step
    (step a s) rest := rfl

@[simp]
theorem after_append (s : S) (xs ys : List A) : after step s (xs ++ ys) = after step
    (after step s xs) ys := by
  simp [after]

/-- How many actions are taken where `p` holds of them. -/
def count (p : A → S → Bool) : S → List A → Nat
  | _, [] => 0
  | s, a :: rest => (p a s).toNat + count p (step a s) rest

instance decidableAlong (allowed : A → S → Prop) [∀ a s, Decidable (allowed a s)] :
    (s : S) → (actions : List A) → Decidable (Along step allowed s actions)
  | _, [] => isTrue trivial
  | s, a :: rest =>
    have := decidableAlong allowed (step a s) rest
    inferInstanceAs (Decidable (allowed a s ∧ Along step allowed (step a s) rest))

variable {step} {allowed : A → S → Prop}

@[simp]
theorem along_append (s : S) (xs ys : List A) :
    Along step allowed s (xs ++ ys) ↔ Along step allowed s xs ∧
    Along step allowed (after step s xs) ys := by
  induction xs generalizing s with
  | nil => simp [Along]
  | cons a xs ih => simp [Along, ih, and_assoc]

theorem along_of_forall (s : S) {actions : List A} (h : ∀ a ∈ actions, ∀ s, allowed a s) :
    Along step allowed s actions := by
  induction actions generalizing s with
  | nil => trivial
  | cons a rest ih => exact ⟨h a (.head _) s, ih _ fun b hb => h b (.tail _ hb)⟩

theorem along_mono {allowed' : A → S → Prop} (h : ∀ a s, allowed a s → allowed' a s)
    {s : S} {actions : List A}
    (ha : Along step allowed s actions) : Along step allowed' s actions := by
  induction actions generalizing s with
  | nil => trivial
  | cons a rest ih => exact ⟨h a s ha.1, ih ha.2⟩

/-- What every allowed step keeps, a run of allowed steps keeps. -/
theorem invariant {I : S → Prop} (keep : ∀ s a, I s → allowed a s → I (step a s)) {s : S} (h : I s)
    {actions : List A} (ha : Along step allowed s actions) : I (after step s actions) := by
  induction actions generalizing s with
  | nil => exact h
  | cons a rest ih => exact ih (keep s a h ha.1) ha.2

/-- What exactly the allowed steps keep, exactly the runs of allowed steps keep all along. -/
theorem always_iff {I P : S → Prop} (keep : ∀ s a, I s → I (step a s))
    (each : ∀ s a, I s → P s → (P (step a s) ↔ allowed a s)) {s : S} (hI : I s)
    (hP : P s) {actions : List A} :
    (∀ xs, xs <+: actions → P (after step s xs)) ↔ Along step allowed s actions := by
  induction actions generalizing s with
  | nil => exact ⟨fun _ => trivial, fun _ xs hxs => by rwa [List.prefix_nil.1 hxs]⟩
  | cons a rest ih =>
    constructor
    · intro h
      have hstep : P (step a s) := h [a] ⟨rest, rfl⟩
      refine ⟨(each s a hI hP).1 hstep, (ih (keep s a hI) hstep).1 fun xs hxs => ?_⟩
      exact h (a :: xs) ((List.prefix_cons_inj a).2 hxs)
    · intro h xs hxs
      have hstep : P (step a s) := (each s a hI hP).2 h.1
      rcases List.prefix_cons_iff.1 hxs with rfl | ⟨ys, rfl, hys⟩
      · exact hP
      · exact (ih (keep s a hI) hstep).2 h.2 ys hys

/-- What every allowed step does, a run of allowed steps does, when it chains. -/
theorem relates {R : S → S → Prop} (refl : ∀ s, R s s) (trans : ∀ s t u, R s t → R t u → R s u)
    (each : ∀ s a, allowed a s → R s (step a s)) {s : S} {actions : List A}
    (ha : Along step allowed s actions) : R s (after step s actions) := by
  induction actions generalizing s with
  | nil => exact refl s
  | cons a rest ih => exact trans _ _ _ (each s a ha.1) (ih ha.2)

/-- What leaves a state in which it does not happen again, which every allowed step keeps,
happens once. -/
theorem count_le_one {I Q : S → Prop} {p : A → S → Bool}
    (keep : ∀ s a, I s → allowed a s → I (step a s))
    (spends : ∀ s a, I s → allowed a s → p a s → Q (step a s))
    (once : ∀ s a, I s → allowed a s → Q s → p a s = false ∧ Q (step a s)) {s : S} (h : I s)
    {actions : List A} (ha : Along step allowed s actions) : count step p s actions ≤ 1 := by
  have none_left : ∀ actions s, I s → Along step allowed s actions → Q s →
      count step p s actions = 0 := by
    intro actions
    induction actions with
    | nil => intros; rfl
    | cons a rest ih =>
      intro s h ha hs
      obtain ⟨hp, hspent⟩ := once s a h ha.1 hs
      rw [count, hp, ih _ (keep s a h ha.1) ha.2 hspent]
      rfl
  induction actions generalizing s with
  | nil => exact Nat.zero_le 1
  | cons a rest ih =>
    unfold count
    have hI := keep s a h ha.1
    cases hp : p a s with
    | false => simpa using ih hI ha.2
    | true => simp [none_left rest _ hI ha.2 (spends s a h ha.1 hp)]

end Run
