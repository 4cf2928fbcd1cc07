import Mathlib.Tactic.Common

/-!
# Walks in a tree

A walk starts at a place, which is the list of the names from the root. A word is a name to
go down to, or goes up, which at the root does nothing, or stays.
-/

namespace Walk

inductive Turn where
  | down | up | stay
  deriving DecidableEq

variable {α : Type} (turn : α → Turn)

def step (place : List α) (word : α) : List α :=
  match turn word with
  | .down => place ++ [word]
  | .up => place.dropLast
  | .stay => place

/-- The place behind a walk. -/
def walk (place : List α) (words : List α) : List α := words.foldl (step turn) place

def downs (words : List α) : Nat := words.countP fun w => turn w = .down

def ups (words : List α) : Nat := words.countP fun w => turn w = .up

/-- Having gone down, the walk is back at the root at some time, or it would be above it. -/
def Climbs (words : List α) : Prop := ∃ ws, ws <+: words ∧ 0 < downs turn ws ∧
    downs turn ws ≤ ups turn ws

variable {turn} {place below words : List α} {word : α}

@[simp]
theorem walk_nil : walk turn place [] = place := rfl

theorem walk_cons : walk turn place (word :: words) = walk turn (step turn place word) words := rfl

theorem downs_cons : downs turn (word :: words) = downs turn words +
    (if turn word = .down then 1 else 0) := by
  unfold downs
  rw [List.countP_cons]
  simp

theorem ups_cons : ups turn (word :: words) = ups turn words +
    (if turn word = .up then 1 else 0) := by
  unfold ups
  rw [List.countP_cons]
  simp

/-- A walk that never goes up more often than it can does not leave the place it starts below. -/
theorem prefix_walk (h : ∀ ws, ws <+: words → ups turn ws ≤ downs turn ws + below.length) :
    place <+: walk turn (place ++ below) words := by
  induction words generalizing below with
  | nil => exact List.prefix_append place below
  | cons word words ih =>
    have hword := h [word] ⟨words, rfl⟩
    rw [walk_cons]
    cases hturn : turn word with
    | down =>
      have hstep : step turn (place ++ below) word = place ++ (below ++ [word]) := by
        simp [step, hturn]
      rw [hstep]
      refine ih fun ws hws => ?_
      have := h (word :: ws) ((List.prefix_cons_inj word).2 hws)
      rw [downs_cons, ups_cons, hturn] at this
      simp at this ⊢
      omega
    | up =>
      rw [downs_cons, ups_cons, hturn] at hword
      simp [downs, ups] at hword
      have hne : below ≠ [] := by
        rintro rfl
        simp at hword
      have hstep : step turn (place ++ below) word = place ++ below.dropLast := by
        simp [step, hturn, List.dropLast_append_of_ne_nil hne]
      rw [hstep]
      refine ih fun ws hws => ?_
      have := h (word :: ws) ((List.prefix_cons_inj word).2 hws)
      rw [downs_cons, ups_cons, hturn] at this
      simp at this ⊢
      omega
    | stay =>
      have hstep : step turn (place ++ below) word = place ++ below := by
        simp [step, hturn]
      rw [hstep]
      refine ih fun ws hws => ?_
      have := h (word :: ws) ((List.prefix_cons_inj word).2 hws)
      rw [downs_cons, ups_cons, hturn] at this
      simpa using this

theorem head_walk (hdown : turn word = .down) (h : ¬ Climbs turn (word :: words)) :
    (walk turn [] (word :: words)).head? = some word := by
  have hstep : step turn [] word = [word] ++ [] := by
    simp [step, hdown]
  rw [walk_cons, hstep]
  have hbelow : [word] <+: walk turn ([word] ++ []) words := prefix_walk fun ws hws => by
    have hclimbs : ¬ (0 < downs turn (word :: ws) ∧ downs turn (word :: ws) ≤ ups turn
      (word :: ws)) := fun hc =>
      h ⟨word :: ws, (List.prefix_cons_inj word).2 hws, hc⟩
    rw [downs_cons, ups_cons, hdown] at hclimbs
    simp at hclimbs ⊢
    omega
  obtain ⟨rest, hrest⟩ := hbelow
  rw [← hrest]
  rfl

theorem climbs_stay (hstay : turn word = .stay) :
    Climbs turn (word :: words) ↔ Climbs turn words := by
  constructor
  · rintro ⟨ws, hws, hdowns, hups⟩
    rcases List.prefix_cons_iff.1 hws with rfl | ⟨ws', rfl, hws'⟩
    · simp [downs] at hdowns
    · rw [downs_cons, ups_cons, hstay] at hups
      rw [downs_cons, hstay] at hdowns
      exact ⟨ws', hws', by simpa using hdowns, by simpa using hups⟩
  · rintro ⟨ws, hws, hdowns, hups⟩
    refine ⟨word :: ws, (List.prefix_cons_inj word).2 hws, ?_, ?_⟩
    · rw [downs_cons, hstay]
      simpa using hdowns
    · rw [downs_cons, ups_cons, hstay]
      simpa using hups

end Walk
