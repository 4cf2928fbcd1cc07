import Kunlun.Lib.Run
import Mathlib.Logic.Function.Basic
import Mathlib.Logic.Relation

/-!
# Who waits for whom

Transactions take locks on rows one after the other, keep them until they end, and wait while
another has a lock that excludes the next one. A lock is shared or exclusive.
-/

/-- A lock on a row: two locks exclude each other unless both are shared. -/
structure Lock (R : Type) where
  row : R
  exclusive : Bool
  deriving DecidableEq

namespace Lock

variable {R : Type}

def Excludes (a b : Lock R) : Prop := a.row = b.row ∧ (a.exclusive ∨ b.exclusive)

instance decidableExcludes [DecidableEq R] (a b : Lock R) : Decidable (a.Excludes b) := by
  unfold Excludes
  infer_instance

theorem Excludes.symm {a b : Lock R} (h : a.Excludes b) : b.Excludes a := ⟨h.1.symm, h.2.symm⟩

/-- The locks of two transactions that have come to hold them. -/
def Apart (xs ys : List (Lock R)) : Prop := ∀ a ∈ xs, ∀ b ∈ ys, ¬ a.Excludes b

theorem Apart.symm {xs ys : List (Lock R)} (h : Apart xs ys) : Apart ys xs :=
  fun a ha b hb hab => h b hb a ha hab.symm

end Lock

namespace Waits

variable {R : Type} {n : Nat}

/-- The locks that each transaction has, and those that it has yet to take. -/
structure State (R : Type) (n : Nat) where
  held : Fin n → List (Lock R)
  todo : Fin n → List (Lock R)

inductive Action (n : Nat) where
  /-- The next lock is taken, if no other transaction excludes it. -/
  | take (i : Fin n)
  /-- A commit, or a rollback at any time. -/
  | finish (i : Fin n)

def start (locks : Fin n → List (Lock R)) : State R n := ⟨fun _ => [], locks⟩

/-- No other transaction has a lock that excludes it. -/
def Free (i : Fin n) (a : Lock R) (s : State R n) : Prop :=
  ∀ j, j ≠ i → ∀ b ∈ s.held j, ¬ a.Excludes b

section Steps

variable [DecidableEq R]

instance decidableFree (i : Fin n) (a : Lock R) (s : State R n) : Decidable (Free i a s) := by
  unfold Free
  infer_instance

def step : Action n → State R n → State R n
  | .take i, s =>
    match s.todo i with
    | [] => s
    | a :: rest =>
      if Free i a s then
        ⟨Function.update s.held i (s.held i ++ [a]), Function.update s.todo i rest⟩
      else s
  | .finish i, s => ⟨Function.update s.held i [], Function.update s.todo i []⟩

end Steps

/-- A transaction waits for another that has a lock which excludes its next one. -/
def WaitsFor (s : State R n) (i j : Fin n) : Prop :=
  j ≠ i ∧ ∃ a rest, s.todo i = a :: rest ∧ ∃ b ∈ s.held j, a.Excludes b

/-- Transactions wait for each other in a cycle. -/
def Deadlock (s : State R n) : Prop := ∃ i, Relation.TransGen (WaitsFor s) i i

/-! ## What holds in every run -/

/-- Each transaction is somewhere along its locks, and no two have locks that exclude each other. -/
structure Sound (locks : Fin n → List (Lock R)) (s : State R n) : Prop where
  along : ∀ i, s.held i ++ s.todo i = locks i ∨ s.held i = [] ∧ s.todo i = []
  apart : ∀ i j, i ≠ j → Lock.Apart (s.held i) (s.held j)

section Runs

variable [DecidableEq R] {locks : Fin n → List (Lock R)} {s : State R n} {i j : Fin n}
  {a : Lock R} {rest : List (Lock R)}

omit [DecidableEq R] in
theorem sound_start (locks : Fin n → List (Lock R)) : Sound locks (start locks) where
  along _ := .inl (List.nil_append _)
  apart _ _ _ _ ha := absurd ha List.not_mem_nil

theorem step_take (htodo : s.todo i = a :: rest) (hfree : Free i a s) :
    step (.take i) s =
      ⟨Function.update s.held i (s.held i ++ [a]), Function.update s.todo i rest⟩ := by
  simp only [step, htodo, if_pos hfree]

theorem step_cases (x : Action n) (s : State R n) :
    step x s = s ∨
    (∃ i a rest, s.todo i = a :: rest ∧ Free i a s ∧ step x s =
      ⟨Function.update s.held i (s.held i ++ [a]), Function.update s.todo i rest⟩) ∨
    ∃ i, step x s = ⟨Function.update s.held i [], Function.update s.todo i []⟩ := by
  cases x with
  | finish i => exact .inr (.inr ⟨i, rfl⟩)
  | take i =>
    cases htodo : s.todo i with
    | nil => exact .inl (by simp only [step, htodo])
    | cons a rest =>
      by_cases hfree : Free i a s
      · exact .inr (.inl ⟨i, a, rest, htodo, hfree, step_take htodo hfree⟩)
      · exact .inl (by simp only [step, htodo, if_neg hfree])

theorem sound_step (x : Action n) (h : Sound locks s) : Sound locks (step x s) := by
  rcases step_cases x s with heq | ⟨i, a, rest, htodo, hfree, heq⟩ | ⟨i, heq⟩ <;> rw [heq]
  · exact h
  · constructor
    · intro j
      by_cases hj : j = i
      · subst hj
        rcases h.along j with hj | ⟨-, hnil⟩
        · left
          rw [← hj, htodo]
          simp
        · rw [htodo] at hnil
          cases hnil
      · simp only [Function.update_of_ne hj]
        exact h.along j
    · have hnew (j : Fin n) (hj : j ≠ i) : Lock.Apart (s.held i ++ [a]) (s.held j) := by
        intro b hb
        rcases List.mem_append.1 hb with hb | hb
        · exact h.apart i j hj.symm b hb
        · obtain rfl := List.mem_singleton.1 hb
          exact hfree j hj
      intro j k hjk
      by_cases hj : j = i
      · subst hj
        simp only [Function.update_self, Function.update_of_ne hjk.symm]
        exact hnew k hjk.symm
      · by_cases hk : k = i
        · subst hk
          simp only [Function.update_self, Function.update_of_ne hj]
          exact (hnew j hj).symm
        · simp only [Function.update_of_ne hj, Function.update_of_ne hk]
          exact h.apart j k hjk
  · constructor
    · intro j
      by_cases hj : j = i
      · subst hj
        exact .inr (by simp)
      · simp only [Function.update_of_ne hj]
        exact h.along j
    · intro j k hjk
      by_cases hj : j = i
      · subst hj
        simp [Lock.Apart]
      · by_cases hk : k = i
        · subst hk
          simp [Lock.Apart]
        · simp only [Function.update_of_ne hj, Function.update_of_ne hk]
          exact h.apart j k hjk

theorem sound_after (locks : Fin n → List (Lock R)) (actions : List (Action n)) :
    Sound locks (Run.after step (start locks) actions) :=
  Run.invariant (fun _ x h _ => sound_step x h) (sound_start locks)
    (Run.along_of_forall _ fun _ _ _ => trivial)

/-! ## A hierarchy of locks -/

omit [DecidableEq R] in
theorem Sound.split (h : Sound locks s) (htodo : s.todo i = a :: rest) :
    locks i = s.held i ++ a :: rest := by
  rcases h.along i with heq | ⟨-, hnil⟩
  · rw [← heq, htodo]
  · rw [htodo] at hnil
    cases hnil

omit [DecidableEq R] in
theorem Sound.initial (h : Sound locks s) (i : Fin n) : s.held i <+: locks i := by
  rcases h.along i with heq | ⟨hnil, -⟩
  · exact ⟨_, heq⟩
  · rw [hnil]
    exact List.nil_prefix

omit [DecidableEq R] in
/-- Nothing waits in a cycle where each transaction that waits has only locks below its next. -/
theorem not_deadlock_of_rank (rank : R → Nat)
    (h : ∀ i a rest j, s.todo i = a :: rest → WaitsFor s i j →
      ∀ b ∈ s.held i, rank b.row < rank a.row) : ¬ Deadlock s := by
  have climbs {i j : Fin n} (hpath : Relation.TransGen (WaitsFor s) i j) :
      ∀ k a rest b more, WaitsFor s j k → s.todo i = a :: rest → s.todo j = b :: more →
        rank a.row < rank b.row := by
    induction hpath with
    | single hij =>
      intro k a rest b more hjk ha hb
      obtain ⟨-, a', rest', ha', c, hc, hac⟩ := hij
      obtain ⟨rfl, -⟩ := List.cons.inj (ha.symm.trans ha')
      rw [hac.1]
      exact h _ b more k hb hjk c hc
    | @tail j l _ hjl ih =>
      intro k a rest b more hlk ha hb
      obtain ⟨-, c, rest', hc, x, hx, hcx⟩ := id hjl
      refine Nat.lt_trans (ih l a rest c rest' hjl ha hc) ?_
      rw [hcx.1]
      exact h l b more k hb hlk x hx
  rintro ⟨i, hcycle⟩
  obtain ⟨j, hij, -⟩ := Relation.TransGen.head'_iff.1 hcycle
  obtain ⟨-, a, rest, ha, -⟩ := id hij
  exact Nat.lt_irrefl _ (climbs hcycle j a rest a rest hij ha ha)

/-! ## Two that cross -/

/-- A transaction takes the next locks that no other excludes. -/
theorem after_takes {xs : List (Lock R)} (htodo : s.todo i = xs ++ rest)
    (hfree : ∀ a ∈ xs, Free i a s) :
    Run.after step s (List.replicate xs.length (.take i)) =
      ⟨Function.update s.held i (s.held i ++ xs), Function.update s.todo i rest⟩ := by
  induction xs generalizing s with
  | nil =>
    rw [List.nil_append] at htodo
    simp [← htodo]
  | cons a xs ih =>
    rw [List.length_cons, List.replicate_succ, Run.after_cons,
      step_take htodo (hfree a (.head _)), ih]
    · simp
    · simp
    · intro b hb j hj c hc
      simp only [Function.update_of_ne hj] at hc
      exact hfree b (.tail _ hb) j hj c hc

omit [DecidableEq R] in
theorem deadlock_of_two (h : WaitsFor s i j) (h' : WaitsFor s j i) : Deadlock s :=
  ⟨i, .head h (.single h')⟩

/-- Each of the two takes the locks before the one that the other excludes. -/
theorem deadlock_of_cross {p q r t : List (Lock R)} {b : Lock R} (hij : i ≠ j)
    (hi : locks i = p ++ a :: r) (hj : locks j = q ++ b :: t) (hpq : Lock.Apart p q)
    (ha : ∃ c ∈ q, a.Excludes c) (hb : ∃ c ∈ p, b.Excludes c) :
    ∃ actions, Deadlock (Run.after step (start locks) actions) := by
  have hfirst : Run.after step (start locks) (List.replicate p.length (.take i)) =
      ⟨Function.update (fun _ => []) i p, Function.update locks i (a :: r)⟩ := by
    have htodo : (start locks).todo i = p ++ a :: r := hi
    rw [after_takes htodo fun c _ k _ d hd => absurd hd List.not_mem_nil]
    rfl
  refine ⟨List.replicate p.length (.take i) ++ List.replicate q.length (.take j), ?_⟩
  have htodo : Function.update locks i (a :: r) j = q ++ b :: t := by
    rw [Function.update_of_ne hij.symm, hj]
  have hfree : ∀ c ∈ q, Free j c (⟨Function.update (fun _ => []) i p,
      Function.update locks i (a :: r)⟩ : State R n) := by
    intro c hc k hk d hd
    by_cases hki : k = i
    · subst hki
      simp only [Function.update_self] at hd
      exact fun hcd => hpq d hd c hc hcd.symm
    · simp [hki] at hd
  rw [Run.after_append, hfirst, after_takes htodo hfree]
  refine deadlock_of_two (i := i) (j := j) ?_ ?_
  · exact ⟨hij.symm, a, r, by simp [hij], by simpa [hij.symm] using ha⟩
  · exact ⟨hij, b, t, by simp, by simpa [hij] using hb⟩

end Runs

end Waits
