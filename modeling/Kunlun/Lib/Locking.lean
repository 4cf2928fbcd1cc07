import Kunlun.Lib.Run
import Mathlib.Logic.Function.Basic

/-!
# Calls under row locks

Each session runs one call, a statement at a time. What it writes is seen when it commits, and a
statement that needs a row waits while another session has it locked.
-/

/-- Calls over tables `D` in stages `P`, with locks on `R` and outcomes `O`. -/
structure Locking (D P R O : Type) where
  /-- The locks that a session has at the stage. -/
  holds : P → List R
  /-- The next statement, with the tables that others see after it. -/
  next : P → D → (P ⊕ O) × D

namespace Locking

variable {D P R O : Type} {n : Nat}

/-- The tables that all sessions see, and the stage of each session that has not ended. -/
structure State (D P : Type) (n : Nat) where
  db : D
  stage : Fin n → Option P

inductive Action (n : Nat) where
  | go (i : Fin n)
  /-- The connection is lost, or a deadlock is broken. -/
  | abort (i : Fin n)
  deriving DecidableEq

def start (d : D) (calls : Fin n → P) : State D P n := ⟨d, fun i => some (calls i)⟩

variable (L : Locking D P R O)

def held (o : Option P) : List R := o.elim [] L.holds

/-- No other session has one of the locks. -/
def Free (i : Fin n) (locks : List R) (s : State D P n) : Prop :=
  ∀ j, j ≠ i → ∀ r ∈ locks, r ∉ L.held (s.stage j)

variable [DecidableEq R]

instance (i : Fin n) (locks : List R) (s : State D P n) : Decidable (L.Free i locks s) := by
  unfold Free
  infer_instance

/-- The statement is carried out, or waits. -/
def advance (i : Fin n) (p : P) (s : State D P n) : State D P n :=
  let q := (L.next p s.db).1.getLeft?
  if L.Free i (L.held q) s then ⟨(L.next p s.db).2, Function.update s.stage i q⟩ else s

def step : Action n → State D P n → State D P n
  | .go i, s => (s.stage i).elim s fun p => L.advance i p s
  | .abort i, s => { s with stage := Function.update s.stage i none }

variable {L}

section Go

variable {i : Fin n} {p : P} {s : State D P n} (hp : s.stage i = some p)
include hp

theorem step_free (hfree : L.Free i (L.held (L.next p s.db).1.getLeft?) s) :
    L.step (.go i) s = ⟨(L.next p s.db).2,
      Function.update s.stage i (L.next p s.db).1.getLeft?⟩ := by
  show (s.stage i).elim s _ = _
  rw [hp]
  exact if_pos hfree

theorem step_blocked (hfree : ¬ L.Free i (L.held (L.next p s.db).1.getLeft?) s) :
    L.step (.go i) s = s := by
  show (s.stage i).elim s _ = _
  rw [hp]
  exact if_neg hfree

end Go

theorem step_ended {i : Fin n} {s : State D P n} (hp : s.stage i = none) :
    L.step (.go i) s = s := by
  show (s.stage i).elim s _ = s
  rw [hp]
  rfl

omit [DecidableEq R] in
theorem free_nil {i : Fin n} {locks : List R} {s : State D P n}
    (h : locks = []) : L.Free i locks s := by
  intro j _ r hr
  rw [h] at hr
  cases hr

/-- A step of a session is its next statement, or nothing that the tables show. -/
theorem step_cases (a : Action n) (s : State D P n) :
    (∃ i p, a = .go i ∧ s.stage i = some p ∧ L.Free i (L.held (L.next p s.db).1.getLeft?) s ∧
      L.step a s = ⟨(L.next p s.db).2, Function.update s.stage i (L.next p s.db).1.getLeft?⟩) ∨
    L.step a s = s ∨ ∃ i, L.step a s = { s with stage := Function.update s.stage i none } := by
  cases a with
  | abort i => exact .inr (.inr ⟨i, rfl⟩)
  | go i =>
    cases hp : s.stage i with
    | none => exact .inr (.inl (step_ended hp))
    | some p =>
      by_cases hfree : L.Free i (L.held (L.next p s.db).1.getLeft?) s
      · exact .inl ⟨i, p, rfl, hp, hfree, step_free hp hfree⟩
      · exact .inr (.inl (step_blocked hp hfree))

/-! ## A call by itself -/

/-- The outcome of the call and the tables after it, when no other session is there. -/
def alone (L : Locking D P R O) : Nat → P → D → Option (O × D)
  | 0, _, _ => none
  | m + 1, p, d =>
    match L.next p d with
    | (.inl q, e) => L.alone m q e
    | (.inr o, e) => some (o, e)

omit [DecidableEq R] in
theorem alone_go {m : Nat} {p q : P} {d e : D} (h : L.next p d = (.inl q, e)) :
    L.alone (m + 1) p d = L.alone m q e := by
  rw [alone, h]

omit [DecidableEq R] in
theorem alone_end {m : Nat} {p : P} {o : O} {d e : D} (h : L.next p d = (.inr o, e)) :
    L.alone (m + 1) p d = some (o, e) := by
  rw [alone, h]

omit [DecidableEq R] in
theorem alone_succ {m : Nat} {p : P} {x : O × D} {d : D} (h : L.alone m p d = some x) :
    L.alone (m + 1) p d = some x := by
  induction m generalizing p d with
  | zero => cases h
  | succ m ih =>
    cases hnext : L.next p d with
    | mk q e =>
      cases q with
      | inl q =>
        rw [alone_go hnext] at h ⊢
        exact ih h
      | inr o =>
        rw [alone_end hnext] at h ⊢
        exact h

/-- It is the run of the only session. -/
theorem after_alone {m : Nat} {p : P} {o : O} {d e : D} (h : L.alone m p d = some (o, e)) :
    Run.after L.step ⟨d, fun _ : Fin 1 => some p⟩
      (List.replicate m (.go 0)) = ⟨e, fun _ => none⟩ := by
  have hended (m : Nat) : Run.after L.step ⟨e, fun _ : Fin 1 => none⟩
      (List.replicate m (.go 0)) = ⟨e, fun _ => none⟩ := by
    induction m with
    | zero => rfl
    | succ m ih =>
      rw [List.replicate_succ, Run.after_cons, step_ended rfl]
      exact ih
  have hfree (locks : List R) (s : State D P 1) : L.Free 0 locks s :=
    fun j hj => absurd (Subsingleton.elim j 0) hj
  induction m generalizing p d with
  | zero => cases h
  | succ m ih =>
    rw [List.replicate_succ, Run.after_cons, step_free rfl (hfree _ _)]
    have hupdate (q : Option P) : Function.update (fun _ : Fin 1 => some p) 0 q = fun _ => q := by
      funext j
      rw [Subsingleton.elim j 0, Function.update_self]
    rw [hupdate]
    cases hnext : L.next p d with
    | mk q d' =>
      cases q with
      | inl q =>
        rw [alone_go hnext] at h
        exact ih h
      | inr o' =>
        rw [alone_end hnext] at h
        cases h
        exact hended m

/-! ## What sessions rely on -/

/-- What holds of the tables at each stage, and what a session guarantees to the others by its
locks. -/
structure Proof (L : Locking D P R O) where
  before : P → D → Prop
  guarantee : List R → D → D → Prop
  own : ∀ p d, before p d → guarantee (L.holds p) d (L.next p d).2 ∧
    ∀ q, (L.next p d).1 = .inl q → before q (L.next p d).2
  stable : ∀ q d e locks, before q d → guarantee locks d e →
    (∀ r ∈ locks, r ∉ L.holds q) → before q e

/-- No two sessions have a lock in common, and each is where its proof says. -/
structure Sound (A : Proof L) (s : State D P n) : Prop where
  apart : ∀ i j, i ≠ j → ∀ r ∈ L.held (s.stage i), r ∉ L.held (s.stage j)
  before : ∀ i p, s.stage i = some p → A.before p s.db

variable {A : Proof L} {s : State D P n}

omit [DecidableEq R] in
theorem sound_start {d : D} {calls : Fin n → P} (hlocks : ∀ i, L.holds (calls i) = [])
    (hbefore : ∀ i, A.before (calls i) d) : Sound A (start d calls) := by
  constructor
  · intro i j _ r hr
    rw [start, held, Option.elim_some, hlocks] at hr
    cases hr
  · intro i p hp
    obtain rfl := Option.some.inj hp
    exact hbefore i

omit [DecidableEq R] in
theorem Sound.update (hs : Sound A s) {i : Fin n} {q : Option P} {d : D}
    (hfree : L.Free i (L.held q) s)
    (hown : ∀ p, q = some p → A.before p d)
    (hothers : ∀ j p, j ≠ i → s.stage j = some p → A.before p d) :
    Sound A ⟨d, Function.update s.stage i q⟩ := by
  constructor
  · intro j k hjk r hr
    dsimp only at hr ⊢
    by_cases hj : j = i
    · subst hj
      rw [Function.update_self] at hr
      rw [Function.update_of_ne (Ne.symm hjk)]
      exact hfree k (Ne.symm hjk) r hr
    · rw [Function.update_of_ne hj] at hr
      by_cases hk : k = i
      · subst hk
        rw [Function.update_self]
        exact fun hmem => hfree j hj r hmem hr
      · rw [Function.update_of_ne hk]
        exact hs.apart j k hjk r hr
  · intro j p hp
    dsimp only at hp ⊢
    by_cases hj : j = i
    · subst hj
      rw [Function.update_self] at hp
      exact hown p hp
    · rw [Function.update_of_ne hj] at hp
      exact hothers j p hj hp

omit [DecidableEq R] in
theorem Sound.others (hs : Sound A s) {i j : Fin n} {p q : P} (hp : s.stage i = some p)
    (hq : s.stage j = some q)
    (hij : j ≠ i) : ∀ r ∈ L.holds p, r ∉ L.holds q := by
  have h := hs.apart i j (Ne.symm hij)
  rwa [hp, hq] at h

theorem Sound.step (hs : Sound A s) (a : Action n) : Sound A (L.step a s) := by
  rcases step_cases (L := L) a s with ⟨i, p, rfl, hp, hfree, hstep⟩ | hstep | ⟨i, hstep⟩
  · obtain ⟨hguarantee, hown⟩ := A.own p s.db (hs.before i p hp)
    rw [hstep]
    refine hs.update hfree (fun q hq => hown q (Sum.getLeft?_eq_some_iff.1 hq)) fun j q hj hq => ?_
    exact A.stable q s.db _ (L.holds p) (hs.before j q hq) hguarantee (hs.others hp hq hj)
  · rw [hstep]
    exact hs
  · rw [hstep]
    refine hs.update (fun _ _ r hr => ?_) (fun p hp => ?_) fun j p _ hp => hs.before j p hp
    · cases hr
    · cases hp

omit [DecidableEq R] in
theorem along_true (f : Action n → State D P n → State D P n) (s : State D P n)
    (actions : List (Action n)) :
    Run.Along f (fun _ _ => True) s actions :=
  Run.along_of_forall s fun _ _ _ => trivial

/-! ## What every statement keeps -/

section Keeps

variable {I : D → Prop} (keep : ∀ p d, I d → I (L.next p d).2)
include keep

theorem keeps_step (a : Action n) (hs : I s.db) : I (L.step a s).db := by
  rcases step_cases (L := L) a s with ⟨i, p, rfl, -, -, hstep⟩ | hstep | ⟨i, hstep⟩
  · rw [hstep]
    exact keep p s.db hs
  · rwa [hstep]
  · rwa [hstep]

theorem keeps_after (actions : List (Action n)) (hs : I s.db) : I (Run.after L.step s actions).db :=
  Run.invariant (I := fun s : State D P n => I s.db) (fun _ a hs _ => keeps_step keep a hs) hs
    (along_true L.step s actions)

end Keeps

end Locking
