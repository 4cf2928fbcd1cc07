import Mathlib.Tactic.Common

/-!
# Database sessions

A session works on its own copy of the tables. Nothing it does is seen by others before
`commit`, and closing it drops what it has not committed. Objects added to a session are
written by the next flush, not before.
-/

/-- What a session holds: the tables others see, the tables of the open transaction, and
the writes that the next flush carries out. A write that breaks a constraint gives nothing. -/
structure Session (D : Type) where
  committed : D
  work : D
  pending : List (D → Option D)

def Session.fresh {D : Type} (d : D) : Session D := ⟨d, d, []⟩

/-- The exception that a broken constraint raises. -/
class Violation (E : Type) where
  violation : E

/-- Code that runs in a session and returns or raises. -/
def Tx (D E α : Type) : Type := Session D → Except E α × Session D

namespace Tx

variable {D E α β : Type}

instance : Monad (Tx D E) where
  pure a s := (.ok a, s)
  bind x f s := match x s with
    | (.ok a, s') => f a s'
    | (.error e, s') => (.error e, s')

/-! ## Statements -/

def raise (e : E) : Tx D E α := fun s => (.error e, s)

def raiseIf (c : Prop) [Decidable c] (e : E) : Tx D E Unit := fun s =>
  if c then (.error e, s) else (.ok (), s)

/-- A value computed without the tables, or the exception that computing it raises. -/
def lift (r : Except E α) : Tx D E α := fun s => (r, s)

def select (f : D → α) : Tx D E α := fun s => (.ok (f s.work), s)

/-- An `UPDATE`: the tables after it and its row count, or a broken constraint. -/
def execute [Violation E] (f : D → Option (D × Nat)) : Tx D E Nat := fun s =>
  match f s.work with
  | some (d, n) => (.ok n, { s with work := d })
  | none => (.error Violation.violation, s)

def add (w : D → Option D) : Tx D E Unit :=
  fun s => (.ok (), { s with pending := s.pending ++ [w] })

/-- All pending writes, in the order they were added. -/
def applyAll (ws : List (D → Option D)) (d : D) : Option D := ws.foldlM (fun d w => w d) d

def flush [Violation E] : Tx D E Unit := fun s =>
  match applyAll s.pending s.work with
  | some d => (.ok (), { s with work := d, pending := [] })
  | none => (.error Violation.violation, s)

def commit [Violation E] : Tx D E Unit := fun s =>
  match applyAll s.pending s.work with
  | some d => (.ok (), ⟨d, d, []⟩)
  | none => (.error Violation.violation, s)

def rollback : Tx D E Unit := fun s => (.ok (), Session.fresh s.committed)

/-- `session.rollback(); raise e` under a condition. -/
def rollbackIf (c : Prop) [Decidable c] (e : E) : Tx D E Unit := fun s =>
  if c then (.error e, Session.fresh s.committed) else (.ok (), s)

/-- `if o is None: raise e`. -/
def orRaise (o : Option α) (e : E) : Tx D E α := fun s =>
  match o with
  | some a => (.ok a, s)
  | none => (.error e, s)

/-- `if o is None: session.rollback(); raise e`. -/
def orRollback (o : Option α) (e : E) : Tx D E α := fun s =>
  match o with
  | some a => (.ok a, s)
  | none => (.error e, Session.fresh s.committed)

/-- `try x except …: handler`. -/
def tryExcept (x : Tx D E α) (catches : E → Bool) (handler : E → Tx D E α) : Tx D E α := fun s =>
  match x s with
  | (.error e, s') => if catches e then handler e s' else (.error e, s')
  | r => r

/-- Opens a session, runs the code and closes the session: the outcome and the tables
that others see afterwards. -/
def run (x : Tx D E α) (d : D) : Except E α × D :=
  ((x (.fresh d)).1, (x (.fresh d)).2.committed)

/-! ## What a normal return says -/

@[simp]
theorem pure_ok (a b : α) (s t : Session D) :
    (pure a : Tx D E α) s = (.ok b, t) ↔ b = a ∧ t = s := by
  simp only [Pure.pure, Prod.mk.injEq, Except.ok.injEq]
  constructor <;> rintro ⟨rfl, rfl⟩ <;> exact ⟨rfl, rfl⟩

@[simp]
theorem bind_ok (x : Tx D E α) (f : α → Tx D E β) (s t : Session D) (b : β) :
    (x >>= f) s = (.ok b, t) ↔ ∃ a s', x s = (.ok a, s') ∧ f a s' = (.ok b, t) := by
  simp only [Bind.bind]
  rcases h : x s with ⟨r, s'⟩
  cases r <;> simp

@[simp]
theorem raise_ok (e : E) (s t : Session D) (a : α) :
    (raise e : Tx D E α) s = (.ok a, t) ↔ False := by
  simp [raise]

@[simp]
theorem raiseIf_ok (c : Prop) [Decidable c] (e : E) (s t : Session D) (u : Unit) :
    (raiseIf c e : Tx D E Unit) s = (.ok u, t) ↔ ¬ c ∧ t = s := by
  by_cases h : c <;> simp [raiseIf, h, eq_comm]

@[simp]
theorem lift_ok (r : Except E α) (s t : Session D) (a : α) :
    (lift r : Tx D E α) s = (.ok a, t) ↔ r = .ok a ∧ t = s := by
  simp [lift, eq_comm]

@[simp]
theorem rollbackIf_ok (c : Prop) [Decidable c] (e : E) (s t : Session D) (u : Unit) :
    (rollbackIf c e : Tx D E Unit) s = (.ok u, t) ↔ ¬ c ∧ t = s := by
  by_cases h : c <;> simp [rollbackIf, h, eq_comm]

@[simp]
theorem orRaise_ok (o : Option α) (e : E) (s t : Session D) (a : α) :
    (orRaise o e : Tx D E α) s = (.ok a, t) ↔ o = some a ∧ t = s := by
  cases o <;> simp [orRaise, eq_comm]

@[simp]
theorem orRollback_ok (o : Option α) (e : E) (s t : Session D) (a : α) :
    (orRollback o e : Tx D E α) s = (.ok a, t) ↔ o = some a ∧ t = s := by
  cases o <;> simp [orRollback, eq_comm]

@[simp]
theorem select_ok (f : D → α) (s t : Session D) (a : α) :
    (select f : Tx D E α) s = (.ok a, t) ↔ a = f s.work ∧ t = s := by
  simp only [select, Prod.mk.injEq, Except.ok.injEq]
  constructor <;> rintro ⟨rfl, rfl⟩ <;> exact ⟨rfl, rfl⟩

@[simp]
theorem add_ok (w : D → Option D) (s t : Session D) (u : Unit) :
    (add w : Tx D E Unit) s = (.ok u, t) ↔ t = { s with pending := s.pending ++ [w] } := by
  simp [add, eq_comm]

@[simp]
theorem rollback_ok (s t : Session D) (u : Unit) :
    (rollback : Tx D E Unit) s = (.ok u, t) ↔ t = .fresh s.committed := by
  simp [rollback, eq_comm]

@[simp]
theorem ite_ok (c : Prop) [Decidable c] (x y : Tx D E α) (s t : Session D) (a : α) :
    (if c then x else y) s = (.ok a, t) ↔ (c ∧ x s = (.ok a, t)) ∨ (¬ c ∧ y s = (.ok a, t)) := by
  by_cases h : c <;> simp [h]

section Violation
variable [Violation E]

@[simp]
theorem execute_ok (f : D → Option (D × Nat)) (s t : Session D) (n : Nat) :
    (execute f : Tx D E Nat) s = (.ok n, t) ↔ ∃ d, f s.work = some (d, n) ∧
    t = { s with work := d } := by
  simp only [execute]
  rcases h : f s.work with _ | ⟨d, m⟩
  · simp
  · simp only [Prod.mk.injEq, Except.ok.injEq, Option.some.injEq]
    constructor
    · rintro ⟨rfl, rfl⟩; exact ⟨d, ⟨rfl, rfl⟩, rfl⟩
    · rintro ⟨_, ⟨rfl, rfl⟩, rfl⟩; exact ⟨rfl, rfl⟩

@[simp]
theorem flush_ok (s t : Session D) (u : Unit) :
    (flush : Tx D E Unit) s = (.ok u, t) ↔
      ∃ d, applyAll s.pending s.work = some d ∧ t = { s with work := d, pending := [] } := by
  simp only [flush]
  rcases h : applyAll s.pending s.work with _ | d <;> simp [eq_comm]

@[simp]
theorem commit_ok (s t : Session D) (u : Unit) :
    (commit : Tx D E Unit) s = (.ok u, t) ↔ ∃ d,
    applyAll s.pending s.work = some d ∧ t = ⟨d, d, []⟩ := by
  simp only [commit]
  rcases h : applyAll s.pending s.work with _ | d <;> simp [eq_comm]

end Violation

@[simp]
theorem tryExcept_ok (x : Tx D E α) (catches : E → Bool) (handler : E → Tx D E α)
    (s t : Session D) (a : α) :
    tryExcept x catches handler s = (.ok a, t) ↔ x s = (.ok a, t) ∨
      ∃ e s', x s = (.error e, s') ∧ catches e = true ∧ handler e s' = (.ok a, t) := by
  simp only [tryExcept]
  rcases h : x s with ⟨r, s'⟩
  cases r with
  | ok b => simp
  | error e =>
    by_cases hc : catches e
    · simp [hc]
    · simp [hc]

@[simp]
theorem applyAll_nil (d : D) : applyAll [] d = some d := rfl

@[simp]
theorem applyAll_cons (w : D → Option D) (ws : List (D → Option D)) (d d' : D) :
    applyAll (w :: ws) d = some d' ↔ ∃ d₁, w d = some d₁ ∧ applyAll ws d₁ = some d' := by
  simp [applyAll, List.foldlM_cons, Option.bind_eq_some_iff]

@[simp]
theorem applyAll_append (ws vs : List (D → Option D)) (d d' : D) :
    applyAll (ws ++ vs) d = some d' ↔ ∃ d₁, applyAll ws d = some d₁ ∧ applyAll vs d₁ = some d' := by
  simp [applyAll, Option.bind_eq_some_iff]

@[simp]
theorem run_ok (x : Tx D E α) (d d' : D) (a : α) :
    run x d = (.ok a, d') ↔ ∃ t, x (.fresh d) = (.ok a, t) ∧ t.committed = d' := by
  rw [run]
  constructor
  · intro h
    obtain ⟨h1, h2⟩ := Prod.mk.injEq .. ▸ h
    exact ⟨_, Prod.ext h1 rfl, h2⟩
  · rintro ⟨t, ht, rfl⟩
    rw [ht]

theorem run_error (x : Tx D E α) (d d' : D) (e : E) :
    run x d = (.error e, d') ↔ ∃ t, x (.fresh d) = (.error e, t) ∧ t.committed = d' := by
  rw [run]
  constructor
  · intro h
    obtain ⟨h1, h2⟩ := Prod.mk.injEq .. ▸ h
    exact ⟨_, Prod.ext h1 rfl, h2⟩
  · rintro ⟨t, ht, rfl⟩
    rw [ht]

theorem run_then_return {x : Tx D E α} {d d' : D} {a : α} (h : run x d = (.ok a, d')) (b : β) :
    run (x >>= fun _ => pure b) d = (.ok b, d') := by
  obtain ⟨t, ht, hd⟩ := (run_ok ..).1 h
  exact (run_ok ..).2 ⟨t, (bind_ok ..).2 ⟨a, t, ht, rfl⟩, hd⟩

theorem run_handled {x : Tx D E α} {catches : E → Bool} {handler : E → Tx D E α}
    {d d' : D} {e : E} {a : α}
    (hx : x (.fresh d) = (.error e, .fresh d)) (he : catches e)
    (hh : run (handler e) d = (.ok a, d')) :
    run (tryExcept x catches handler) d = (.ok a, d') := by
  obtain ⟨t, ht, hd⟩ := (run_ok ..).1 hh
  exact (run_ok ..).2 ⟨t, (tryExcept_ok ..).2 (.inr ⟨e, _, hx, he, ht⟩), hd⟩

theorem run_raised {x : Tx D E α} {catches : E → Bool} {handler : E → Tx D E α} {d : D}
    {s : Session D} {e : E}
    (hx : x (.fresh d) = (.error e, s)) (he : catches e = false) :
    run (tryExcept x catches handler) d = (.error e, s.committed) := by
  refine (run_error ..).2 ⟨s, ?_, rfl⟩
  simp only [tryExcept, hx, he, Bool.false_eq_true, if_false]

theorem bind_of_ok {x : Tx D E α} {f : α → Tx D E β} {s t : Session D} {a : α}
    (h : x s = (.ok a, t)) :
    (x >>= f) s = f a t := by
  simp only [Bind.bind, h]

theorem bind_assoc {γ : Type} (x : Tx D E α) (f : α → Tx D E β) (g : β → Tx D E γ) :
    (x >>= f) >>= g = x >>= fun a => f a >>= g := by
  funext s
  simp only [Bind.bind]
  rcases x s with ⟨r, t⟩
  cases r <;> rfl

theorem pure_bind (a : α) (f : α → Tx D E β) : (pure a >>= f) = f a := rfl

theorem lift_bind (x : Except E α) (f : α → Except E β) :
    (lift (x >>= f) : Tx D E β) = lift x >>= fun a => lift (f a) := by
  funext s
  cases x <;> rfl

theorem select_bind (f : D → α) (g : α → Tx D E β) (s : Session D) :
    (select f >>= g) s = g (f s.work) s := rfl

theorem raiseIf_bind {c : Prop} [Decidable c] (h : ¬ c) (e : E)
    (g : Unit → Tx D E β) (s : Session D) :
    (raiseIf c e >>= g) s = g () s := bind_of_ok ((raiseIf_ok ..).2 ⟨h, rfl⟩)

theorem raiseIf_raises {c : Prop} [Decidable c] (h : c) (e : E)
    (g : Unit → Tx D E β) (s : Session D) :
    (raiseIf c e >>= g) s = (.error e, s) := by
  simp only [Bind.bind, raiseIf, if_pos h]

theorem rollbackIf_bind {c : Prop} [Decidable c] (h : ¬ c) (e : E)
    (g : Unit → Tx D E β) (s : Session D) :
    (rollbackIf c e >>= g) s = g () s := bind_of_ok ((rollbackIf_ok ..).2 ⟨h, rfl⟩)

theorem execute_bind [Violation E] {f : D → Option (D × Nat)} {s : Session D} {d : D} {n : Nat}
    (h : f s.work = some (d, n)) (g : Nat → Tx D E β) :
    (execute f >>= g) s = g n { s with work := d } :=
  bind_of_ok ((execute_ok ..).2 ⟨d, h, rfl⟩)

theorem orRaise_bind {o : Option α} {a : α} (h : o = some a) (e : E)
    (g : α → Tx D E β) (s : Session D) :
    (orRaise o e >>= g) s = g a s := bind_of_ok ((orRaise_ok ..).2 ⟨h, rfl⟩)

theorem add_bind (w : D → Option D) (g : Unit → Tx D E β) (s : Session D) :
    (add w >>= g) s = g () { s with pending := s.pending ++ [w] } := rfl

theorem commit_bind [Violation E] {s : Session D} {d : D} (h : applyAll s.pending s.work = some d)
    (g : Unit → Tx D E β) :
    (commit >>= g) s = g () ⟨d, d, []⟩ := by
  simp only [Bind.bind, commit, h]

theorem commit_raises [Violation E] {s : Session D} (h : applyAll s.pending s.work = none)
    (g : Unit → Tx D E β) :
    (commit >>= g) s = (.error Violation.violation, s) := by
  simp only [Bind.bind, commit, h]

theorem bind_of_error {x : Tx D E α} {f : α → Tx D E β} {s t : Session D} {e : E}
    (h : x s = (.error e, t)) :
    (x >>= f) s = (.error e, t) := by
  simp only [Bind.bind, h]

/-! ## What an exception says -/

theorem bind_error (x : Tx D E α) (f : α → Tx D E β) (s t : Session D) (e : E) :
    (x >>= f) s = (.error e, t) ↔
      x s = (.error e, t) ∨ ∃ a s', x s = (.ok a, s') ∧ f a s' = (.error e, t) := by
  simp only [Bind.bind]
  rcases h : x s with ⟨r, s'⟩
  cases r <;> simp

/-- Code that commits nothing. -/
structure Quiet (x : Tx D E α) : Prop where
  committed : ∀ s, (x s).2.committed = s.committed

/-- Code that has committed nothing when it raises. -/
structure Atomic (x : Tx D E α) : Prop where
  committed : ∀ s e, (x s).1 = .error e → (x s).2.committed = s.committed

/-- Code that returns. -/
structure Returns (x : Tx D E α) : Prop where
  ne_error : ∀ s e, (x s).1 ≠ .error e

theorem Quiet.atomic {x : Tx D E α} (h : Quiet x) : Atomic x := ⟨fun s _ _ => h.committed s⟩

theorem Quiet.eq {x : Tx D E α} (h : Quiet x) {s t : Session D} {r : Except E α}
    (hx : x s = (r, t)) :
    t.committed = s.committed := by
  rw [← h.committed s, hx]

@[simp]
theorem quiet_pure (a : α) : Quiet (pure a : Tx D E α) := ⟨fun _ => rfl⟩

@[simp]
theorem quiet_raise (e : E) : Quiet (raise e : Tx D E α) := ⟨fun _ => rfl⟩

@[simp]
theorem quiet_raiseIf (c : Prop) [Decidable c] (e : E) : Quiet (raiseIf c e : Tx D E Unit) := by
  constructor; intro s; simp only [raiseIf]; split <;> rfl

@[simp]
theorem quiet_rollbackIf (c : Prop) [Decidable c] (e : E) :
    Quiet (rollbackIf c e : Tx D E Unit) := by
  constructor; intro s; simp only [rollbackIf]; split <;> rfl

@[simp]
theorem quiet_orRaise (o : Option α) (e : E) : Quiet (orRaise o e : Tx D E α) := by
  constructor; intro s; cases o <;> rfl

@[simp]
theorem quiet_orRollback (o : Option α) (e : E) : Quiet (orRollback o e : Tx D E α) := by
  constructor; intro s; cases o <;> rfl

@[simp]
theorem quiet_lift (r : Except E α) : Quiet (lift r : Tx D E α) := ⟨fun _ => rfl⟩

@[simp]
theorem quiet_select (f : D → α) : Quiet (select f : Tx D E α) := ⟨fun _ => rfl⟩

@[simp]
theorem quiet_add (w : D → Option D) : Quiet (add w : Tx D E Unit) := ⟨fun _ => rfl⟩

@[simp]
theorem quiet_rollback : Quiet (rollback : Tx D E Unit) := ⟨fun _ => rfl⟩

@[simp]
theorem quiet_execute [Violation E] (f : D → Option (D × Nat)) :
    Quiet (execute f : Tx D E Nat) := by
  constructor; intro s; simp only [execute]; split <;> rfl

@[simp]
theorem quiet_flush [Violation E] : Quiet (flush : Tx D E Unit) := by
  constructor; intro s; simp only [flush]; split <;> rfl

@[simp]
theorem atomic_commit [Violation E] : Atomic (commit : Tx D E Unit) := by
  constructor
  intro s e
  simp only [commit]
  split
  · intro h; cases h
  · intro _; rfl

@[simp]
theorem returns_pure (a : α) : Returns (pure a : Tx D E α) := ⟨fun _ _ h => by cases h⟩

@[simp]
theorem quiet_bind {x : Tx D E α} {f : α → Tx D E β} (hx : Quiet x) (hf : ∀ a, Quiet (f a)) :
    Quiet (x >>= f) := by
  constructor
  intro s
  have h := hx.committed s
  simp only [Bind.bind]
  rcases hxs : x s with ⟨r, s'⟩
  rw [hxs] at h
  cases r with
  | ok a => exact ((hf a).committed s').trans h
  | error e => exact h

/-- Nothing is committed before the part that may commit. -/
@[simp]
theorem atomic_bind {x : Tx D E α} {f : α → Tx D E β} (hx : Quiet x) (hf : ∀ a, Atomic (f a)) :
    Atomic (x >>= f) := by
  constructor
  intro s e
  have h := hx.committed s
  simp only [Bind.bind]
  rcases hxs : x s with ⟨r, s'⟩
  rw [hxs] at h
  cases r with
  | ok a => intro he; exact ((hf a).committed s' e he).trans h
  | error e => intro _; exact h

@[simp]
theorem quiet_ite (c : Prop) [Decidable c] {x y : Tx D E α} (hx : Quiet x) (hy : Quiet y) :
    Quiet (if c then x else y) := by
  split
  · exact hx
  · exact hy

@[simp]
theorem atomic_ite (c : Prop) [Decidable c] {x y : Tx D E α} (hx : Atomic x) (hy : Atomic y) :
    Atomic (if c then x else y) := by
  split
  · exact hx
  · exact hy

@[simp]
theorem quiet_tryExcept {x : Tx D E α} {catches : E → Bool} {handler : E → Tx D E α} (hx : Quiet x)
    (hh : ∀ e, Quiet (handler e)) : Quiet (tryExcept x catches handler) := by
  constructor
  intro s
  have h := hx.committed s
  simp only [tryExcept]
  rcases hxs : x s with ⟨r, s'⟩
  rw [hxs] at h
  cases r with
  | ok a => exact h
  | error e =>
    simp only
    split
    · exact ((hh e).committed s').trans h
    · exact h

@[simp]
theorem quiet_forM {γ : Type} {l : List γ} {f : γ → Tx D E Unit}
    (hf : ∀ c, Quiet (f c)) : Quiet (forM l f) := by
  induction l with
  | nil => exact quiet_pure ()
  | cons c l ih =>
    rw [List.forM_cons]
    exact quiet_bind (hf c) fun _ => ih

/-- Nothing raises after the part that may commit. -/
theorem atomic_then {x : Tx D E α} {f : α → Tx D E β} (hx : Atomic x) (hf : ∀ a, Returns (f a)) :
    Atomic (x >>= f) := by
  constructor
  intro s e
  have h := hx.committed s
  simp only [Bind.bind]
  rcases hxs : x s with ⟨r, s'⟩
  rw [hxs] at h
  cases r with
  | ok a => intro he; exact absurd he ((hf a).ne_error s' e)
  | error e' => intro _; exact h e' rfl

@[simp]
theorem atomic_tryExcept {x : Tx D E α} {catches : E → Bool}
    {handler : E → Tx D E α} (hx : Atomic x)
    (hh : ∀ e, Atomic (handler e)) : Atomic (tryExcept x catches handler) := by
  constructor
  intro s e
  have h := hx.committed s
  simp only [tryExcept]
  rcases hxs : x s with ⟨r, s'⟩
  rw [hxs] at h
  cases r with
  | ok a => intro he; cases he
  | error e' =>
    simp only
    split
    · intro he; exact ((hh e').committed s' e he).trans (h e' rfl)
    · intro _; exact h e' rfl

@[simp]
theorem atomic_commit_return [Violation E] (a : α) : Atomic (do commit; return a : Tx D E α) :=
  atomic_then atomic_commit fun _ => returns_pure a

theorem read_bind_error {x : Tx D E α} {f : α → Tx D E β} {s t : Session D} {e : E} (hx : Quiet x)
    (hst : ∀ a t, x s = (.ok a, t) → t = s) (h : (x >>= f) s = (.error e, t)) :
    t.committed = s.committed ∨ ∃ a, x s = (.ok a, s) ∧ f a s = (.error e, t) := by
  rcases (bind_error ..).1 h with h | ⟨a, s', h1, h2⟩
  · exact .inl (hx.eq h)
  · obtain rfl := hst a s' h1
    exact .inr ⟨a, h1, h2⟩

/-- Code that returns with nothing left to write. -/
structure Flushed (x : Tx D E α) : Prop where
  pending : ∀ s a t, x s = (.ok a, t) → t.pending = []

theorem flushed_bind {x : Tx D E α} {f : α → Tx D E β}
    (hf : ∀ a, Flushed (f a)) : Flushed (x >>= f) := by
  constructor
  intro s b t h
  obtain ⟨a, s', -, h⟩ := (bind_ok ..).1 h
  exact (hf a).pending s' b t h

theorem flushed_ite (c : Prop) [Decidable c] {x y : Tx D E α} (hx : Flushed x) (hy : Flushed y) :
    Flushed (if c then x else y) := by
  split
  · exact hx
  · exact hy

theorem commit_flushed [Violation E] {s : Session D} (h : s.pending = []) :
    (commit : Tx D E Unit) s = (.ok (), ⟨s.work, s.work, []⟩) := by
  simp [commit, h, applyAll]

/-- A second commit, after code that has either committed all it wrote or committed nothing. -/
theorem atomic_then_commit [Violation E] {x : Tx D E α} {f : α → Tx D E β} (hx : Atomic x)
    (hc : ∀ s a t, x s = (.ok a, t) → t.committed = s.committed ∨ t.pending = [])
    (hf : ∀ a, Returns (f a)) :
    Atomic (x >>= fun a => commit >>= fun _ => f a) := by
  constructor
  intro s e he
  rcases hrun : (x >>= fun a => commit >>= fun _ => f a) s with ⟨r, t⟩
  rw [hrun] at he
  simp only at he
  subst he
  rcases (bind_error ..).1 hrun with h | ⟨a, s', h1, h2⟩
  · have := hx.committed s e (by rw [h])
    rwa [h] at this
  · rcases (bind_error ..).1 h2 with h | ⟨u, s'', -, h⟩
    · rcases hc s a s' h1 with hs | hs
      · have := atomic_commit.committed s' e (by rw [h])
        rw [h] at this
        exact this.trans hs
      · rw [commit_flushed hs] at h
        cases h
    · exact absurd (by rw [h]) ((hf a).ne_error s'' e)

/-! ## What others see afterwards -/

/-- The tables that others see once the code has run. -/
def Leaves (x : Tx D E α) (s : Session D) (q : D → Prop) : Prop := q (x s).2.committed

theorem Quiet.leaves {x : Tx D E α} (hx : Quiet x) {s : Session D} {q : D → Prop}
    (h : q s.committed) :
    Leaves x s q := by
  rw [Leaves, hx.committed]
  exact h

theorem Atomic.leaves {x : Tx D E α} (hx : Atomic x) {s : Session D} {q : D → Prop}
    (h : q s.committed)
    (hok : ∀ a t, x s = (.ok a, t) → q t.committed) : Leaves x s q := by
  rw [Leaves]
  rcases hxs : x s with ⟨r, t⟩
  cases r with
  | ok a => exact hok a t hxs
  | error e =>
    have ht := hx.committed s e (by rw [hxs])
    rw [hxs] at ht
    rwa [ht]

theorem leaves_bind {x : Tx D E α} {f : α → Tx D E β} {s : Session D} {q : D → Prop}
    (hx : Leaves x s q)
    (hf : ∀ a t, x s = (.ok a, t) → Leaves (f a) t q) : Leaves (x >>= f) s q := by
  simp only [Leaves, Bind.bind] at *
  rcases hxs : x s with ⟨r, t⟩
  rw [hxs] at hx
  cases r with
  | ok a => exact hf a t hxs
  | error e => exact hx

theorem leaves_tryExcept {x : Tx D E α} {catches : E → Bool}
    {handler : E → Tx D E α} {s : Session D}
    {q : D → Prop} (hx : Leaves x s q) (hh : ∀ e t, x s = (.error e, t) → Leaves (handler e) t q) :
    Leaves (tryExcept x catches handler) s q := by
  simp only [Leaves, tryExcept] at *
  rcases hxs : x s with ⟨r, t⟩
  rw [hxs] at hx
  cases r with
  | ok a => exact hx
  | error e =>
    simp only
    split
    · exact hh e t hxs
    · exact hx

/-! ## Which exceptions -/

/-- Every exception that the code raises from this session has the property. -/
structure Raises (x : Tx D E α) (s : Session D) (p : E → Prop) : Prop where
  of_error : ∀ e t, x s = (.error e, t) → p e

section Raises

variable {s : Session D} {p : E → Prop}

@[simp]
theorem raises_pure (a : α) : Raises (pure a : Tx D E α) s p :=
  ⟨fun _ _ h => by cases h⟩

theorem raises_raise {e : E} (h : p e) : Raises (raise e : Tx D E α) s p := by
  constructor
  rintro e' t ⟨⟩
  exact h

theorem raises_raiseIf {c : Prop} [Decidable c] {e : E} (h : p e) :
    Raises (raiseIf c e : Tx D E Unit) s p := by
  constructor
  by_cases hc : c <;> simp [raiseIf, hc, h]

theorem raises_raiseIf_not {c : Prop} [Decidable c] {e : E} (h : ¬ c) :
    Raises (raiseIf c e : Tx D E Unit) s p := by
  constructor
  simp [raiseIf, h]

theorem raises_rollbackIf {c : Prop} [Decidable c] {e : E} (h : p e) :
    Raises (rollbackIf c e : Tx D E Unit) s p := by
  constructor
  by_cases hc : c <;> simp [rollbackIf, hc, h]

theorem raises_rollbackIf_not {c : Prop} [Decidable c] {e : E} (h : ¬ c) :
    Raises (rollbackIf c e : Tx D E Unit) s p := by
  constructor
  simp [rollbackIf, h]

theorem raises_orRaise {o : Option α} {e : E} (h : p e) : Raises (orRaise o e : Tx D E α) s p := by
  constructor
  cases o <;> simp [orRaise, h]

theorem raises_orRollback {o : Option α} {e : E} (h : p e) :
    Raises (orRollback o e : Tx D E α) s p := by
  constructor
  cases o <;> simp [orRollback, h]

theorem raises_lift {r : Except E α} (h : ∀ e, r = .error e → p e) :
    Raises (lift r : Tx D E α) s p := by
  constructor
  intro e t he
  exact h e (Prod.mk.inj he).1

@[simp]
theorem raises_select (f : D → α) : Raises (select f : Tx D E α) s p :=
  ⟨fun _ _ h => by cases h⟩

@[simp]
theorem raises_add (w : D → Option D) : Raises (add w : Tx D E Unit) s p :=
  ⟨fun _ _ h => by cases h⟩

@[simp]
theorem raises_rollback : Raises (rollback : Tx D E Unit) s p :=
  ⟨fun _ _ h => by cases h⟩

theorem raises_execute [Violation E] (f : D → Option (D × Nat)) (h : p Violation.violation) :
    Raises (execute f : Tx D E Nat) s p := by
  constructor
  intro e t he
  simp only [execute] at he
  split at he <;> cases he
  exact h

theorem raises_flush [Violation E] (h : p Violation.violation) :
    Raises (flush : Tx D E Unit) s p := by
  constructor
  intro e t he
  simp only [flush] at he
  split at he <;> cases he
  exact h

theorem raises_commit [Violation E] (h : p Violation.violation) :
    Raises (commit : Tx D E Unit) s p := by
  constructor
  intro e t he
  simp only [commit] at he
  split at he <;> cases he
  exact h

theorem Raises.mono {x : Tx D E α} {q : E → Prop} (hx : Raises x s p)
    (h : ∀ e, p e → q e) : Raises x s q :=
  ⟨fun e t he => h e (hx.of_error e t he)⟩

theorem raises_bind {x : Tx D E α} {f : α → Tx D E β} (hx : Raises x s p)
    (hf : ∀ a t, x s = (.ok a, t) → Raises (f a) t p) : Raises (x >>= f) s p := by
  constructor
  intro e t h
  rcases (bind_error x f s t e).1 h with h | ⟨a, s', h1, h2⟩
  · exact hx.of_error e t h
  · exact (hf a s' h1).of_error e t h2

theorem raises_ite {c : Prop} [Decidable c] {x y : Tx D E α} (hx : c → Raises x s p)
    (hy : ¬ c → Raises y s p) :
    Raises (if c then x else y) s p := by
  by_cases h : c
  · rw [if_pos h]
    exact hx h
  · rw [if_neg h]
    exact hy h

theorem raises_tryExcept {x : Tx D E α} {catches : E → Bool} {handler : E → Tx D E α}
    (hx : Raises x s p) (hh : ∀ e t, x s = (.error e, t) → Raises (handler e) t p) :
    Raises (tryExcept x catches handler) s p := by
  constructor
  intro e t h
  simp only [tryExcept] at h
  rcases hxs : x s with ⟨r, t'⟩
  rw [hxs] at h
  cases r with
  | ok a => cases h
  | error e' =>
    simp only at h
    split at h
    · exact (hh e' t' hxs).of_error e t h
    · cases h
      exact hx.of_error e t hxs

end Raises

theorem run_cases {x : Tx D E α} (hx : Atomic x) (d : D) :
    (run x d).2 = d ∨ ∃ a t, x (.fresh d) = (.ok a, t) ∧ (run x d).2 = t.committed := by
  rcases h : x (.fresh d) with ⟨r, t⟩
  cases r with
  | ok a => exact .inr ⟨a, t, rfl, by simp [run, h]⟩
  | error e =>
    left
    have := hx.committed (.fresh d) e (by rw [h])
    rw [run]
    exact this

end Tx
