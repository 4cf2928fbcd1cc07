import Kunlun.Lib.Run

/-!
# Calls of two transactions

Such a call reads, and writes later, when what it has read may be stale. Other calls, of one
transaction each, come in between.
-/

structure TwoStep (D C L A : Type) where
  /-- The first transaction, and what the call keeps of it if it goes on. -/
  read : C → D → Option L
  write : C → L → D → D
  /-- The calls of one transaction. -/
  apart : A → D → D

namespace TwoStep

variable {D C L A : Type}

/-- The shared state, and the calls that have read and not yet written. -/
structure State (D C L : Type) where
  shared : D
  waiting : List (C × L)

inductive Action (C A : Type) where
  | read (call : C)
  | write (i : Nat)
  | apart (a : A)

def start (d : D) : State D C L := ⟨d, []⟩

def step (sys : TwoStep D C L A) : Action C A → State D C L → State D C L
  | .read c, s =>
    match sys.read c s.shared with
    | none => s
    | some l => { s with waiting := s.waiting ++ [(c, l)] }
  | .write i, s =>
    match s.waiting[i]? with
    | none => s
    | some (c, l) => ⟨sys.write c l s.shared, s.waiting.eraseIdx i⟩
  | .apart a, s => { s with shared := sys.apart a s.shared }

/-- What holds of a call as it reads, and is no matter of the shared state, holds while it waits. -/
theorem waiting_step (sys : TwoStep D C L A) {P : C → L → Prop} {s : State D C L} {a : Action C A}
    (h : ∀ x ∈ s.waiting, P x.1 x.2)
    (hread : ∀ c l, a = .read c → sys.read c s.shared = some l → P c l) :
    ∀ x ∈ (sys.step a s).waiting, P x.1 x.2 := by
  intro x hx
  unfold step at hx
  cases a with
  | read c =>
    dsimp only at hx
    cases hl : sys.read c s.shared with
    | none =>
      rw [hl] at hx
      exact h x hx
    | some l =>
      rw [hl] at hx
      rcases List.mem_append.1 hx with hx | hx
      · exact h x hx
      · obtain rfl := List.mem_singleton.1 hx
        exact hread c l rfl hl
  | write i =>
    dsimp only at hx
    cases hi : s.waiting[i]? with
    | none =>
      rw [hi] at hx
      exact h x hx
    | some y =>
      rw [hi] at hx
      exact h x (List.mem_of_mem_eraseIdx hx)
  | apart a => exact h x hx

end TwoStep
