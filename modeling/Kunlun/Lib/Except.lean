import Mathlib.Tactic.Common

/-!
# Code that returns or raises

What a normal return says of each construct, and what may be raised.
-/

variable {ε α β : Type}

theorem except_bind_ok {x : Except ε α} {f : α → Except ε β} {b : β} :
    (x >>= f) = .ok b ↔ ∃ a, x = .ok a ∧ f a = .ok b := by
  cases x with
  | error e => exact ⟨nofun, fun ⟨_, h, _⟩ => nomatch h⟩
  | ok a => exact ⟨fun h => ⟨a, rfl, h⟩, fun ⟨_, h, hf⟩ => by rwa [Except.ok.inj h]⟩

theorem except_bind_eq {x : Except ε α} {a : α} {f : α → Except ε β}
    (h : x = .ok a) : (x >>= f) = f a := by
  rw [h]
  rfl

theorem except_unless_ok {c : Prop} [Decidable c] {e : ε} {x : Except ε α} {a : α} :
    (if c then throw e else x) = .ok a ↔ ¬ c ∧ x = .ok a := by
  split_ifs with hc
  · exact ⟨nofun, fun h => absurd hc h.1⟩
  · exact ⟨fun h => ⟨hc, h⟩, And.right⟩

/-! ## Lists -/

section Lists

variable {f : α → Except ε β} {l : List α} {l' : List β}

theorem mapM_ok_left (h : l.mapM f = .ok l') : ∀ x ∈ l, ∃ y ∈ l', f x = .ok y := by
  induction l generalizing l' with
  | nil => exact nofun
  | cons x l ih =>
    rw [List.mapM_cons] at h
    obtain ⟨y, hy, h⟩ := except_bind_ok.1 h
    obtain ⟨ys, hys, h⟩ := except_bind_ok.1 h
    rw [← Except.ok.inj h]
    intro z hz
    rcases List.mem_cons.1 hz with rfl | hz
    · exact ⟨y, List.mem_cons_self, hy⟩
    · obtain ⟨w, hw, hfw⟩ := ih hys z hz
      exact ⟨w, List.mem_cons_of_mem _ hw, hfw⟩

theorem mapM_ok_right (h : l.mapM f = .ok l') : ∀ y ∈ l', ∃ x ∈ l, f x = .ok y := by
  induction l generalizing l' with
  | nil =>
    rw [← Except.ok.inj h]
    exact nofun
  | cons x l ih =>
    rw [List.mapM_cons] at h
    obtain ⟨y, hy, h⟩ := except_bind_ok.1 h
    obtain ⟨ys, hys, h⟩ := except_bind_ok.1 h
    rw [← Except.ok.inj h]
    intro z hz
    rcases List.mem_cons.1 hz with rfl | hz
    · exact ⟨x, List.mem_cons_self, hy⟩
    · obtain ⟨w, hw, hfw⟩ := ih hys z hz
      exact ⟨w, List.mem_cons_of_mem _ hw, hfw⟩

end Lists

/-! ## What is raised -/

section Raised

variable {P : ε → Prop}

/-- All that is raised is of the kind. -/
def OnlyRaises (P : ε → Prop) (x : Except ε α) : Prop := ∀ e, x = .error e → P e

theorem onlyRaises_ok (a : α) : OnlyRaises P (.ok a : Except ε α) := nofun

theorem onlyRaises_error_iff {e : ε} : OnlyRaises P (.error e : Except ε α) ↔ P e :=
  ⟨fun h => h e rfl, fun h _ heq => Except.error.inj heq ▸ h⟩

theorem onlyRaises_bind_iff {x : Except ε α} {f : α → Except ε β} :
    OnlyRaises P (x >>= f) ↔ OnlyRaises P x ∧ ∀ a, x = .ok a → OnlyRaises P (f a) := by
  cases x with
  | error e =>
    show OnlyRaises P (.error e : Except ε β) ↔ _
    rw [onlyRaises_error_iff, onlyRaises_error_iff]
    exact ⟨fun h => ⟨h, nofun⟩, And.left⟩
  | ok a =>
    refine ⟨fun h => ⟨onlyRaises_ok a, fun a' ha => ?_⟩, fun h => h.2 a rfl⟩
    rw [← Except.ok.inj ha]
    exact h

theorem onlyRaises_unless_iff {c : Prop} [Decidable c] {e : ε} {x : Except ε α} (he : P e) :
    OnlyRaises P (if c then throw e else x) ↔ (¬ c → OnlyRaises P x) := by
  split_ifs with hc
  · exact iff_of_true (onlyRaises_error_iff.2 he) fun h => absurd hc h
  · exact ⟨fun h _ => h, fun h => h hc⟩

end Raised
