import Kunlun.Lib.Run

/-!
# Leases

A lease is granted for a time, to one caller at a time, by steps that read the tables only.
Who holds it is not in the tables: a step that takes a live lease away has to come from the
holder.
-/

/-- How the steps of a system treat one lease. -/
structure Lease (S A C : Type) where
  step : A → S → S
  caller : A → C
  /-- When the step is taken. -/
  clock : A → Int
  term : Int
  grants : A → S → Bool
  /-- The caller says that what it was granted for is finished. -/
  reports : A → Bool
  /-- From when the lease is held. -/
  since : S → Option Int
  /-- The lease is never granted again. -/
  closed : S → Prop

namespace Lease

variable {S A C : Type} (L : Lease S A C)

/-- The state, with what no table knows: whom the lease was last granted to, and the time. -/
structure Held (S C : Type) where
  state : S
  holder : Option C
  time : Option Int

/-- A step of the system, with the grant that it may be. -/
def next (a : A) (s : Held S C) : Held S C where
  state := L.step a s.state
  holder := if L.grants a s.state then some (L.caller a) else s.holder
  time := some (L.clock a)

/-- The step leaves a lease that is live, or ends it for good, or comes from the holder. -/
def Respects (a : A) (s : Held S C) : Prop :=
  ∀ t, L.since s.state = some t → L.since (L.step a s.state) = some t ∨
    L.closed (L.step a s.state) ∨
    L.grants a s.state ∨ t + L.term ≤ L.clock a ∨ L.reports a ∧ s.holder = some (L.caller a)

/-- The clock has not gone back. -/
def InTime (a : A) (s : Held S C) : Prop := ∀ t ∈ s.time, t ≤ L.clock a

instance (a : A) (s : Held S C) : Decidable (L.InTime a s) := by unfold InTime; infer_instance

/-- What the steps in `ok` do to the lease. -/
structure Lawful (ok : A → Prop) : Prop where
  free : ∀ s a, ok a → L.grants a s → ¬ L.closed s ∧ ∀ t ∈ L.since s, t + L.term ≤ L.clock a
  held : ∀ s a, ok a → L.grants a s → ∃ t, L.since (L.step a s) = some t ∧ L.clock a ≤ t
  closed : ∀ s a, L.closed s → L.closed (L.step a s)

variable {L} {ok : A → Prop}

/-- The steps of a run that keeps to the lease. -/
def Allowed (L : Lease S A C) (ok : A → Prop) (a : A) (s : Held S C) : Prop :=
  ok a ∧ L.Respects a s ∧ L.InTime a s

/-- After a grant at `t` to `c`: it is held, or its term has passed, or there are no grants. -/
inductive Since (L : Lease S A C) (c : C) (t : Int) (s : Held S C) : Prop where
  | held (u : Int) (h : L.since s.state = some u) (hu : t ≤ u) (holder : s.holder = some c)
  | passed (u : Int) (h : s.time = some u) (hu : t + L.term ≤ u)
  | closed (h : L.closed s.state)

variable {c : C} {t : Int} {s : Held S C}

theorem since_grant (hL : L.Lawful ok) {a : A} (ha : ok a) (h : L.grants a s.state) :
    Since L (L.caller a) (L.clock a) (L.next a s) := by
  obtain ⟨u, hu, hle⟩ := hL.held s.state a ha h
  exact .held u hu hle (if_pos h)

theorem Since.grant (hL : L.Lawful ok) (hs : Since L c t s) {b : A} (hb : Allowed L ok b s)
    (h : L.grants b s.state) :
    t + L.term ≤ L.clock b := by
  obtain ⟨hok, -, htime⟩ := hb
  obtain ⟨hopen, hfree⟩ := hL.free s.state b hok h
  cases hs with
  | held u hu hle holder =>
    have := hfree u hu
    omega
  | passed u hu hle =>
    have := htime u hu
    omega
  | closed hc => exact absurd hc hopen

/-- A step keeps it, or is the report of the one to whom the lease was granted. -/
theorem Since.step (hL : L.Lawful ok) (hs : Since L c t s) {b : A} (hb : Allowed L ok b s) :
    Since L c t (L.next b s) ∨ L.reports b ∧ L.caller b = c := by
  by_cases h : L.grants b s.state
  · exact .inl (.passed _ rfl (hs.grant hL hb h))
  · cases hs with
    | held u hu hle holder =>
      rcases hb.2.1 u hu with hsame | hclosed | hgrants | hdead | ⟨hreports, hholder⟩
      · exact .inl (.held u hsame hle ((if_neg h).trans holder))
      · exact .inl (.closed hclosed)
      · exact absurd hgrants h
      · exact .inl (.passed _ rfl (by omega))
      · exact .inr ⟨hreports, Option.some.inj (hholder.symm.trans holder)⟩
    | passed u hu hle =>
      have := hb.2.2 u hu
      exact .inl (.passed _ rfl (by omega))
    | closed hc => exact .inl (.closed (hL.closed s.state b hc))

theorem Since.run (hL : L.Lawful ok) (hs : Since L c t s) {xs : List A}
    (hxs : Run.Along L.next (Allowed L ok) s xs) :
    Since L c t (Run.after L.next s xs) ∨ ∃ x ∈ xs, L.reports x ∧ L.caller x = c := by
  induction xs generalizing s with
  | nil => exact .inl hs
  | cons x xs ih =>
    rcases hs.step hL hxs.1 with h | h
    · rcases ih h hxs.2 with h | ⟨y, hy, h⟩
      · exact .inl h
      · exact .inr ⟨y, .tail _ hy, h⟩
    · exact .inr ⟨x, .head _, h⟩

theorem state_after (xs : List A) (s : Held S C) :
    (Run.after L.next s xs).state = Run.after L.step s.state xs := by
  induction xs generalizing s with
  | nil => rfl
  | cons x xs ih => exact ih (L.next x s)

/-- Two grants are apart by the term, or by the report of the one who had the first. -/
theorem exclusive (hL : L.Lawful ok) {xs ys : List A} {a b : A}
    (h : Run.Along L.next (Allowed L ok) s (xs ++ a :: ys ++ [b]))
    (ha : L.grants a (Run.after L.step s.state xs))
    (hb : L.grants b (Run.after L.step s.state (xs ++ a :: ys))) :
    L.clock a + L.term ≤ L.clock b ∨ ∃ y ∈ ys, L.reports y ∧ L.caller y = L.caller a := by
  rw [← state_after] at ha hb
  obtain ⟨h, hlast⟩ := (Run.along_append ..).1 h
  obtain ⟨-, h⟩ := (Run.along_append ..).1 h
  rw [Run.after_append] at hb hlast
  rcases (since_grant hL h.1.1 ha).run hL h.2 with hs | hs
  · exact .inl (hs.grant hL hlast.1 hb)
  · exact .inr hs

/-- A live lease is taken away by its holder only. -/
theorem live (hL : L.Lawful ok) {b : A} (hb : Allowed L ok b s) (ht : L.since s.state = some t)
    (hlive : L.clock b < t + L.term) :
    L.since (L.step b s.state) = some t ∨ L.closed (L.step b s.state) ∨
      L.reports b ∧ s.holder = some (L.caller b) := by
  rcases hb.2.1 t ht with h | h | h | h | h
  · exact .inl h
  · exact .inr (.inl h)
  · have := (hL.free s.state b hb.1 h).2 t ht
    omega
  · omega
  · exact .inr (.inr h)

end Lease
