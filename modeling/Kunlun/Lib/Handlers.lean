import Kunlun.Lib.Run
import Kunlun.Lib.Tx

/-!
# Handlers

A handler opens one session after the other. Between two of its sessions others commit
theirs, and what a handler has done before it raises stays done.
-/

/-- The tables, what others do before each of the handler's next sessions, and what belongs
to the handler alone. -/
structure Scene (D A G : Type) where
  db : D
  others : List (List A)
  own : G

/-- Code that acts in a scene and returns or raises. -/
def Handler (D A G E α : Type) : Type := Scene D A G → Except E α × Scene D A G

namespace Handler

variable {D A G E X α β : Type}

instance : Monad (Handler D A G E) where
  pure a w := (.ok a, w)
  bind x f w := match x w with
    | (.ok a, w') => f a w'
    | (.error e, w') => (.error e, w')

def raise (e : E) : Handler D A G E α := fun w => (.error e, w)

/-- A value computed outside the scene, or the exception that computing it raises. -/
def lift (r : Except E α) : Handler D A G E α := fun w => (r, w)

/-- A change of what belongs to the handler. -/
def note (f : G → Except E (α × G)) : Handler D A G E α := fun w =>
  match f w.own with
  | .ok (a, g) => (.ok a, { w with own := g })
  | .error e => (.error e, w)

/-- `try x except …: handle`, where `handle` may raise again. -/
def tryExcept (x : Handler D A G E α) (handle : E → Handler D A G E α) :
    Handler D A G E α := fun w =>
  match x w with
  | (.error e, w') => handle e w'
  | r => r

/-- `try x finally final`: what `final` raises takes the place of what `x` raised. -/
def ensure (x : Handler D A G E α) (final : Handler D A G E Unit) : Handler D A G E α := fun w =>
  match final (x w).2 with
  | (.ok _, w') => ((x w).1, w')
  | (.error e, w') => (.error e, w')

section Session

variable (act : A → D → D) (wrap : X → E)

/-- A session of the handler, after the turn of the others. -/
def session (x : Tx D X α) : Handler D A G E α := fun w =>
  let turn := Run.after act w.db (w.others.headD [])
  ((x.run turn).1.mapError wrap, { w with db := (x.run turn).2, others := w.others.tail })

end Session

/-! ## Conditions before and after -/

/-- The others do what is allowed, and the condition holds of the tables and of what the handler
owns. -/
def Holds (allowed : A → Prop) (P : D → G → Prop) (w : Scene D A G) : Prop :=
  (∀ turn ∈ w.others, ∀ a ∈ turn, allowed a) ∧ P w.db w.own

/-- From where `P` holds, the code returns to where `Q` does, or raises to where `R` does. -/
structure Meets (allowed : A → Prop) (P : D → G → Prop) (x : Handler D A G E α)
    (Q : α → D → G → Prop)
    (R : E → D → G → Prop) : Prop where
  ok : ∀ {w w' a}, Holds allowed P w → x w = (.ok a, w') → Holds allowed (Q a) w'
  error : ∀ {w w' e}, Holds allowed P w → x w = (.error e, w') → Holds allowed (R e) w'

section Rules

variable {allowed : A → Prop} {P P' : D → G → Prop} {Q Q' : α → D → G → Prop}
  {R R' : E → D → G → Prop}

theorem Holds.mono {w : Scene D A G} (h : Holds allowed P w)
    (hP : ∀ d g, P d g → P' d g) : Holds allowed P' w :=
  ⟨h.1, hP _ _ h.2⟩

/-- The rule of consequence. -/
theorem Meets.mono {x : Handler D A G E α} (h : Meets allowed P x Q R) (hP : ∀ d g, P' d g → P d g)
    (hQ : ∀ a d g, Q a d g → Q' a d g) (hR : ∀ e d g, R e d g → R' e d g) :
    Meets allowed P' x Q' R' where
  ok hw heq := (h.ok (hw.mono hP) heq).mono (hQ _)
  error hw heq := (h.error (hw.mono hP) heq).mono (hR _)

theorem meets_never {x : Handler D A G E α} (h : ∀ d g, ¬ P d g) : Meets allowed P x Q R :=
  ⟨fun hw _ => absurd hw.2 (h _ _), fun hw _ => absurd hw.2 (h _ _)⟩

theorem meets_exists {ι : Type} {P : ι → D → G → Prop} {x : Handler D A G E α}
    (h : ∀ i, Meets allowed (P i) x Q R) :
    Meets allowed (fun d g => ∃ i, P i d g) x Q R where
  ok hw heq := by
    obtain ⟨i, hi⟩ := hw.2
    exact (h i).ok ⟨hw.1, hi⟩ heq
  error hw heq := by
    obtain ⟨i, hi⟩ := hw.2
    exact (h i).error ⟨hw.1, hi⟩ heq

theorem meets_assume {p : Prop} {x : Handler D A G E α} (h : p → Meets allowed P x Q R) :
    Meets allowed (fun d g => p ∧ P d g) x Q R where
  ok hw heq := (h hw.2.1).ok ⟨hw.1, hw.2.2⟩ heq
  error hw heq := (h hw.2.1).error ⟨hw.1, hw.2.2⟩ heq

theorem meets_pure (a : α) (h : ∀ d g, P d g → Q a d g) :
    Meets allowed P (pure a : Handler D A G E α) Q R where
  ok hw heq := by
    cases heq
    exact hw.mono h
  error _ heq := by cases heq

theorem meets_raise (e : E) (h : ∀ d g, P d g → R e d g) :
    Meets allowed P (raise e : Handler D A G E α) Q R where
  ok _ heq := by cases heq
  error hw heq := by
    cases heq
    exact hw.mono h

theorem meets_lift (r : Except E α) (ok : ∀ a, r = .ok a → ∀ d g, P d g → Q a d g)
    (error : ∀ e, r = .error e → ∀ d g, P d g → R e d g) :
    Meets allowed P (lift r : Handler D A G E α) Q R where
  ok hw heq := by
    obtain ⟨h, rfl⟩ := Prod.mk.inj heq
    exact hw.mono (ok _ h)
  error hw heq := by
    obtain ⟨h, rfl⟩ := Prod.mk.inj heq
    exact hw.mono (error _ h)

theorem meets_note (f : G → Except E (α × G))
    (ok : ∀ d g a g', P d g → f g = .ok (a, g') → Q a d g')
    (error : ∀ d g e, P d g → f g = .error e → R e d g) :
    Meets allowed P (note f : Handler D A G E α) Q R where
  ok {w w' a} hw heq := by
    unfold note at heq
    split at heq
    · rename_i b g hf
      cases heq
      exact ⟨hw.1, ok _ _ _ _ hw.2 hf⟩
    · cases heq
  error {w w' e} hw heq := by
    unfold note at heq
    split at heq
    · cases heq
    · rename_i hf
      cases heq
      exact ⟨hw.1, error _ _ _ hw.2 hf⟩

theorem meets_bind {x : Handler D A G E α} {f : α → Handler D A G E β} {S : β → D → G → Prop}
    (hx : Meets allowed P x Q R)
    (hf : ∀ a, Meets allowed (Q a) (f a) S R) : Meets allowed P (x >>= f) S R where
  ok {w w' b} hw heq := by
    simp only [Bind.bind] at heq
    split at heq
    · rename_i a w₁ h
      exact (hf a).ok (hx.ok hw h) heq
    · cases heq
  error {w w' e} hw heq := by
    simp only [Bind.bind] at heq
    split at heq
    · rename_i a w₁ h
      exact (hf a).error (hx.ok hw h) heq
    · rename_i h
      cases heq
      exact hx.error hw h

theorem meets_tryExcept (R' : E → D → G → Prop) {x : Handler D A G E α}
    {handle : E → Handler D A G E α}
    (hx : Meets allowed P x Q R')
    (hh : ∀ e, Meets allowed (R' e) (handle e) Q R) : Meets allowed P (tryExcept x handle) Q R where
  ok {w w' a} hw heq := by
    unfold tryExcept at heq
    split at heq
    · rename_i e w₁ h
      exact (hh e).ok (hx.error hw h) heq
    · exact hx.ok hw heq
  error {w w' e} hw heq := by
    unfold tryExcept at heq
    split at heq
    · rename_i e₁ w₁ h
      exact (hh e₁).error (hx.error hw h) heq
    · rename_i h
      exact absurd heq (h e w')

theorem meets_ensure {x : Handler D A G E α} {final : Handler D A G E Unit}
    (hx : Meets allowed P x Q R)
    (hok : ∀ a, Meets allowed (Q a) final (fun _ => Q a) R)
    (herror : ∀ e, Meets allowed (R e) final (fun _ => R e) R) :
    Meets allowed P (ensure x final) Q R where
  ok {w w' a} hw heq := by
    unfold ensure at heq
    split at heq
    · rename_i h
      obtain ⟨hr, rfl⟩ := Prod.mk.inj heq
      exact (hok a).ok (hx.ok hw (Prod.ext hr rfl)) h
    · cases heq
  error {w w' e} hw heq := by
    unfold ensure at heq
    split at heq
    · rename_i h
      obtain ⟨hr, rfl⟩ := Prod.mk.inj heq
      exact (herror e).ok (hx.error hw (Prod.ext hr rfl)) h
    · rename_i h
      obtain ⟨h1, rfl⟩ := Prod.mk.inj heq
      obtain rfl := Except.error.inj h1
      cases hr : (x w).1 with
      | ok a => exact (hok a).error (hx.ok hw (Prod.ext hr rfl)) h
      | error e => exact (herror e).error (hx.error hw (Prod.ext hr rfl)) h

theorem meets_map {x : Handler D A G E α} {f : α → β} {S : β → D → G → Prop}
    (hx : Meets allowed P x Q R)
    (h : ∀ a d g, Q a d g → S (f a) d g) : Meets allowed P (x >>= fun a => pure (f a)) S R :=
  meets_bind hx fun a => meets_pure (f a) (h a)

/-- A session meets what it does after any turn of the others, where these keep the condition. -/
theorem meets_session {act : A → D → D} {wrap : X → E} {x : Tx D X α}
    (stable : ∀ a d g, allowed a → P d g → P (act a d) g)
    (ok : ∀ d g a d', P d g → x.run d = (.ok a, d') → Q a d' g)
    (error : ∀ d g e d', P d g → x.run d = (.error e, d') → R (wrap e) d' g) :
    Meets allowed P (session act wrap x : Handler D A G E α) Q R := by
  have turn {w : Scene D A G} (hw : Holds allowed P w) :
    P (Run.after act w.db (w.others.headD [])) w.own ∧
      ∀ turn ∈ w.others.tail, ∀ a ∈ turn, allowed a := by
    refine ⟨?_, fun t ht => hw.1 t (List.mem_of_mem_tail ht)⟩
    have hhead : ∀ a ∈ w.others.headD [], allowed a := by
      cases h : w.others with
      | nil => simp
      | cons t rest => exact hw.1 t (by simp [h])
    exact Run.invariant (fun d a h ha => stable a d w.own ha h) hw.2
      (Run.along_of_forall _ fun a ha _ => hhead a ha)
  constructor
  · intro w w' a hw heq
    obtain ⟨hP, hothers⟩ := turn hw
    obtain ⟨h1, rfl⟩ := Prod.mk.inj heq
    cases hx : (x.run (Run.after act w.db (w.others.headD []))).1 with
    | ok b =>
      rw [hx] at h1
      cases h1
      exact ⟨hothers, ok _ _ _ _ hP (Prod.ext hx rfl)⟩
    | error e =>
      rw [hx] at h1
      cases h1
  · intro w w' e hw heq
    obtain ⟨hP, hothers⟩ := turn hw
    obtain ⟨h1, rfl⟩ := Prod.mk.inj heq
    cases hx : (x.run (Run.after act w.db (w.others.headD []))).1 with
    | ok b =>
      rw [hx] at h1
      cases h1
    | error e₁ =>
      rw [hx] at h1
      cases h1
      exact ⟨hothers, error _ _ _ _ hP (Prod.ext hx rfl)⟩

end Rules

end Handler
