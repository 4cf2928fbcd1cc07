import Kunlun.Lib.Table
import Kunlun.Lib.Tx

/-!
# What sessions keep

A relation between the tables before and after, which every write of some code keeps, is
kept by what the code commits. Reads and control flow do not matter.
-/

/-- A relation that chains. -/
structure Track (D : Type) where
  rel : D → D → Prop
  refl : ∀ d, rel d d
  trans : ∀ {d e f}, rel d e → rel e f → rel d f

/-- Of what has happened to the tables, everything. -/
def Track.both {D : Type} (K L : Track D) : Track D where
  rel d e := K.rel d e ∧ L.rel d e
  refl d := ⟨K.refl d, L.refl d⟩
  trans h h' := ⟨K.trans h.1 h'.1, L.trans h.2 h'.2⟩

/-- What becomes of one row of a table, where it is there. -/
def Track.row {D α κ : Type} {key : α → κ} [DecidableEq κ] (t : D → Table α key)
    (k : κ) (R : α → α → Prop)
    (refl : ∀ a, R a a) (trans : ∀ a b c, R a b → R b c → R a c) : Track D where
  rel d e := ∀ a, (t d).get? k = some a → ∃ b, (t e).get? k = some b ∧ R a b
  refl _ a ha := ⟨a, ha, refl a⟩
  trans h h' a ha := by
    obtain ⟨b, hb, hab⟩ := h a ha
    obtain ⟨c, hc, hbc⟩ := h' b hb
    exact ⟨c, hc, trans a b c hab hbc⟩

section Row

variable {D α κ : Type} {key : α → κ} [DecidableEq κ] {t : D → Table α key}
  {k : κ} {R : α → α → Prop}
  {refl : ∀ a, R a a} {trans : ∀ a b c, R a b → R b c → R a c} {d e : D}

theorem Track.row_of_eq (h : t e = t d) : (Track.row t k R refl trans).rel d e := by
  intro a ha
  rw [h]
  exact ⟨a, ha, refl a⟩

theorem Track.row_of_insert {a : α} (h : (t d).insert? a = some (t e)) :
    (Track.row t k R refl trans).rel d e :=
  fun b hb => ⟨b, Table.get?_insert_of_some h hb, refl b⟩

theorem Track.row_of_update {p : α → Bool} {f : α → α} (hf : ∀ a, key (f a) = key a)
    (h : t e = (t d).update p f hf)
    (hR : ∀ a, key a = k → p a → R a (f a)) : (Track.row t k R refl trans).rel d e := by
  intro a ha
  refine ⟨_, by rw [h, Table.get?_update, ha]; rfl, ?_⟩
  by_cases hp : p a
  · simpa [hp] using hR a (Table.key_of_get? ha) hp
  · simpa [hp] using refl a

end Row

namespace Tx

variable {D E α β : Type} {K : Track D}

/-- A write that keeps the relation where it succeeds. -/
structure Kept (K : Track D) (w : D → Option D) : Prop where
  rel : ∀ d e, w d = some e → K.rel d e

/-- The open transaction, and what it is yet to write, keep the relation. -/
structure Tracks (K : Track D) (s : Session D) : Prop where
  work : K.rel s.committed s.work
  pending : ∀ w ∈ s.pending, Kept K w

/-- Code that keeps the relation, returning or raising. -/
structure Keeps (K : Track D) (x : Tx D E α) : Prop where
  committed : ∀ s, Tracks K s → K.rel s.committed (x s).2.committed
  tracks : ∀ s, Tracks K s → Tracks K (x s).2

theorem tracks_fresh (d : D) : Tracks K (.fresh d) := ⟨K.refl d, by simp [Session.fresh]⟩

theorem applyAll_kept {ws : List (D → Option D)} (h : ∀ w ∈ ws, Kept K w) {d e : D}
    (ha : applyAll ws d = some e) :
    K.rel d e := by
  induction ws generalizing d with
  | nil =>
    obtain rfl := Option.some.inj ha
    exact K.refl d
  | cons w ws ih =>
    obtain ⟨d₁, h1, h2⟩ := (applyAll_cons ..).1 ha
    exact K.trans ((h w (.head _)).rel d d₁ h1) (ih (fun v hv => h v (.tail _ hv)) h2)

/-- Code that leaves the session, or drops what it has not committed. -/
theorem keeps_of_same {x : Tx D E α}
    (h : ∀ s, (x s).2 = s ∨ (x s).2 = .fresh s.committed) : Keeps K x := by
  refine ⟨fun s _ => ?_, fun s hs => ?_⟩
  · rcases h s with h | h <;> rw [h] <;> exact K.refl _
  · rcases h s with h | h <;> rw [h]
    · exact hs
    · exact tracks_fresh _

theorem keeps_pure (a : α) : Keeps K (pure a : Tx D E α) := keeps_of_same fun _ => .inl rfl

theorem keeps_raise (e : E) : Keeps K (raise e : Tx D E α) := keeps_of_same fun _ => .inl rfl

theorem keeps_lift (r : Except E α) : Keeps K (lift r : Tx D E α) := keeps_of_same fun _ => .inl rfl

theorem keeps_select (f : D → α) : Keeps K (select f : Tx D E α) := keeps_of_same fun _ => .inl rfl

theorem keeps_rollback : Keeps K (rollback : Tx D E Unit) := keeps_of_same fun _ => .inr rfl

theorem keeps_raiseIf (c : Prop) [Decidable c] (e : E) : Keeps K (raiseIf c e : Tx D E Unit) :=
  keeps_of_same fun _ => by by_cases h : c <;> simp [raiseIf, h]

theorem keeps_rollbackIf (c : Prop) [Decidable c] (e : E) :
    Keeps K (rollbackIf c e : Tx D E Unit) :=
  keeps_of_same fun _ => by by_cases h : c <;> simp [rollbackIf, h]

theorem keeps_orRaise (o : Option α) (e : E) : Keeps K (orRaise o e : Tx D E α) :=
  keeps_of_same fun _ => by cases o <;> simp [orRaise]

theorem keeps_orRollback (o : Option α) (e : E) : Keeps K (orRollback o e : Tx D E α) :=
  keeps_of_same fun _ => by cases o <;> simp [orRollback]

theorem keeps_add {w : D → Option D} (hw : Kept K w) : Keeps K (add w : Tx D E Unit) := by
  refine ⟨fun s _ => K.refl _, fun s hs => ⟨hs.work, fun v hv => ?_⟩⟩
  rcases List.mem_append.1 hv with hv | hv
  · exact hs.pending v hv
  · rwa [List.mem_singleton.1 hv]

theorem keeps_execute [Violation E] {f : D → Option (D × Nat)}
    (hf : Kept K fun d => (f d).map Prod.fst) :
    Keeps K (execute f : Tx D E Nat) := by
  refine ⟨fun s _ => ?_, fun s hs => ?_⟩
  · rw [(quiet_execute f).committed]
    exact K.refl _
  · simp only [execute]
    split
    · rename_i d n h
      exact ⟨K.trans hs.work (hf.rel _ _ (by simp [h])), hs.pending⟩
    · exact hs

theorem keeps_flush [Violation E] : Keeps K (flush : Tx D E Unit) := by
  refine ⟨fun s _ => ?_, fun s hs => ?_⟩
  · rw [quiet_flush.committed]
    exact K.refl _
  · simp only [flush]
    split
    · rename_i d h
      exact ⟨K.trans hs.work (applyAll_kept hs.pending h), by simp⟩
    · exact hs

theorem keeps_commit [Violation E] : Keeps K (commit : Tx D E Unit) := by
  refine ⟨fun s hs => ?_, fun s hs => ?_⟩
  · simp only [commit]
    split
    · rename_i d h
      exact K.trans hs.work (applyAll_kept hs.pending h)
    · exact K.refl _
  · simp only [commit]
    split
    · exact tracks_fresh _
    · exact hs

theorem keeps_bind {x : Tx D E α} {f : α → Tx D E β} (hx : Keeps K x) (hf : ∀ a, Keeps K (f a)) :
    Keeps K (x >>= f) := by
  refine ⟨fun s hs => ?_, fun s hs => ?_⟩
  · have h1 := hx.committed s hs
    have h2 := hx.tracks s hs
    simp only [Bind.bind]
    rcases hxs : x s with ⟨r, t⟩
    rw [hxs] at h1 h2
    cases r with
    | ok a => exact K.trans h1 ((hf a).committed t h2)
    | error e => exact h1
  · have h2 := hx.tracks s hs
    simp only [Bind.bind]
    rcases hxs : x s with ⟨r, t⟩
    rw [hxs] at h2
    cases r with
    | ok a => exact (hf a).tracks t h2
    | error e => exact h2

theorem keeps_select_bind {f : D → α} {g : α → Tx D E β} (hg : ∀ d, Keeps K (g (f d))) :
    Keeps K (select f >>= g) :=
  ⟨fun s => (hg s.work).committed s, fun s => (hg s.work).tracks s⟩

theorem keeps_orRaise_bind {o : Option α} {e : E} {f : α → Tx D E β}
    (hf : ∀ a, o = some a → Keeps K (f a)) :
    Keeps K (orRaise o e >>= f) := by
  cases o with
  | none => exact keeps_of_same fun _ => .inl rfl
  | some a => exact ⟨(hf a rfl).committed, (hf a rfl).tracks⟩

theorem keeps_ite (c : Prop) [Decidable c] {x y : Tx D E α} (hx : c → Keeps K x)
    (hy : ¬ c → Keeps K y) :
    Keeps K (if c then x else y) := by
  by_cases h : c
  · rw [if_pos h]
    exact hx h
  · rw [if_neg h]
    exact hy h

theorem keeps_tryExcept {x : Tx D E α} {catches : E → Bool}
    {handler : E → Tx D E α} (hx : Keeps K x)
    (hh : ∀ e, Keeps K (handler e)) : Keeps K (tryExcept x catches handler) := by
  refine ⟨fun s hs => ?_, fun s hs => ?_⟩
  · have h1 := hx.committed s hs
    have h2 := hx.tracks s hs
    simp only [tryExcept]
    rcases hxs : x s with ⟨r, t⟩
    rw [hxs] at h1 h2
    cases r with
    | ok a => exact h1
    | error e =>
      dsimp only
      split
      · exact K.trans h1 ((hh e).committed t h2)
      · exact h1
  · have h2 := hx.tracks s hs
    simp only [tryExcept]
    rcases hxs : x s with ⟨r, t⟩
    rw [hxs] at h2
    cases r with
    | ok a => exact h2
    | error e =>
      dsimp only
      split
      · exact (hh e).tracks t h2
      · exact h2

theorem Keeps.run {x : Tx D E α} (hx : Keeps K x) (d : D) : K.rel d (Tx.run x d).2 :=
  hx.committed _ (tracks_fresh d)

/-! ## From one session on -/

/-- Code that keeps the relation from this session on. What it has not committed where it raises
does not matter. -/
structure KeepsFrom (K : Track D) (s : Session D) (x : Tx D E α) : Prop where
  committed : Tracks K s → K.rel s.committed (x s).2.committed
  tracks : Tracks K s → ∀ a t, x s = (.ok a, t) → Tracks K t

section From

variable {s : Session D}

theorem Keeps.from {x : Tx D E α} (hx : Keeps K x) (s : Session D) : KeepsFrom K s x := by
  refine ⟨hx.committed s, fun hs a t h => ?_⟩
  have ht := hx.tracks s hs
  rwa [h] at ht

theorem Atomic.keepsFrom {x : Tx D E α} (hx : Atomic x)
    (h : Tracks K s → ∀ a t, x s = (.ok a, t) → K.rel s.committed t.committed ∧ Tracks K t) :
    KeepsFrom K s x := by
  refine ⟨fun hs => ?_, fun hs a t hrun => (h hs a t hrun).2⟩
  have hc := hx.committed s
  rcases hrun : x s with ⟨r, t⟩
  rw [hrun] at hc
  cases r with
  | ok a => exact (h hs a t hrun).1
  | error e =>
    rw [show t.committed = s.committed from hc e rfl]
    exact K.refl _

theorem keepsFrom_bind {x : Tx D E α} {f : α → Tx D E β} (hx : KeepsFrom K s x)
    (hf : Tracks K s → ∀ a t, x s = (.ok a, t) → KeepsFrom K t (f a)) :
    KeepsFrom K s (x >>= f) := by
  refine ⟨fun hs => ?_, fun hs b t h => ?_⟩
  · have hc := hx.committed hs
    simp only [Bind.bind]
    rcases hrun : x s with ⟨r, t⟩
    rw [hrun] at hc
    cases r with
    | ok a => exact K.trans hc ((hf hs a t hrun).committed (hx.tracks hs a t hrun))
    | error e => exact hc
  · obtain ⟨a, s', h1, h2⟩ := (bind_ok ..).1 h
    exact (hf hs a s' h1).tracks (hx.tracks hs a s' h1) b t h2

theorem keepsFrom_select_bind {f : D → α} {g : α → Tx D E β} (h : KeepsFrom K s (g (f s.work))) :
    KeepsFrom K s (select f >>= g) := by
  refine keepsFrom_bind ((keeps_select f).from s) fun _ a t hrun => ?_
  obtain ⟨rfl, rfl⟩ := (select_ok ..).1 hrun
  exact h

theorem keepsFrom_raiseIf_bind {c : Prop} [Decidable c] {e : E} {g : Unit → Tx D E β}
    (h : ¬ c → KeepsFrom K s (g ())) : KeepsFrom K s (raiseIf c e >>= g) := by
  refine keepsFrom_bind ((keeps_raiseIf c e).from s) fun _ u t hrun => ?_
  obtain ⟨hc, rfl⟩ := (raiseIf_ok ..).1 hrun
  exact h hc

theorem keepsFrom_orRaise_bind {o : Option α} {e : E} {g : α → Tx D E β}
    (h : ∀ a, o = some a → KeepsFrom K s (g a)) : KeepsFrom K s (orRaise o e >>= g) := by
  refine keepsFrom_bind ((keeps_orRaise o e).from s) fun _ a t hrun => ?_
  obtain ⟨ho, rfl⟩ := (orRaise_ok ..).1 hrun
  exact h a ho

theorem keepsFrom_add_bind {w : D → Option D} {g : Unit → Tx D E β} (hw : Kept K w)
    (h : KeepsFrom K { s with pending := s.pending ++ [w] } (g ())) :
    KeepsFrom K s (add w >>= g) := by
  refine keepsFrom_bind ((keeps_add hw).from s) fun _ u t hrun => ?_
  obtain rfl := (add_ok ..).1 hrun
  exact h

/-- A handler that raises, and commits nothing, keeps what the code keeps. -/
theorem keepsFrom_tryExcept {x : Tx D E α} {catches : E → Bool} {handler : E → Tx D E α}
    (hx : KeepsFrom K s x)
    (hc : ∀ e t, (handler e t).2.committed = t.committed)
    (hh : ∀ e s a t, handler e s ≠ (.ok a, t)) :
    KeepsFrom K s (tryExcept x catches handler) := by
  refine ⟨fun hs => ?_, fun hs a t h => ?_⟩
  · have hx := hx.committed hs
    simp only [tryExcept]
    rcases hrun : x s with ⟨r, t⟩
    rw [hrun] at hx
    cases r with
    | ok a => exact hx
    | error e =>
      dsimp only
      split
      · rwa [hc]
      · exact hx
  · rcases (tryExcept_ok ..).1 h with h | ⟨e, s', -, -, h⟩
    · exact hx.tracks hs a t h
    · exact absurd h (hh e s' a t)

theorem KeepsFrom.run {x : Tx D E α} {d : D} (hx : KeepsFrom K (.fresh d) x) :
    K.rel d (Tx.run x d).2 :=
  hx.committed (tracks_fresh d)

end From

/-! ## What the next commit writes -/

variable {P : D → Prop}

/-- A write after which `P` holds where it held before. -/
def Holds (P : D → Prop) (w : D → Option D) : Prop := ∀ d e, w d = some e → P d → P e

/-- `P` holds of the open transaction, or of what is yet to be written to it. -/
structure Bound (P : D → Prop) (s : Session D) : Prop where
  made : P s.work ∨ ∃ w ∈ s.pending, ∀ d e, w d = some e → P e
  kept : ∀ w ∈ s.pending, Holds P w

/-- Code that takes what it is to write on, where it returns. -/
structure Binds (P : D → Prop) (x : Tx D E α) : Prop where
  bound : ∀ s a t, Bound P s → x s = (.ok a, t) → Bound P t

theorem Bound.applyAll {ws : List (D → Option D)} {d e : D} (hk : ∀ w ∈ ws, Holds P w)
    (hm : P d ∨ ∃ w ∈ ws, ∀ d e, w d = some e → P e) (h : applyAll ws d = some e) : P e := by
  induction ws generalizing d with
  | nil =>
    obtain rfl := Option.some.inj h
    simpa using hm
  | cons w ws ih =>
    obtain ⟨d₁, h1, h2⟩ := (applyAll_cons ..).1 h
    refine ih (fun v hv => hk v (.tail _ hv)) ?_ h2
    rcases hm with hd | ⟨v, hv, hP⟩
    · exact .inl (hk w (.head _) d d₁ h1 hd)
    · rcases List.mem_cons.1 hv with rfl | hv
      · exact .inl (hP d d₁ h1)
      · exact .inr ⟨v, hv, hP⟩

theorem Bound.commit [Violation E] {s t : Session D} {u : Unit} (hs : Bound P s)
    (h : (Tx.commit : Tx D E Unit) s = (.ok u, t)) : P t.committed := by
  obtain ⟨d, hd, rfl⟩ := (commit_ok ..).1 h
  exact Bound.applyAll hs.kept hs.made hd

theorem bound_add {w : D → Option D} {s : Session D} (hs : ∀ v ∈ s.pending, Holds P v)
    (hw : ∀ d e, w d = some e → P e) : Bound P { s with pending := s.pending ++ [w] } := by
  refine ⟨.inr ⟨w, by simp, hw⟩, fun v hv => ?_⟩
  rcases List.mem_append.1 hv with hv | hv
  · exact hs v hv
  · rw [List.mem_singleton.1 hv]
    exact fun d e h _ => hw d e h

theorem binds_of_same {x : Tx D E α} (h : ∀ s a t, x s = (.ok a, t) → t = s) : Binds P x :=
  ⟨fun s a t hs hx => by rwa [h s a t hx]⟩

theorem binds_pure (a : α) : Binds P (pure a : Tx D E α) := binds_of_same fun _ _ _ h =>
    ((pure_ok ..).1 h).2

theorem binds_raise (e : E) : Binds P (raise e : Tx D E α) :=
  ⟨fun _ _ _ _ h => absurd ((raise_ok ..).1 h) not_false⟩

theorem binds_lift (r : Except E α) : Binds P (lift r : Tx D E α) := binds_of_same fun _ _ _ h =>
    ((lift_ok ..).1 h).2

theorem binds_select (f : D → α) : Binds P (select f : Tx D E α) :=
  binds_of_same fun _ _ _ h => ((select_ok ..).1 h).2

theorem binds_raiseIf (c : Prop) [Decidable c] (e : E) : Binds P (raiseIf c e : Tx D E Unit) :=
  binds_of_same fun _ _ _ h => ((raiseIf_ok ..).1 h).2

theorem binds_rollbackIf (c : Prop) [Decidable c] (e : E) :
    Binds P (rollbackIf c e : Tx D E Unit) :=
  binds_of_same fun _ _ _ h => ((rollbackIf_ok ..).1 h).2

theorem binds_orRaise (o : Option α) (e : E) : Binds P (orRaise o e : Tx D E α) :=
  binds_of_same fun _ _ _ h => ((orRaise_ok ..).1 h).2

theorem binds_add {w : D → Option D} (hw : Holds P w) : Binds P (add w : Tx D E Unit) := by
  refine ⟨fun s a t hs h => ?_⟩
  obtain rfl := (add_ok ..).1 h
  refine ⟨hs.made.imp_right fun ⟨v, hv, hP⟩ => ⟨v, List.mem_append_left _ hv, hP⟩, fun v hv => ?_⟩
  rcases List.mem_append.1 hv with hv | hv
  · exact hs.kept v hv
  · rwa [List.mem_singleton.1 hv]

theorem binds_execute [Violation E] {f : D → Option (D × Nat)}
    (hf : Holds P fun d => (f d).map Prod.fst) :
    Binds P (execute f : Tx D E Nat) := by
  refine ⟨fun s a t hs h => ?_⟩
  obtain ⟨d, hd, rfl⟩ := (execute_ok ..).1 h
  exact ⟨hs.made.imp_left (hf s.work d (by simp [hd])), hs.kept⟩

theorem binds_flush [Violation E] : Binds P (flush : Tx D E Unit) := by
  refine ⟨fun s a t hs h => ?_⟩
  obtain ⟨d, hd, rfl⟩ := (flush_ok ..).1 h
  exact ⟨.inl (Bound.applyAll hs.kept hs.made hd), by simp⟩

theorem binds_commit [Violation E] : Binds P (commit : Tx D E Unit) := by
  refine ⟨fun s a t hs h => ?_⟩
  have hP := hs.commit h
  obtain ⟨d, -, rfl⟩ := (commit_ok ..).1 h
  exact ⟨.inl hP, by simp⟩

theorem binds_bind {x : Tx D E α} {f : α → Tx D E β} (hx : Binds P x) (hf : ∀ a, Binds P (f a)) :
    Binds P (x >>= f) := by
  refine ⟨fun s b t hs h => ?_⟩
  obtain ⟨a, s', h1, h2⟩ := (bind_ok ..).1 h
  exact (hf a).bound s' b t (hx.bound s a s' hs h1) h2

theorem binds_ite (c : Prop) [Decidable c] {x y : Tx D E α} (hx : Binds P x) (hy : Binds P y) :
    Binds P (if c then x else y) := by
  split
  · exact hx
  · exact hy

theorem binds_tryExcept {x : Tx D E α} {catches : E → Bool}
    {handler : E → Tx D E α} (hx : Binds P x)
    (hh : ∀ e s a t, handler e s ≠ (.ok a, t)) : Binds P (tryExcept x catches handler) := by
  refine ⟨fun s a t hs h => ?_⟩
  rcases (tryExcept_ok ..).1 h with h | ⟨e, s', -, -, h⟩
  · exact hx.bound s a t hs h
  · exact absurd h (hh e s' a t)

/-- Code that has written what it was to write, where it returns. -/
structure Settles (P : D → Prop) (x : Tx D E α) : Prop where
  committed : ∀ s a t, Bound P s → x s = (.ok a, t) → P t.committed

theorem settles_commit [Violation E] : Settles P (commit : Tx D E Unit) :=
  ⟨fun _ _ _ hs h => hs.commit h⟩

theorem settles_bind {x : Tx D E α} {f : α → Tx D E β} (hx : Binds P x)
    (hf : ∀ a, Settles P (f a)) :
    Settles P (x >>= f) := by
  refine ⟨fun s b t hs h => ?_⟩
  obtain ⟨a, s', h1, h2⟩ := (bind_ok ..).1 h
  exact (hf a).committed s' b t (hx.bound s a s' hs h1) h2

theorem settles_then_return {x : Tx D E α} (hx : Settles P x) (b : β) :
    Settles P (x >>= fun _ => pure b) := by
  refine ⟨fun s c t hs h => ?_⟩
  obtain ⟨a, s', h1, h2⟩ := (bind_ok ..).1 h
  obtain ⟨-, rfl⟩ := (pure_ok ..).1 h2
  exact hx.committed s a t hs h1

theorem settles_tryExcept {x : Tx D E α} {catches : E → Bool}
    {handler : E → Tx D E α} (hx : Settles P x)
    (hh : ∀ e s a t, handler e s ≠ (.ok a, t)) : Settles P (tryExcept x catches handler) := by
  refine ⟨fun s a t hs h => ?_⟩
  rcases (tryExcept_ok ..).1 h with h | ⟨e, s', -, -, h⟩
  · exact hx.committed s a t hs h
  · exact absurd h (hh e s' a t)

end Tx
