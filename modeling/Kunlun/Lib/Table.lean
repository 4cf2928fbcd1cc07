import Mathlib.Algebra.Order.BigOperators.Group.List
import Mathlib.Data.List.Nodup
import Mathlib.Tactic.Linarith

/-!
# Keyed tables

A table is a list of rows whose keys differ. An insert fails on a taken key, and an
update keeps the keys, so no table with two rows of one key can be built.
-/

/-- Rows with a primary key. -/
structure Table (α : Type) {κ : Type} (key : α → κ) where
  rows : List α
  unique : (rows.map key).Nodup

namespace Table

variable {α κ : Type} {key : α → κ}

/-! ## Statements -/

def empty : Table α key := ⟨[], by simp⟩

def single (a : α) : Table α key := ⟨[a], by simp⟩

theorem map_key_update (rows : List α) (p : α → Bool) (f : α → α) (hf : ∀ a, key (f a) = key a) :
    (rows.map fun a => if p a then f a else a).map key = rows.map key := by
  rw [List.map_map]
  apply List.map_congr_left
  intro a _
  simp only [Function.comp_apply]
  split
  · exact hf a
  · rfl

/-- `UPDATE … SET f WHERE p`. -/
def update (t : Table α key) (p : α → Bool) (f : α → α)
    (hf : ∀ a, key (f a) = key a := by intros; rfl) : Table α key :=
  ⟨t.rows.map fun a => if p a then f a else a, by rw [map_key_update _ _ _ hf]; exact t.unique⟩

/-- The rows an update with this condition reports. -/
def count (t : Table α key) (p : α → Bool) : Nat := t.rows.countP p

variable [DecidableEq κ]

/-- `SELECT … WHERE key = k`. -/
def get? (t : Table α key) (k : κ) : Option α := t.rows.find? fun a => key a = k

omit [DecidableEq κ] in
theorem unique_append (t : Table α key) (a : α) (h : key a ∉ t.rows.map key) :
    ((t.rows ++ [a]).map key).Nodup := by
  rw [List.map_append, List.map_singleton, ← List.concat_eq_append]
  exact t.unique.concat h

/-- `INSERT`, or nothing when the key is taken. -/
def insert? (t : Table α key) (a : α) : Option (Table α key) :=
  if h : key a ∉ t.rows.map key then some ⟨t.rows ++ [a], unique_append t a h⟩ else none

/-- `UPDATE … SET f WHERE key = k`. -/
def modify (t : Table α key) (k : κ) (f : α → α)
    (hf : ∀ a, key (f a) = key a := by intros; rfl) : Table α key :=
  t.update (fun a => key a = k) f hf

/-! ## Lookup -/

theorem get?_eq_some {t : Table α key} {k : κ} {a : α} :
    t.get? k = some a ↔ a ∈ t.rows ∧ key a = k := by
  constructor
  · intro h
    exact ⟨List.mem_of_find?_eq_some h, by simpa using List.find?_some h⟩
  · rintro ⟨ha, rfl⟩
    obtain ⟨rows, hu⟩ := t
    induction rows with
    | nil => simp at ha
    | cons b bs ih =>
      simp only [List.map_cons, List.nodup_cons] at hu
      simp only [get?, List.find?_cons]
      by_cases hb : key b = key a
      · rcases List.mem_cons.1 ha with rfl | ha
        · simp
        · exact absurd (hb ▸ List.mem_map_of_mem ha) hu.1
      · have hne : a ≠ b := fun h => hb (h ▸ rfl)
        simpa [hb, get?] using ih hu.2 ((List.mem_cons.1 ha).resolve_left hne)

theorem get?_of_mem {t : Table α key} {a : α} (h : a ∈ t.rows) : t.get? (key a) = some a :=
  get?_eq_some.2 ⟨h, rfl⟩

theorem mem_of_get? {t : Table α key} {k : κ} {a : α} (h : t.get? k = some a) : a ∈ t.rows :=
  (get?_eq_some.1 h).1

theorem key_of_get? {t : Table α key} {k : κ} {a : α} (h : t.get? k = some a) : key a = k :=
  (get?_eq_some.1 h).2

theorem eq_of_mem_of_key {t : Table α key} {a b : α} (ha : a ∈ t.rows) (hb : b ∈ t.rows)
    (h : key a = key b) : a = b := by
  have h1 := get?_of_mem ha
  rw [h, get?_of_mem hb] at h1
  exact (Option.some.inj h1).symm

theorem get?_eq_none {t : Table α key} {k : κ} : t.get? k = none ↔ k ∉ t.rows.map key := by
  simp [get?, List.find?_eq_none]

/-! ## After an insert -/

theorem get?_single (a : α) : (single a : Table α key).get? (key a) = some a := by
  simp [get?, single]

theorem insert?_eq_some {t t' : Table α key} {a : α} :
    t.insert? a = some t' ↔ t.get? (key a) = none ∧ t'.rows = t.rows ++ [a] := by
  rw [get?_eq_none]
  unfold insert?
  split
  · rename_i h
    simp only [Option.some.injEq]
    constructor
    · rintro rfl; exact ⟨h, rfl⟩
    · rintro ⟨-, hr⟩
      obtain ⟨rows, hu⟩ := t'
      simp only at hr
      subst hr
      rfl
  · rename_i h
    constructor
    · intro hn; cases hn
    · rintro ⟨hf, -⟩; exact absurd hf h

theorem get?_insert {t t' : Table α key} {a : α} (h : t.insert? a = some t') (k : κ) :
    t'.get? k = if key a = k then some a else t.get? k := by
  obtain ⟨hf, hr⟩ := insert?_eq_some.1 h
  simp only [get?, hr, List.find?_append]
  split
  · rename_i hk
    subst hk
    rw [show t.rows.find? (fun b => key b = key a) = none from hf]
    simp
  · rename_i hk
    simp [hk]

theorem get?_insert_of_some {t t' : Table α key} {a b : α} {k : κ} (h : t.insert? a = some t')
    (hb : t.get? k = some b) :
    t'.get? k = some b := by
  rw [get?_insert h, hb]
  split
  · rename_i hk
    rw [← hk, (insert?_eq_some.1 h).1] at hb
    cases hb
  · rfl

theorem mem_insert {t t' : Table α key} {a b : α} (h : t.insert? a = some t') :
    b ∈ t'.rows ↔ b ∈ t.rows ∨ b = a := by
  rw [(insert?_eq_some.1 h).2, List.mem_append, List.mem_singleton]

/-! ## After an update -/

theorem get?_update (t : Table α key) (p : α → Bool) (f : α → α)
    (hf : ∀ a, key (f a) = key a) (k : κ) :
    (t.update p f hf).get? k = (t.get? k).map fun a => if p a then f a else a := by
  simp only [get?, update, List.find?_map]
  congr 1
  apply congrArg (List.find? · t.rows)
  funext a
  simp only [Function.comp_apply]
  split
  · rw [hf]
  · rfl

theorem get?_update_of_not {t : Table α key} {p : α → Bool} {f : α → α}
    (hf : ∀ a, key (f a) = key a) {k : κ}
    (h : ∀ a, key a = k → ¬ p a) : (t.update p f hf).get? k = t.get? k := by
  rw [get?_update]
  cases ha : t.get? k with
  | none => rfl
  | some a => rw [Option.map_some, if_neg (h a (key_of_get? ha))]

theorem get?_modify (t : Table α key) (k k' : κ) (f : α → α) (hf : ∀ a, key (f a) = key a) :
    (t.modify k f hf).get? k' = if k' = k then (t.get? k').map f else t.get? k' := by
  rw [modify, get?_update]
  cases h : t.get? k' with
  | none => simp
  | some a =>
    have := key_of_get? h
    subst this
    simp only [Option.map_some, decide_eq_true_eq]
    split <;> rfl

theorem get?_modify_self {t : Table α key} {k : κ} {a : α} (h : t.get? k = some a) (f : α → α)
    (hf : ∀ a, key (f a) = key a) : (t.modify k f hf).get? k = some (f a) := by
  rw [get?_modify, if_pos rfl, h]
  rfl

theorem map_get?_update {σ : Type} {t : Table α key} {p : α → Bool} {f : α → α}
    {k : κ} {column : α → σ}
    (hf : ∀ a, key (f a) = key a) (h : ∀ a, t.get? k = some a → p a → column (f a) = column a) :
    ((t.update p f hf).get? k).map column = (t.get? k).map column := by
  rw [get?_update]
  cases ha : t.get? k with
  | none => rfl
  | some a =>
    simp only [Option.map_some, Option.some.injEq]
    split
    · exact h a ha ‹_›
    · rfl

omit [DecidableEq κ] in
theorem mem_update {t : Table α key} {p : α → Bool} {f : α → α}
    {hf : ∀ a, key (f a) = key a} {b : α} :
    b ∈ (t.update p f hf).rows ↔ ∃ a ∈ t.rows, (if p a then f a else a) = b := by
  simp [update, List.mem_map]

omit [DecidableEq κ] in
theorem map_update {β : Type} (t : Table α key) (p : α → Bool) (f : α → α)
    (hf : ∀ a, key (f a) = key a)
    (g : α → β) (hg : ∀ a ∈ t.rows, p a → g (f a) = g a) :
    (t.update p f hf).rows.map g = t.rows.map g := by
  simp only [update, List.map_map]
  apply List.map_congr_left
  intro a ha
  simp only [Function.comp_apply]
  split
  · exact hg a ha ‹_›
  · rfl

theorem map_modify {β : Type} {t : Table α key} {k : κ} {a : α} (f : α → α)
    (hf : ∀ a, key (f a) = key a)
    (g : α → β) (hk : t.get? k = some a) (hg : g (f a) = g a) :
    (t.modify k f hf).rows.map g = t.rows.map g := by
  apply map_update
  intro b hb hbk
  rwa [eq_of_mem_of_key hb (mem_of_get? hk) ((of_decide_eq_true hbk).trans (key_of_get? hk).symm)]

theorem mem_modify {t : Table α key} {k : κ} {a b : α} {f : α → α} (hf : ∀ a, key (f a) = key a)
    (hk : t.get? k = some a) : b ∈ (t.modify k f hf).rows ↔ b = f a ∨ b ∈ t.rows ∧ key b ≠ k := by
  obtain ⟨ha, hak⟩ := get?_eq_some.1 hk
  rw [modify, mem_update]
  constructor
  · rintro ⟨x, hx, rfl⟩
    by_cases hxk : key x = k
    · left
      rw [if_pos (by simpa using hxk), eq_of_mem_of_key hx ha (hxk.trans hak.symm)]
    · right
      simp [hxk, hx]
  · rintro (rfl | ⟨hb, hbk⟩)
    · exact ⟨a, ha, by simp [hak]⟩
    · exact ⟨b, hb, by simp [hbk]⟩

theorem modify_modify (t : Table α key) (k : κ) (f g : α → α) (hf : ∀ a, key (f a) = key a)
    (hg : ∀ a, key (g a) = key a) :
    (t.modify k f hf).modify k g hg = t.modify k (fun a => g (f a)) fun a =>
      (hg (f a)).trans (hf a) := by
  simp only [modify, update, List.map_map, Table.mk.injEq]
  apply List.map_congr_left
  intro a _
  by_cases hk : key a = k
  · simp [hk, hf]
  · simp [hk]

theorem modify_congr {t : Table α key} {k : κ} {f g : α → α} {hf : ∀ a, key (f a) = key a}
    {hg : ∀ a, key (g a) = key a} {a : α} (hk : t.get? k = some a) (h : f a = g a) :
    t.modify k f hf = t.modify k g hg := by
  simp only [modify, update, Table.mk.injEq]
  apply List.map_congr_left
  intro b hb
  by_cases hbk : key b = k
  · rw [eq_of_mem_of_key hb (mem_of_get? hk) (hbk.trans (key_of_get? hk).symm), h]
  · simp [hbk]

omit [DecidableEq κ] in
/-- The update that only takes a lock. -/
@[simp]
theorem update_same (t : Table α key) (p : α → Bool) : t.update p (fun a => a) = t := by
  simp [update]

/-- A condition that pins the key reports one row or none. -/
theorem count_key (t : Table α key) (k : κ) (q : α → Bool) :
    t.count (fun a => decide (key a = k) && q a) = ((t.get? k).any q).toNat := by
  obtain ⟨rows, hu⟩ := t
  simp only [count, get?]
  induction rows with
  | nil => simp
  | cons b bs ih =>
    simp only [List.map_cons, List.nodup_cons] at hu
    by_cases hb : key b = k
    · have hn : bs.find? (fun a => decide (key a = k)) = none := by
        rw [List.find?_eq_none]
        intro a ha hk
        exact hu.1 (List.mem_map.2 ⟨a, ha, by simpa [hb] using hk⟩)
      cases hq : q b <;> simp [ih hu.2, hb, hn, hq]
    · simp [ih hu.2, hb]

/-- A keyed update with a guard that its row meets is a plain keyed update. -/
theorem update_key_of_guard (t : Table α key) (k : κ) (q : α → Bool) (f : α → α)
    (hf : ∀ a, key (f a) = key a) (h : (t.get? k).any q) :
    t.update (fun a => decide (key a = k) && q a) f hf = t.modify k f hf := by
  simp only [update, modify, Table.mk.injEq]
  apply List.map_congr_left
  intro a ha
  by_cases hk : key a = k
  · subst hk
    rw [get?_of_mem ha] at h
    simp only [Option.any_some] at h
    simp [h]
  · simp [hk]

theorem update_one {t : Table α key} {k : κ} {q : α → Bool} {f : α → α}
    {hf : ∀ a, key (f a) = key a}
    (h : t.count (fun a => decide (key a = k) && q a) = 1) :
    ∃ a, t.get? k = some a ∧ q a ∧ t.update (fun a => decide (key a = k) && q a) f
      hf = t.modify k f hf := by
  rw [count_key] at h
  cases hk : t.get? k with
  | none => simp [hk] at h
  | some a =>
    have hq : q a := by simpa [hk] using h
    exact ⟨a, rfl, hq, update_key_of_guard t k q f hf (by simp [hk, hq])⟩

/-- `ORDER BY f DESC`, the first row. -/
def firstDesc (f : α → Int) : List α → Option α
  | [] => none
  | a :: rows =>
    match firstDesc f rows with
    | none => some a
    | some b => if f a < f b then some b else some a

theorem firstDesc_eq_none {f : α → Int} {rows : List α} : firstDesc f rows = none ↔ rows = [] := by
  cases rows with
  | nil => simp [firstDesc]
  | cons a rows =>
    simp only [firstDesc, reduceCtorEq, iff_false]
    split
    · simp
    · split <;> simp

theorem mem_of_firstDesc {f : α → Int} {rows : List α} {a : α}
    (h : firstDesc f rows = some a) : a ∈ rows := by
  induction rows generalizing a with
  | nil => cases h
  | cons b rows ih =>
    rw [firstDesc] at h
    split at h
    · rw [← Option.some.inj h]
      exact .head _
    · rename_i c hc
      split at h
      · rw [← Option.some.inj h]
        exact .tail _ (ih hc)
      · rw [← Option.some.inj h]
        exact .head _

omit [DecidableEq κ] in
theorem count_le {t t' : Table α key} {p p' : α → Bool}
    (h : ∀ a ∈ t.rows, p a → ∃ b ∈ t'.rows, key a = key b ∧ p' b) : t.count p ≤ t'.count p' := by
  have hnodup : ((t.rows.filter p).map key).Nodup := t.unique.sublist (List.filter_sublist.map key)
  have hsubset : (t.rows.filter p).map key ⊆ (t'.rows.filter p').map key := by
    intro k hk
    obtain ⟨a, ha, rfl⟩ := List.mem_map.1 hk
    obtain ⟨hmem, hp⟩ := List.mem_filter.1 ha
    obtain ⟨b, hb, hkey, hp'⟩ := h a hmem hp
    rw [hkey]
    exact List.mem_map_of_mem (List.mem_filter.2 ⟨hb, hp'⟩)
  have hle := (List.subperm_of_subset hnodup hsubset).length_le
  rwa [List.length_map, List.length_map, ← List.countP_eq_length_filter, ←
    List.countP_eq_length_filter] at hle

/-! ## What holds of every row -/

theorem forall_insert {t t' : Table α key} {a : α} {P : α → Prop} (h : t.insert? a = some t')
    (ht : ∀ b ∈ t.rows, P b) (ha : P a) : ∀ b ∈ t'.rows, P b := by
  intro b hb
  rcases (mem_insert h).1 hb with hb | rfl
  · exact ht b hb
  · exact ha

omit [DecidableEq κ] in
theorem forall_update {t : Table α key} {p : α → Bool} {f : α → α} {P : α → Prop}
    (ht : ∀ b ∈ t.rows, P b) (hp : ∀ b ∈ t.rows, p b → P (f b))
    (hf : ∀ a, key (f a) = key a := by first | assumption | (intros; rfl)) :
    ∀ b ∈ (t.update p f hf).rows, P b := by
  intro b hb
  obtain ⟨a, ha, rfl⟩ := mem_update.1 hb
  split
  · exact hp a ha ‹_›
  · exact ht a ha

theorem forall_modify {t : Table α key} {k : κ} {a : α} {f : α → α} {P : α → Prop}
    (hk : t.get? k = some a) (ht : ∀ b ∈ t.rows, P b) (ha : P (f a))
    (hf : ∀ a, key (f a) = key a := by first | assumption | (intros; rfl)) :
    ∀ b ∈ (t.modify k f hf).rows, P b := by
  apply forall_update ht
  intro b hb hbk
  have : b = a := eq_of_mem_of_key hb (mem_of_get? hk)
    ((of_decide_eq_true hbk).trans (key_of_get? hk).symm)
  rwa [this]

@[simp]
theorem isSome_get?_update (t : Table α key) (p : α → Bool) (f : α → α)
    (hf : ∀ a, key (f a) = key a) (k : κ) :
    ((t.update p f hf).get? k).isSome = (t.get? k).isSome := by
  rw [get?_update, Option.isSome_map]

@[simp]
theorem isSome_get?_modify (t : Table α key) (k k' : κ) (f : α → α) (hf : ∀ a, key (f a) = key a) :
    ((t.modify k f hf).get? k').isSome = (t.get? k').isSome :=
  isSome_get?_update ..

/-! ## Sums over the rows -/

def sum (t : Table α key) (g : α → Int) : Int := (t.rows.map g).sum

theorem sum_insert {t t' : Table α key} {a : α} (g : α → Int) (h : t.insert? a = some t') :
    t'.sum g = t.sum g + g a := by
  simp [sum, (insert?_eq_some.1 h).2]

theorem sum_modify {t : Table α key} {k : κ} {a : α} (g : α → Int) (f : α → α)
    (hf : ∀ a, key (f a) = key a) (h : t.get? k = some a) :
    (t.modify k f hf).sum g = t.sum g - g a + g (f a) := by
  obtain ⟨ha, rfl⟩ := get?_eq_some.1 h
  clear h
  obtain ⟨rows, hu⟩ := t
  simp only [sum, modify, update] at ha ⊢
  induction rows with
  | nil => simp at ha
  | cons b bs ih =>
    simp only [List.map_cons, List.nodup_cons, List.sum_cons] at hu ⊢
    by_cases hb : key b = key a
    · have hab : a = b := by
        rcases List.mem_cons.1 ha with h | h
        · exact h
        · exact absurd (hb ▸ List.mem_map_of_mem h) hu.1
      subst hab
      have hrest : bs.map (fun x => if decide (key x = key a) = true then f x else x) = bs := by
        conv_rhs => rw [← List.map_id bs]
        apply List.map_congr_left
        intro x hx
        rw [if_neg, id]
        intro hk
        exact hu.1 (List.mem_map.2 ⟨x, hx, by simpa using hk⟩)
      rw [hrest]
      simp only [decide_true, if_true]
      linarith
    · have hne : a ≠ b := fun h => hb (h ▸ rfl)
      have ih' := ih hu.2 ((List.mem_cons.1 ha).resolve_left hne)
      simp only [hb, decide_false, Bool.false_eq_true, if_false]
      linarith

omit [DecidableEq κ] in
theorem sum_update_of_eq (t : Table α key) (p : α → Bool) (f : α → α) (hf : ∀ a, key (f a) = key a)
    (g : α → Int) (hg : ∀ a ∈ t.rows, p a → g (f a) = g a) : (t.update p f hf).sum g = t.sum g := by
  rw [sum, map_update t p f hf g hg, sum]

omit [DecidableEq κ] in
theorem sum_filter (t : Table α key) (p : α → Bool) (g : α → Int) :
    ((t.rows.filter p).map g).sum = t.sum fun a => if p a then g a else 0 := by
  rw [sum]
  induction t.rows with
  | nil => rfl
  | cons a rows ih =>
    rw [List.filter_cons, List.map_cons, List.sum_cons, ← ih]
    split <;> simp

omit [DecidableEq κ] in
theorem count_eq_sum (t : Table α key) (p : α → Bool) : (t.count p : Int) = t.sum fun a =>
    if p a then 1 else 0 := by
  simp only [count, sum]
  induction t.rows with
  | nil => rfl
  | cons a rows ih =>
    rw [List.countP_cons, List.map_cons, List.sum_cons, ← ih]
    split <;> simp [add_comm]

omit [DecidableEq κ] in
theorem sum_nonneg (t : Table α key) (g : α → Int) (hg : ∀ a ∈ t.rows, 0 ≤ g a) : 0 ≤ t.sum g := by
  apply List.sum_nonneg
  intro x hx
  obtain ⟨a, ha, rfl⟩ := List.mem_map.1 hx
  exact hg a ha

omit [DecidableEq κ] in
theorem le_sum (t : Table α key) (g : α → Int) (hg : ∀ a ∈ t.rows, 0 ≤ g a)
    {a : α} (ha : a ∈ t.rows) :
    g a ≤ t.sum g := by
  apply List.single_le_sum
  · intro x hx
    obtain ⟨b, hb, rfl⟩ := List.mem_map.1 hx
    exact hg b hb
  · exact List.mem_map_of_mem ha

omit [DecidableEq κ] in
theorem sum_eq_zero (t : Table α key) (g : α → Int) (hg : ∀ a ∈ t.rows, g a = 0) : t.sum g = 0 := by
  apply List.sum_eq_zero
  intro x hx
  obtain ⟨a, ha, rfl⟩ := List.mem_map.1 hx
  exact hg a ha

end Table
