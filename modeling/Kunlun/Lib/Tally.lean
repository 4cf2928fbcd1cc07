import Kunlun.Lib.Table

/-!
# Tallies

A table of accounts tallies with a table of items when each account's counter is the sum
of what the items weigh for it. One rule for each way in which both change together.
-/

/-- The counter `c` of each account is the sum of what the items weigh for its key. -/
def Tallies {α κ β ι : Type} {key : α → κ} {key' : β → ι} (t : Table α key) (c : α → Int)
    (items : Table β key') (g : κ → β → Int) : Prop :=
  ∀ a ∈ t.rows, c a = items.sum (g (key a))

namespace Tallies

variable {α κ β ι : Type} {key : α → κ} {key' : β → ι} [DecidableEq κ] [DecidableEq ι]
variable {t t' : Table α key} {c : α → Int} {items items' : Table β key'} {g : κ → β → Int}

omit [DecidableEq ι] in
theorem open_account (h : Tallies t c items g) {a : α} (hi : t.insert? a = some t') (hc : c a = 0)
    (hg : ∀ b ∈ items.rows, g (key a) b = 0) : Tallies t' c items g := by
  apply Table.forall_insert hi h
  rw [hc, Table.sum_eq_zero _ _ hg]

omit [DecidableEq κ] [DecidableEq ι] in
theorem update_accounts (h : Tallies t c items g) {p : α → Bool} {f : α → α}
    (hc : ∀ a ∈ t.rows, p a → c (f a) = c a)
    (hf : ∀ a, key (f a) = key a := by first | assumption | (intros; rfl)) :
    Tallies (t.update p f hf) c items g := by
  apply Table.forall_update h
  intro a ha hp
  rw [hc a ha hp, hf]
  exact h a ha

omit [DecidableEq ι] in
theorem modify_account (h : Tallies t c items g) {k : κ} {a : α} {f : α → α}
    (ha : t.get? k = some a)
    (hc : c (f a) = c a) (hf : ∀ a, key (f a) = key a := by first | assumption | (intros; rfl)) :
    Tallies (t.modify k f hf) c items g := by
  apply Table.forall_modify ha h
  rw [hc, hf]
  exact h a (Table.mem_of_get? ha)

omit [DecidableEq κ] [DecidableEq ι] in
theorem update_items (h : Tallies t c items g) {p : β → Bool} {f : β → β}
    (hg : ∀ b ∈ items.rows, p b → ∀ k, g k (f b) = g k b)
    (hf : ∀ b, key' (f b) = key' b := by first | assumption | (intros; rfl)) :
    Tallies t c (items.update p f hf) g := by
  intro a ha
  rw [Table.sum_update_of_eq _ _ _ _ _ fun b hb hp => hg b hb hp _]
  exact h a ha

omit [DecidableEq κ] in
theorem insert_weightless (h : Tallies t c items g) {b : β} (hi : items.insert? b = some items')
    (hg : ∀ a ∈ t.rows, g (key a) b = 0) : Tallies t c items' g := by
  intro a ha
  rw [Table.sum_insert _ hi, hg a ha, add_zero]
  exact h a ha

omit [DecidableEq κ] in
theorem modify_weightless (h : Tallies t c items g) {b : β} {i : ι} {f : β → β}
    (hb : items.get? i = some b) (hg : ∀ k, g k (f b) = g k b)
    (hf : ∀ b, key' (f b) = key' b := by first | assumption | (intros; rfl)) :
    Tallies t c (items.modify i f hf) g := by
  intro a ha
  rw [Table.sum_modify _ _ _ hb, hg, sub_add_cancel]
  exact h a ha

omit [DecidableEq ι] in
/-- Only the account `k` and the sum for it change, by the same amount. -/
theorem change (h : Tallies t c items g) {k : κ} {a : α} {f : α → α}
    (ha : t.get? k = some a) (delta : Int) (hc : c (f a) = c a + delta)
    (hk : items'.sum (g k) = items.sum (g k) + delta)
    (hne : ∀ k', k' ≠ k → items'.sum (g k') = items.sum (g k'))
    (hf : ∀ a, key (f a) = key a := by first | assumption | (intros; rfl)) :
    Tallies (t.modify k f hf) c items' g := by
  intro x hx
  obtain ⟨y, hy, rfl⟩ := Table.mem_update.1 hx
  by_cases hky : key y = k
  · have : y = a := Table.eq_of_mem_of_key hy (Table.mem_of_get? ha)
      (hky.trans (Table.key_of_get? ha).symm)
    subst this
    simp only [hky, decide_true, if_true, hf]
    rw [hc, hk, h y hy, hky]
  · simp only [hky, decide_false, Bool.false_eq_true, if_false]
    rw [hne _ hky]
    exact h y hy

theorem insert_item (h : Tallies t c items g) {k : κ} {a : α} {f : α → α} {b : β}
    (ha : t.get? k = some a) (hi : items.insert? b = some items') (hc : c (f a) = c a + g k b)
    (hg : ∀ k', k' ≠ k → g k' b = 0)
    (hf : ∀ a, key (f a) = key a := by first | assumption | (intros; rfl)) :
    Tallies (t.modify k f hf) c items' g := by
  apply h.change ha (g k b) hc (Table.sum_insert _ hi)
  intro k' hk'
  rw [Table.sum_insert _ hi, hg k' hk', add_zero]

theorem modify_item (h : Tallies t c items g) {k : κ} {a : α} {f : α → α} {i : ι}
    {b : β} {f' : β → β} (ha : t.get? k = some a) (hb : items.get? i = some b)
    (hc : c (f a) = c a - g k b + g k (f' b)) (hg : ∀ k', k' ≠ k → g k' (f' b) = g k' b)
    (hf : ∀ a, key (f a) = key a := by first | assumption | (intros; rfl))
    (hf' : ∀ b, key' (f' b) = key' b := by first | assumption | (intros; rfl)) :
    Tallies (t.modify k f hf) c (items.modify i f' hf') g := by
  apply h.change ha (g k (f' b) - g k b)
  · omega
  · rw [Table.sum_modify _ _ _ hb]; omega
  · intro k' hk'
    rw [Table.sum_modify _ _ _ hb, hg k' hk', sub_add_cancel]

end Tallies
