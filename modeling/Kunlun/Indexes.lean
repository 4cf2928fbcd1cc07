import Kunlun.Effects
import Kunlun.Keeps

/-!
# Unique indexes

What an index allows to add and to change, and that orders and refunds are never without theirs.
-/

namespace Kunlun

section Unique

variable {α β κ : Type} [DecidableEq β] [DecidableEq κ] {key : α → κ} {index : α → Option β}

theorem unique_iff {rows : List α} :
    unique rows index ↔ rows.Pairwise fun x y => ∀ b ∈ index x, ∀ c ∈ index y, b ≠ c := by
  rw [unique, decide_eq_true_eq, List.Nodup, List.pairwise_filterMap]
  simp only [Option.mem_def]

theorem unique_injective {f : α → β} {rows : List α} (h : unique rows fun a => some (f a))
    {x y : α} (hx : x ∈ rows)
    (hy : y ∈ rows) (hxy : f x = f y) : x = y := by
  rw [unique, decide_eq_true_eq, List.filterMap_eq_map'] at h
  exact List.inj_on_of_nodup_map h hx hy hxy

theorem unique_append_of {rows : List α} {a : α} (h : unique rows index)
    (hnew : ∀ x ∈ rows, ∀ b ∈ index x, b ∉ index a) : unique (rows ++ [a]) index := by
  rw [unique_iff] at h ⊢
  refine List.pairwise_append.2 ⟨h, List.pairwise_singleton .., fun x hx y hy b hb c hc hbc => ?_⟩
  obtain rfl := List.mem_singleton.1 hy
  exact hnew x hx b hb (hbc ▸ hc)

theorem unique_modify {t : Table α key} {k : κ} {a : α} {f : α → α} {hf : ∀ a, key (f a) = key a}
    (hk : t.get? k = some a) (h : unique t.rows index)
    (hnew : ∀ x ∈ t.rows, key x ≠ k → ∀ b ∈ index x, b ∉ index (f a)) :
    unique (t.modify k f hf).rows index := by
  obtain ⟨-, rfl⟩ := Table.get?_eq_some.1 hk
  have hself {x : α} (hx : x ∈ t.rows) (hxa : key x = key a) : x = a :=
    Table.eq_of_mem_of_key hx (Table.mem_of_get? hk) hxa
  have hkeys : t.rows.Pairwise fun x y => key x ≠ key y := List.pairwise_map.1 t.unique
  rw [unique_iff] at h ⊢
  refine List.pairwise_map.2 ((h.and hkeys).imp_of_mem fun {x y} hx hy hxy b hb c hc => ?_)
  obtain ⟨hxy, hne⟩ := hxy
  by_cases hxa : key x = key a <;> by_cases hya : key y = key a
  · exact absurd (hxa.trans hya.symm) hne
  · rw [if_pos (by simpa using hxa), hself hx hxa] at hb
    rw [if_neg (by simpa using hya)] at hc
    rintro rfl
    exact hnew y hy hya b hc hb
  · rw [if_neg (by simpa using hxa)] at hb
    rw [if_pos (by simpa using hya), hself hy hya] at hc
    rintro rfl
    exact hnew x hx hxa b hb hc
  · rw [if_neg (by simpa using hxa)] at hb
    rw [if_neg (by simpa using hya)] at hc
    exact hxy b hb c hc

theorem unique_modify_same {t : Table α key} {k : κ} {a : α} {f : α → α}
    (hf : ∀ a, key (f a) = key a)
    (hk : t.get? k = some a) (h : unique t.rows index) (hsame : index (f a) = index a) :
    unique (t.modify k f hf).rows index := by
  have hmap (rows : List α) : rows.filterMap index = (rows.map index).filterMap
      id := by simp [List.filterMap_map]
  rw [unique, hmap] at h ⊢
  rwa [Table.map_modify f hf index hk hsame]

end Unique

theorem uniqueOrders_modify_same {t : Table PaymentOrder PaymentOrder.id}
    {i : Id} {o : PaymentOrder}
    {f : PaymentOrder → PaymentOrder} (hf : ∀ o, (f o).id = o.id) (ho : t.get? i = some o)
    (h : uniqueOrders t.rows)
    (ht : (f o).providerTransactionId = o.providerTransactionId) (hu : (f o).userId = o.userId)
    (hk : (f o).clientIdempotencyKey = o.clientIdempotencyKey) :
    uniqueOrders (t.modify i f hf).rows := by
  rw [uniqueOrders, Bool.and_eq_true] at h ⊢
  exact ⟨unique_modify_same hf ho h.1 ht, unique_modify_same hf ho h.2 (by rw [hu, hk])⟩

theorem uniqueRefunds_modify_same {t : Table PaymentRefund PaymentRefund.id} {i : Id}
    {r : PaymentRefund}
    {f : PaymentRefund → PaymentRefund} (hf : ∀ r, (f r).id = r.id) (hr : t.get? i = some r)
    (h : uniqueRefunds t.rows)
    (ho : (f r).orderId = r.orderId) (hp : (f r).providerRefundId = r.providerRefundId) :
    uniqueRefunds (t.modify i f hf).rows := by
  rw [uniqueRefunds, Bool.and_eq_true] at h ⊢
  exact ⟨unique_modify_same hf hr h.1 (by rw [ho]), unique_modify_same hf hr h.2 hp⟩

/-! ## Orders and refunds -/

/-- Orders and refunds have their unique indexes. -/
structure DB.Indexed (d : DB) : Prop where
  orders : uniqueOrders d.orders.rows
  refunds : uniqueRefunds d.refunds.rows

theorem refundWithKey_some {d : DB} {orderId : Id} {key : String} {r : PaymentRefund}
    (h : refundWithKey orderId key d = some r) :
    d.refunds.get? r.id = some r ∧ r.orderId = orderId ∧ r.idempotencyKey = key := by
  have hkey := List.find?_some h
  exact ⟨Table.get?_of_mem (List.mem_of_find?_eq_some h), of_decide_eq_true hkey⟩

theorem refundWithKey_of_get? {d : DB} (h : d.Indexed) {i : Id} {r : PaymentRefund}
    (hr : d.refunds.get? i = some r) :
    refundWithKey r.orderId r.idempotencyKey d = some r := by
  have hmem := Table.mem_of_get? hr
  have hsome : (refundWithKey r.orderId r.idempotencyKey d).isSome := by
    refine List.find?_isSome.2 ⟨r, hmem, ?_⟩
    simp
  obtain ⟨x, hx⟩ := Option.isSome_iff_exists.1 hsome
  obtain ⟨hget, horder, -⟩ := refundWithKey_some hx
  rw [hx, unique_injective (Bool.and_eq_true_iff.1 h.refunds).1
    (Table.mem_of_get? hget) hmem horder]

def indexed : Track DB where
  rel d e := d.Indexed → e.Indexed
  refl _ := id
  trans h h' := h' ∘ h

theorem indexed_of_eq {d e : DB} (ho : e.orders = d.orders)
    (hr : e.refunds = d.refunds) : indexed.rel d e := by
  intro h
  exact ⟨ho ▸ h.orders, hr ▸ h.refunds⟩

theorem updateOrders_indexed (p : PaymentOrder → Bool) (f : PaymentOrder → PaymentOrder)
    (hf : ∀ o, (f o).id = o.id) : Kept indexed (DB.flushing (DB.updateOrders p f hf)) := by
  refine ⟨fun d e he h => ?_⟩
  obtain ⟨hu, rfl⟩ := flushOrders_ok.1 he
  exact ⟨hu, h.refunds⟩

theorem updateRefunds_indexed (p : PaymentRefund → Bool) (f : PaymentRefund → PaymentRefund)
    (hf : ∀ r, (f r).id = r.id) : Kept indexed (DB.flushing (DB.updateRefunds p f hf)) := by
  refine ⟨fun d e he h => ?_⟩
  obtain ⟨hu, rfl⟩ := flushRefunds_ok.1 he
  exact ⟨h.orders, hu⟩

theorem keepsMoney_indexed : KeepsMoney indexed := by
  refine keepsMoney_of (keepsAccounts_of (fun _ _ _ _ _ _ _ => indexed_of_eq rfl rfl) fun _ _ _ _ =>
    ?_)
    (fun _ _ _ _ _ => indexed_of_eq rfl rfl) (fun _ => ?_) (fun _ => ?_)
      (fun _ => ?_) (fun _ _ => ?_)
    (fun p f hf _ => updateOrders_indexed p f hf) fun p f hf _ => updateRefunds_indexed p f hf
  · exact ⟨fun d e h => by obtain rfl := Option.some.inj h; exact indexed_of_eq rfl rfl⟩
  · exact ⟨fun d e h => by obtain ⟨t, rfl⟩ := of_insert_unique h; exact indexed_of_eq rfl rfl⟩
  · exact ⟨fun d e h => by obtain ⟨t, rfl⟩ := of_insert_unique h; exact indexed_of_eq rfl rfl⟩
  · refine ⟨fun d e he h => ?_⟩
    obtain ⟨t, -, ⟨-, hu⟩, rfl⟩ := insertOrder_ok.1 he
    exact ⟨hu, h.refunds⟩
  · refine ⟨fun d e he h => ?_⟩
    obtain ⟨t, -, hu, rfl⟩ := insertRefund_ok.1 he
    exact ⟨h.orders, hu⟩

theorem keepsAll_indexed : KeepsAll indexed where
  toKeepsMoney := keepsMoney_indexed
  atRisk _ := updateRefunds_indexed ..
  verify _ _ := ⟨fun d e h => by obtain rfl := Option.some.inj h; exact indexed_of_eq rfl rfl⟩
  unfreeze _ := ⟨fun d e h => by obtain rfl := Option.some.inj h; exact indexed_of_eq rfl rfl⟩
  regrant _ _ _ _ _ _ := updateRefunds_indexed ..
  uncertain _ _ := updateRefunds_indexed ..
  reconcile _ := ⟨fun _ _ => updateOrders_indexed .., updateOrders_indexed .., fun _ =>
    updateOrders_indexed ..⟩

end Kunlun
