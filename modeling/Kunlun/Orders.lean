import Kunlun.Wallets

/-!
# Orders, refunds and the journal move together
-/

namespace Kunlun

/-! ## What journals say of an order -/

def clearingOf (orderId : Id) (t : LedgerTransaction) : Int :=
  if t.reference = orderId then t.total .platformClearing else 0

def riskOf (orderId : Id) (t : LedgerTransaction) : Int :=
  if t.reference = orderId then t.total .platformRisk else 0

/-- One for each journal that credits the customer for the order. -/
def creditOf (orderId : Id) (t : LedgerTransaction) : Int :=
  if t.reference = orderId ∧ 0 < t.total .customerAvailable then 1 else 0

/-- What the clearing entries of an order come to. -/
def PaymentOrder.clearing (o : PaymentOrder) : Int :=
  if o.status = .paid ∨ o.status = .refunding then -o.creditAmountMicrousd else 0

/-- How often the order has been credited. -/
def PaymentOrder.credits (o : PaymentOrder) : Int :=
  if o.status = .paid ∨ o.status = .refunding ∨ o.status = .refunded then 1 else 0

/-- The statuses of an order and of its refund. -/
def Matched (s : OrderStatus) (r : RefundStatus) : Prop :=
  s = .refunding ∧ r.isActive ∨ s = .refunded ∧ r.isActive = false

structure Books.OrdersAgree (b : Books) : Prop where
  /-- A journal refers to a request or to an order, as its kind says. -/
  request : ∀ j ∈ b.ledger.rows, j.kind.ofRequest → (b.requests.get? j.reference).isSome
  order : ∀ j ∈ b.ledger.rows, j.kind.ofRequest = false → (b.orders.get? j.reference).isSome
  riskKind : ∀ j ∈ b.ledger.rows, j.kind.ofRequest = false → j.kind.ofRisk = false →
    j.total .platformRisk = 0
  apart : ∀ o ∈ b.orders.rows, b.requests.get? o.id = none
  clearing : Tallies b.orders PaymentOrder.clearing b.ledger clearingOf
  credits : Tallies b.orders PaymentOrder.credits b.ledger creditOf
  matched : ∀ r ∈ b.refunds.rows, ∃ o, b.orders.get? r.orderId = some o ∧ Matched o.status r.status
  hasRefund : ∀ o ∈ b.orders.rows, o.status = .refunding ∨ o.status = .refunded →
    ∃ r ∈ b.refunds.rows, r.orderId = o.id
  single : (b.refunds.rows.map PaymentRefund.orderId).Nodup
  atRisk : ∀ r ∈ b.refunds.rows, r.status = .risk → b.ledger.sum (riskOf r.orderId) < 0
  riskFree : ∀ o ∈ b.orders.rows, (∀ r ∈ b.refunds.rows, r.orderId = o.id → r.status ≠ .risk) →
    b.ledger.sum (riskOf o.id) = 0

/-- Orders and requests have ids of their own. -/
structure Env.Apart (env : Env) : Prop where
  orderId : ∀ b i, env.orderId b i → b.requests.get? i = none
  requestId : ∀ b i, env.requestId b i → b.orders.get? i = none

/-! ## Journals -/

section
variable {j : LedgerTransaction} {kind : LedgerKind} {userId reference : Id}
  {available reserved clearing risk : Int}

theorem Posts.clearingOf (h : Posts j kind userId reference available reserved clearing risk)
    (k : Id) :
    clearingOf k j = if reference = k then clearing else 0 := by
  rw [Kunlun.clearingOf, h.reference, h.clearing]

theorem Posts.riskOf (h : Posts j kind userId reference available reserved clearing risk) (k : Id) :
    riskOf k j = if reference = k then risk else 0 := by
  rw [Kunlun.riskOf, h.reference, h.risk]

theorem Posts.creditOf (h : Posts j kind userId reference available reserved clearing risk)
    (k : Id) :
    creditOf k j = if reference = k ∧ 0 < available then 1 else 0 := by
  rw [Kunlun.creditOf, h.reference, h.available]

end

theorem OrderStatus.Progress.clearing {o o' : PaymentOrder} (h : o.status.Progress o'.status)
    (hc : o'.creditAmountMicrousd = o.creditAmountMicrousd) : o'.clearing = o.clearing := by
  unfold PaymentOrder.clearing
  rcases h with h | ⟨h1, h2⟩
  · rw [h, hc]
  · cases hs : o.status <;> cases hs' : o'.status <;> simp_all [OrderStatus.isOpen]

theorem OrderStatus.Progress.credits {o o' : PaymentOrder} (h : o.status.Progress o'.status) :
    o'.credits = o.credits := by
  unfold PaymentOrder.credits
  rcases h with h | ⟨h1, h2⟩
  · rw [h]
  · cases hs : o.status <;> cases hs' : o'.status <;> simp_all [OrderStatus.isOpen]

theorem OrderStatus.Progress.matched {s s' : OrderStatus} (h : s.Progress s') {r : RefundStatus}
    (hm : Matched s r) : Matched s' r := by
  rcases h with rfl | ⟨h1, -⟩
  · exact hm
  · rcases hm with ⟨rfl, -⟩ | ⟨rfl, -⟩ <;> simp [OrderStatus.isOpen] at h1

theorem OrderStatus.Progress.refund {s s' : OrderStatus} (h : s.Progress s')
    (hs : s' = .refunding ∨ s' = .refunded) : s' = s := by
  rcases h with h | ⟨-, h⟩
  · exact h
  · rcases hs with rfl | rfl <;> simp [OrderStatus.isOpen] at h

namespace Books.OrdersAgree

variable {b : Books}

theorem ne_of_request (h : b.OrdersAgree) {o : PaymentOrder} (ho : o ∈ b.orders.rows) {i : Id}
    (hi : (b.requests.get? i).isSome) : i ≠ o.id := by
  rintro rfl
  rw [h.apart o ho] at hi
  simp at hi

theorem post_request (h : b.OrdersAgree) {j : LedgerTransaction} {kind : LedgerKind} {r : ModelRequest}
    {available reserved clearing risk : Int} {wallets : Table Wallet Wallet.userId}
    {ledger : Table LedgerTransaction LedgerTransaction.idempotencyKey}
      {budgets : Table Budget Budget.id}
    {requests : Table ModelRequest ModelRequest.id} (hl : b.ledger.insert? j = some ledger)
    (hj : Posts j kind r.userId r.id available reserved clearing risk) (hk : kind.ofRequest)
    (hr : (requests.get? r.id).isSome) (hreq : ∀ i, (b.requests.get? i).isSome →
      (requests.get? i).isSome)
    (hapart : ∀ o ∈ b.orders.rows, requests.get? o.id = none) :
    Books.OrdersAgree { b with wallets := wallets, ledger := ledger, budgets := budgets, requests := requests } := by
  have hne : ∀ o ∈ b.orders.rows, r.id ≠ o.id := by
    rintro o ho heq
    rw [heq, hapart o ho] at hr
    simp at hr
  have hrisk : ∀ o ∈ b.orders.rows, ledger.sum (riskOf o.id) = b.ledger.sum (riskOf o.id) := by
    intro o ho
    rw [Table.sum_insert _ hl, hj.riskOf, if_neg (hne o ho), add_zero]
  constructor
  · exact Table.forall_insert hl (fun t ht hkind => hreq _ (h.request t ht hkind))
      (by rw [hj.reference]; exact fun _ => hr)
  · exact Table.forall_insert hl h.order (by simp [hj.kind, hk])
  · exact Table.forall_insert hl h.riskKind (by simp [hj.kind, hk])
  · exact hapart
  · exact h.clearing.insert_weightless hl fun o ho => by rw [hj.clearingOf, if_neg (hne o ho)]
  · exact h.credits.insert_weightless hl fun o ho => by rw [hj.creditOf, if_neg fun hc => hne o ho hc.1]
  · exact h.matched
  · exact h.hasRefund
  · exact h.single
  · intro x hx hs
    obtain ⟨o, ho, -⟩ := h.matched x hx
    have := hrisk o (Table.mem_of_get? ho)
    rw [Table.key_of_get? ho] at this
    rw [this]
    exact h.atRisk x hx hs
  · intro o ho hs
    rw [hrisk o ho]
    exact h.riskFree o ho hs

theorem place (h : b.OrdersAgree) {o : PaymentOrder} {orders : Table PaymentOrder PaymentOrder.id}
    (hi : b.orders.insert? o = some orders) (hs : o.status = .pending)
    (hd : b.requests.get? o.id = none) :
    Books.OrdersAgree { b with orders := orders } := by
  have hnone := (Table.insert?_eq_some.1 hi).1
  have href : ∀ j ∈ b.ledger.rows, j.reference ≠ o.id := by
    intro j hj heq
    cases hk : j.kind.ofRequest
    · have := h.order j hj hk
      simp [heq, hnone] at this
    · have := h.request j hj hk
      simp [heq, hd] at this
  have hget : ∀ i, (b.orders.get? i).isSome → orders.get? i = b.orders.get? i := by
    intro i hi'
    rw [Table.get?_insert hi, if_neg]
    rintro rfl
    simp [hnone] at hi'
  constructor
  · exact h.request
  · intro j hj hk
    have := h.order j hj hk
    rwa [hget _ this]
  · exact h.riskKind
  · exact Table.forall_insert hi h.apart hd
  · exact h.clearing.open_account hi (by simp [PaymentOrder.clearing, hs])
      fun j hj => if_neg (href j hj)
  · exact h.credits.open_account hi (by simp [PaymentOrder.credits, hs]) fun j hj =>
      if_neg fun hc => href j hj hc.1
  · intro r hr
    obtain ⟨x, hx, hm⟩ := h.matched r hr
    exact ⟨x, by rw [hget _ (by simp [hx])]; exact hx, hm⟩
  · exact Table.forall_insert hi h.hasRefund (by simp [hs])
  · exact h.single
  · exact h.atRisk
  · exact Table.forall_insert hi h.riskFree fun _ =>
      Table.sum_eq_zero _ _ fun j hj => if_neg (href j hj)

theorem progress (h : b.OrdersAgree) {env : Env} {p : PaymentOrder → Bool}
    {f : PaymentOrder → PaymentOrder}
    (hf : ∀ o, (f o).id = o.id)
    (edit : ∀ o ∈ b.orders.rows, p o → OrderEdit env.test o (f o) ∧
      o.status.Progress (f o).status) :
    Books.OrdersAgree { b with orders := b.orders.update p f hf } := by
  constructor
  · exact h.request
  · simpa using h.order
  · exact h.riskKind
  · exact Table.forall_update h.apart fun o ho _ => by rw [hf]; exact h.apart o ho
  · exact h.clearing.update_accounts fun o ho hp =>
      (edit o ho hp).2.clearing (edit o ho hp).1.credit
  · exact h.credits.update_accounts fun o ho hp => (edit o ho hp).2.credits
  · intro r hr
    obtain ⟨o, ho, hm⟩ := h.matched r hr
    refine ⟨_, by rw [Table.get?_update, ho]; rfl, ?_⟩
    dsimp only
    split
    · exact (edit o (Table.mem_of_get? ho) ‹_›).2.matched hm
    · exact hm
  · refine Table.forall_update h.hasRefund fun o ho hp hs => ?_
    rw [(edit o ho hp).2.refund hs] at hs
    rw [hf]
    exact h.hasRefund o ho hs
  · exact h.single
  · exact h.atRisk
  · refine Table.forall_update h.riskFree fun o ho _ => ?_
    rw [hf]
    exact h.riskFree o ho

theorem matched_modify (h : b.OrdersAgree) {o : PaymentOrder} {g : PaymentOrder → PaymentOrder}
    {r : PaymentRefund} (hr : r ∈ b.refunds.rows) (hne : r.orderId ≠ o.id)
    (hg : ∀ x, (g x).id = x.id := by first | assumption | (intros; rfl)) :
    ∃ x, (b.orders.modify o.id g hg).get? r.orderId = some x ∧ Matched x.status r.status := by
  obtain ⟨x, hx, hm⟩ := h.matched r hr
  exact ⟨x, by rw [Table.get?_modify, if_neg hne]; exact hx, hm⟩

theorem riskFree_of_not_refunded (h : b.OrdersAgree) {o : PaymentOrder}
    (ho : b.orders.get? o.id = some o)
    (hs : o.status ≠ .refunded) : b.ledger.sum (riskOf o.id) = 0 := by
  apply h.riskFree o (Table.mem_of_get? ho)
  intro r hr hro hrisk
  obtain ⟨x, hx, hm⟩ := h.matched r hr
  rw [hro, ho] at hx
  obtain rfl := Option.some.inj hx
  rcases hm with ⟨-, hm⟩ | ⟨hm, -⟩
  · simp [hrisk, RefundStatus.isActive] at hm
  · exact hs hm

theorem credit (h : b.OrdersAgree) {env : Env} {o : PaymentOrder} {f : PaymentOrder → PaymentOrder}
    (hf : ∀ x, (f x).id = x.id) {j : LedgerTransaction} {kind : LedgerKind}
    {ledger : Table LedgerTransaction LedgerTransaction.idempotencyKey}
      {wallets : Table Wallet Wallet.userId}
    (found : b.orders.get? o.id = some o) (hopen : o.status.isOpen) (edit : OrderEdit env.test o (f o))
    (paid : (f o).status = .paid) (hkind : kind.ofCredit)
    (posts : Posts j kind o.userId o.id o.creditAmountMicrousd 0 (-o.creditAmountMicrousd) 0)
    (post : b.ledger.insert? j = some ledger) :
    Books.OrdersAgree { b with wallets := wallets, ledger := ledger, orders := b.orders.modify o.id f hf } := by
  have hof : kind.ofRequest = false := by cases kind <;> simp_all [LedgerKind.ofCredit,
    LedgerKind.ofRequest]
  have hrisk (k : Id) : ledger.sum (riskOf k) = b.ledger.sum (riskOf k) := by
    rw [Table.sum_insert _ post, posts.riskOf]
    simp
  have hpos := o.creditPositive
  have hopen' : o.status ≠ .paid ∧ o.status ≠ .refunding ∧ o.status ≠ .refunded := by
    cases hs : o.status <;> simp_all [OrderStatus.isOpen]
  constructor
  · exact Table.forall_insert post h.request (by simp [posts.kind, hof])
  · exact Table.forall_insert post (by simpa using h.order) (by simp [posts.reference, found])
  · exact Table.forall_insert post h.riskKind (by simp [posts.risk])
  · exact Table.forall_modify found h.apart (by rw [hf]; exact h.apart o (Table.mem_of_get? found))
  · apply h.clearing.insert_item found post
    · simp [PaymentOrder.clearing, paid, hopen', edit.credit, posts.clearingOf]
    · intro k hk
      simp [posts.clearingOf, Ne.symm hk]
  · apply h.credits.insert_item found post
    · simp [PaymentOrder.credits, paid, hopen', posts.creditOf, hpos]
    · intro k hk
      simp [posts.creditOf, Ne.symm hk]
  · intro r hr
    apply h.matched_modify hr
    intro hro
    obtain ⟨x, hx, hm⟩ := h.matched r hr
    rw [hro, found] at hx
    obtain rfl := Option.some.inj hx
    rcases hm with ⟨hm, -⟩ | ⟨hm, -⟩
    · exact hopen'.2.1 hm
    · exact hopen'.2.2 hm
  · exact Table.forall_modify found h.hasRefund (by simp [paid])
  · exact h.single
  · exact fun r hr hs => by rw [hrisk]; exact h.atRisk r hr hs
  · refine Table.forall_modify found (fun x hx => by rw [hrisk]; exact h.riskFree x hx) fun _ => ?_
    rw [hrisk, hf]
    exact h.riskFree_of_not_refunded found hopen'.2.2

theorem nodup_of_uniqueRefunds {rows : List PaymentRefund} (h : uniqueRefunds rows) :
    (rows.map PaymentRefund.orderId).Nodup := by
  simp only [uniqueRefunds, unique, Bool.and_eq_true, decide_eq_true_eq] at h
  simpa using h.1

theorem command (h : b.OrdersAgree) {o : PaymentOrder} {r : PaymentRefund}
    {refunds : Table PaymentRefund PaymentRefund.id} (found : b.orders.get? o.id = some o)
    (paid : o.status = .paid) (orderId : r.orderId = o.id) (status : r.status.isActive)
    (insert : b.refunds.insert? r = some refunds) (uniqueness : uniqueRefunds refunds.rows) :
    Books.OrdersAgree { b with
      refunds := refunds
      orders := b.orders.modify o.id fun o => { o with status := .refunding } } := by
  have hmem {x : PaymentRefund} (hx : x ∈ b.refunds.rows) : x ∈ refunds.rows :=
    (Table.mem_insert insert).2 (.inl hx)
  have hself : r ∈ refunds.rows := (Table.mem_insert insert).2 (.inr rfl)
  have hfree : ∀ x ∈ b.orders.rows, (∀ y ∈ refunds.rows, y.orderId = x.id → y.status ≠ .risk) →
      b.ledger.sum (riskOf x.id) = 0 := fun x hx hs => h.riskFree x hx fun y hy => hs y (hmem hy)
  have hfree' := h.riskFree_of_not_refunded found (by simp [paid])
  constructor
  · exact h.request
  · simpa using h.order
  · exact h.riskKind
  · exact Table.forall_modify found h.apart (h.apart o (Table.mem_of_get? found))
  · exact h.clearing.modify_account found (by simp [PaymentOrder.clearing, paid])
  · exact h.credits.modify_account found (by simp [PaymentOrder.credits, paid])
  · refine Table.forall_insert insert (fun x hx => h.matched_modify hx ?_) ?_
    · intro hxo
      obtain ⟨y, hy, hm⟩ := h.matched x hx
      rw [hxo, found] at hy
      obtain rfl := Option.some.inj hy
      rcases hm with ⟨hm, -⟩ | ⟨hm, -⟩ <;> simp [paid] at hm
    · exact ⟨_, by rw [Table.get?_modify, if_pos orderId, orderId, found]; rfl, .inl ⟨rfl, status⟩⟩
  · refine Table.forall_modify found (fun x hx hs => ?_) fun _ => ⟨r, hself, orderId⟩
    obtain ⟨y, hy, hyx⟩ := h.hasRefund x hx hs
    exact ⟨y, hmem hy, hyx⟩
  · exact nodup_of_uniqueRefunds uniqueness
  · exact Table.forall_insert insert h.atRisk
      fun hs => by simp [hs, RefundStatus.isActive] at status
  · exact Table.forall_modify found hfree fun _ => hfree'

theorem reissue (h : b.OrdersAgree) {p : PaymentRefund → Bool} {f : PaymentRefund → PaymentRefund}
    (hf : ∀ r, (f r).id = r.id)
    (edit : ∀ r ∈ b.refunds.rows, p r → RefundEdit r (f r) ∧ r.status.isActive ∧
      (f r).status.isActive) :
    Books.OrdersAgree { b with refunds := b.refunds.update p f hf } := by
  -- A refund keeps its row or stays active.
  have hrow : ∀ x ∈ b.refunds.rows, ∃ y ∈ (b.refunds.update p f hf).rows, y.orderId = x.orderId ∧
      (x.status = .risk → y.status = .risk) := by
    intro x hx
    refine ⟨_, Table.mem_update.2 ⟨x, hx, rfl⟩, ?_⟩
    split
    · obtain ⟨he, ha, -⟩ := edit x hx ‹_›
      exact ⟨he.orderId, fun hs => by simp [hs, RefundStatus.isActive] at ha⟩
    · exact ⟨rfl, id⟩
  constructor
  · exact h.request
  · exact h.order
  · exact h.riskKind
  · exact h.apart
  · exact h.clearing
  · exact h.credits
  · refine Table.forall_update h.matched fun r hr hp => ?_
    obtain ⟨he, ha, ha'⟩ := edit r hr hp
    obtain ⟨o, ho, hm⟩ := h.matched r hr
    refine ⟨o, by rw [he.orderId]; exact ho, ?_⟩
    rcases hm with ⟨hs, -⟩ | ⟨-, hn⟩
    · exact .inl ⟨hs, ha'⟩
    · simp [ha] at hn
  · intro o ho hs
    obtain ⟨x, hx, hxo⟩ := h.hasRefund o ho hs
    obtain ⟨y, hy, hyx, -⟩ := hrow x hx
    exact ⟨y, hy, hyx.trans hxo⟩
  · rw [Table.map_update _ _ _ hf _ fun r hr hp => (edit r hr hp).1.orderId]
    exact h.single
  · refine Table.forall_update h.atRisk fun r hr hp hs => ?_
    have := (edit r hr hp).2.2
    simp [hs, RefundStatus.isActive] at this
  · intro o ho hs
    apply h.riskFree o ho
    intro x hx hxo hrisk
    obtain ⟨y, hy, hyx, hyr⟩ := hrow x hx
    exact hs y hy (hyx.trans hxo) (hyr hrisk)

theorem eq_of_orderId {refunds : Table PaymentRefund PaymentRefund.id}
    (single : (refunds.rows.map PaymentRefund.orderId).Nodup) {x y : PaymentRefund}
    (hx : x ∈ refunds.rows)
    (hy : y ∈ refunds.rows) (h : x.orderId = y.orderId) : x = y :=
  List.inj_on_of_nodup_map single hx hy h

theorem reverse (h : b.OrdersAgree) {o : PaymentOrder} {g : PaymentOrder → PaymentOrder}
    (hg : ∀ x, (g x).id = x.id) {r : PaymentRefund} {f : PaymentRefund → PaymentRefund}
    (hf : ∀ x, (f x).id = x.id) {recovered : Int} {j : LedgerTransaction} {kind : LedgerKind}
    {refunds : Table PaymentRefund PaymentRefund.id} {wallets : Table Wallet Wallet.userId}
    {ledger : Table LedgerTransaction LedgerTransaction.idempotencyKey}
    (found : b.orders.get? o.id = some o) (reversible : o.status = .paid ∨ o.status = .refunding)
    (refunded : (g o).status = .refunded)
    (source : refunds = b.refunds ∨ b.refunds.insert? r = some refunds ∧ uniqueRefunds refunds.rows)
    (foundRefund : refunds.get? r.id = some r) (orderId : r.orderId = o.id)
    (editRefund : RefundEdit r (f r))
    (ended : (f r).status = if recovered = o.creditAmountMicrousd then .refunded else .risk)
    (nonneg : 0 ≤ recovered) (within : recovered ≤ o.creditAmountMicrousd)
    (hkind : kind = if recovered = o.creditAmountMicrousd then .paymentRefund
      else .paymentRefundRisk)
    (posts : Posts j kind o.userId o.id (-recovered) 0 o.creditAmountMicrousd
      (-(o.creditAmountMicrousd - recovered)))
    (post : b.ledger.insert? j = some ledger) :
    Books.OrdersAgree { b with
      wallets := wallets
      ledger := ledger
      orders := b.orders.modify o.id g hg
      refunds := refunds.modify r.id f hf } := by
  have hof : kind.ofRequest = false := by subst hkind; split <;> rfl
  have hr := Table.mem_of_get? foundRefund
  have hsingle : (refunds.rows.map PaymentRefund.orderId).Nodup := by
    rcases source with rfl | ⟨-, hu⟩
    · exact h.single
    · exact nodup_of_uniqueRefunds hu
  have hmem : ∀ x ∈ b.refunds.rows, x ∈ refunds.rows := by
    rcases source with rfl | ⟨hi, -⟩
    · exact fun _ => id
    · exact fun x hx => (Table.mem_insert hi).2 (.inl hx)
  -- Any other refund is an old one, of another order.
  have hother : ∀ x ∈ refunds.rows, x.id ≠ r.id → x ∈ b.refunds.rows ∧ x.orderId ≠ o.id := by
    intro x hx hne
    refine ⟨?_, fun hxo => hne (by rw [eq_of_orderId hsingle hx hr (hxo.trans orderId.symm)])⟩
    rcases source with rfl | ⟨hi, -⟩
    · exact hx
    · exact ((Table.mem_insert hi).1 hx).resolve_right fun heq => hne (by rw [heq])
  have hself : f r ∈ (refunds.modify r.id f hf).rows :=
    (Table.mem_modify hf foundRefund).2 (.inl rfl)
  have hkeep : ∀ x ∈ b.refunds.rows, x.orderId ≠ o.id → x ∈ (refunds.modify r.id f hf).rows := by
    intro x hx hne
    refine (Table.mem_modify hf foundRefund).2 (.inr ⟨hmem x hx, fun hid => hne ?_⟩)
    rw [Table.eq_of_mem_of_key (hmem x hx) hr hid, orderId]
  have hsum (k : Id) : ledger.sum (riskOf k) =
      b.ledger.sum (riskOf k) + if o.id = k then -(o.creditAmountMicrousd - recovered) else 0 := by
    rw [Table.sum_insert _ post, posts.riskOf]
  have hzero : b.ledger.sum (riskOf o.id) = 0 :=
    h.riskFree_of_not_refunded found (by rcases reversible with hs | hs <;> simp [hs])
  constructor
  · exact Table.forall_insert post h.request (by simp [posts.kind, hof])
  · exact Table.forall_insert post (by simpa using h.order) (by simp [posts.reference, found])
  · refine Table.forall_insert post h.riskKind fun _ hk => ?_
    rw [posts.kind, hkind] at hk
    split at hk
    · rw [posts.risk]; omega
    · simp [LedgerKind.ofRisk] at hk
  · exact Table.forall_modify found h.apart (by rw [hg]; exact h.apart o (Table.mem_of_get? found))
  · apply h.clearing.insert_item found post
    · simp only [PaymentOrder.clearing, refunded, posts.clearingOf]
      rcases reversible with hs | hs <;> simp [hs]
    · intro k hk
      simp [posts.clearingOf, Ne.symm hk]
  · apply h.credits.insert_item found post
    · simp only [PaymentOrder.credits, refunded, posts.creditOf]
      rcases reversible with hs | hs <;> simp [hs] <;> omega
    · intro k hk
      simp [posts.creditOf, Ne.symm hk]
  · intro x hx
    rcases (Table.mem_modify hf foundRefund).1 hx with rfl | ⟨hx, hne⟩
    · refine ⟨_, by rw [editRefund.orderId, Table.get?_modify, if_pos orderId, orderId, found]; rfl,
        .inr ⟨refunded, ?_⟩⟩
      rw [ended]
      split <;> rfl
    · exact h.matched_modify (hother x hx hne).1 (hother x hx hne).2
  · intro x hx hs
    rcases (Table.mem_modify hg found).1 hx with rfl | ⟨hx, hne⟩
    · exact ⟨f r, hself, by rw [editRefund.orderId, hg]; exact orderId⟩
    · obtain ⟨y, hy, hyx⟩ := h.hasRefund x hx hs
      exact ⟨y, hkeep y hy (by rwa [hyx]), hyx⟩
  · rw [Table.map_modify f hf _ foundRefund editRefund.orderId]
    exact hsingle
  · intro x hx hs
    rw [hsum]
    rcases (Table.mem_modify hf foundRefund).1 hx with rfl | ⟨hx, hne⟩
    · rw [ended] at hs
      split at hs
      · simp at hs
      · rw [editRefund.orderId, orderId, hzero, if_pos rfl]
        omega
    · rw [if_neg (Ne.symm (hother x hx hne).2), add_zero]
      exact h.atRisk x (hother x hx hne).1 hs
  · intro x hx hs
    rw [hsum]
    rcases (Table.mem_modify hg found).1 hx with rfl | ⟨hx, hne⟩
    · have hnot := hs (f r) hself (by rw [editRefund.orderId, hg]; exact orderId)
      rw [ended] at hnot
      split at hnot
      · rw [hg, hzero, if_pos rfl]; omega
      · simp at hnot
    · rw [if_neg (Ne.symm hne), add_zero]
      exact h.riskFree x hx fun y hy hyx => hs y (hkeep y hy (by rwa [hyx])) hyx

/-- What `resolve_refund_risk` sums is what all journals leave at risk. -/
theorem net_eq (h : b.OrdersAgree) {o : PaymentOrder} (ho : o ∈ b.orders.rows) :
    (b.ledger.sum fun t => if t.reference = o.id ∧ t.kind.ofRisk then
      t.total .platformRisk else 0) =
      b.ledger.sum (riskOf o.id) := by
  simp only [Table.sum]
  congr 1
  apply List.map_congr_left
  intro t ht
  rw [riskOf]
  by_cases href : t.reference = o.id
  · have hof : t.kind.ofRequest = false := by
      by_contra hk
      exact h.ne_of_request ho (h.request t ht (by simpa using hk)) href
    cases hk : t.kind.ofRisk
    · simp [href, h.riskKind t ht hof hk]
    · simp [href]
  · simp [href]

theorem resolve (h : b.OrdersAgree) {env : Env} {r : PaymentRefund}
    {f : PaymentRefund → PaymentRefund}
    (hf : ∀ x, (f x).id = x.id) {o : PaymentOrder} {g : PaymentOrder → PaymentOrder}
    (hg : ∀ x, (g x).id = x.id)
    {outstanding recovered : Int} {j : LedgerTransaction} {kind : LedgerKind}
    {wallets : Table Wallet Wallet.userId}
    {ledger : Table LedgerTransaction LedgerTransaction.idempotencyKey}
    (found : b.refunds.get? r.id = some r) (editRefund : RefundEdit r (f r))
    (resolved : (f r).status = .resolved)
    (foundOrder : b.orders.get? o.id = some o) (orderId : r.orderId = o.id)
    (refunded : o.status = .refunded)
    (edit : OrderEdit env.test o (g o)) (same : (g o).status = o.status)
    (net : outstanding = -b.ledger.sum fun t =>
      if t.reference = r.orderId ∧ t.kind.ofRisk then t.total .platformRisk else 0)
    (nonneg : 0 ≤ recovered) (hkind : kind = .refundRiskRecover ∨ kind = .refundRiskWriteOff)
    (posts : Posts j kind r.userId r.orderId (-recovered) 0 0 outstanding)
    (post : b.ledger.insert? j = some ledger) :
    Books.OrdersAgree { b with
      wallets := wallets
      ledger := ledger
      orders := b.orders.modify o.id g hg
      refunds := b.refunds.modify r.id f hf } := by
  have hof : kind.ofRequest = false ∧
      kind.ofRisk := by rcases hkind with rfl | rfl <;> exact ⟨rfl, rfl⟩
  have hr := Table.mem_of_get? found
  have ho := Table.mem_of_get? foundOrder
  have hother : ∀ x ∈ b.refunds.rows, x.id ≠ r.id → x.orderId ≠ o.id := by
    intro x hx hne hxo
    exact hne (by rw [eq_of_orderId h.single hx hr (hxo.trans orderId.symm)])
  have hself : f r ∈ (b.refunds.modify r.id f hf).rows := (Table.mem_modify hf found).2 (.inl rfl)
  have hkeep : ∀ x ∈ b.refunds.rows, x.orderId ≠ o.id → x ∈ (b.refunds.modify r.id f hf).rows := by
    intro x hx hne
    refine (Table.mem_modify hf found).2 (.inr ⟨hx, fun hid => hne ?_⟩)
    rw [Table.eq_of_mem_of_key hx hr hid, orderId]
  rw [orderId] at net posts
  have hsum (k : Id) : ledger.sum (riskOf k) = b.ledger.sum (riskOf k) + if o.id =
      k then outstanding else 0 := by
    rw [Table.sum_insert _ post, posts.riskOf]
  rw [h.net_eq ho] at net
  constructor
  · exact Table.forall_insert post h.request (by simp [posts.kind, hof])
  · exact Table.forall_insert post (by simpa using h.order) (by simp [posts.reference, foundOrder])
  · exact Table.forall_insert post h.riskKind (by simp [posts.kind, hof])
  · exact Table.forall_modify foundOrder h.apart (by rw [hg]; exact h.apart o ho)
  · apply h.clearing.insert_item foundOrder post
    · simp [PaymentOrder.clearing, same, edit.credit, posts.clearingOf]
    · intro k hk
      simp [posts.clearingOf]
  · apply h.credits.insert_item foundOrder post
    · simp [PaymentOrder.credits, same, posts.creditOf, nonneg]
    · intro k hk
      simp [posts.creditOf, Ne.symm hk]
  · intro x hx
    rcases (Table.mem_modify hf found).1 hx with rfl | ⟨hx, hne⟩
    · refine ⟨_, by rw [editRefund.orderId, Table.get?_modify, if_pos orderId,
        orderId, foundOrder]; rfl, .inr ⟨same.trans refunded, by rw [resolved]; rfl⟩⟩
    · exact h.matched_modify hx (hother x hx hne)
  · intro x hx hs
    rcases (Table.mem_modify hg foundOrder).1 hx with rfl | ⟨hx, hne⟩
    · exact ⟨f r, hself, by rw [editRefund.orderId, hg]; exact orderId⟩
    · obtain ⟨y, hy, hyx⟩ := h.hasRefund x hx hs
      exact ⟨y, hkeep y hy (by rwa [hyx]), hyx⟩
  · rw [Table.map_modify f hf _ found editRefund.orderId]
    exact h.single
  · intro x hx hs
    rw [hsum]
    rcases (Table.mem_modify hf found).1 hx with rfl | ⟨hx, hne⟩
    · simp [resolved] at hs
    · rw [if_neg (Ne.symm (hother x hx hne)), add_zero]
      exact h.atRisk x hx hs
  · intro x hx hs
    rw [hsum]
    rcases (Table.mem_modify hg foundOrder).1 hx with rfl | ⟨hx, hne⟩
    · rw [hg, if_pos rfl]; omega
    · rw [if_neg (Ne.symm hne), add_zero]
      exact h.riskFree x hx fun y hy hyx => hs y (hkeep y hy (by rwa [hyx])) hyx

end Books.OrdersAgree

theorem Move.ordersAgree {env : Env} {b b' : Books} (m : Move env b b') (henv : env.callers)
    (hapart : env.Apart) (hs : b.Sound) (h : b.OrdersAgree) : b'.OrdersAgree := by
  cases m with
  | register => exact ⟨h.1, h.2, h.3, h.4, h.5, h.6, h.7, h.8, h.9, h.10, h.11⟩
  | hold r w j drawn _ _ _ _ _ _ posts post insert =>
    have hno := hapart.requestId _ _ drawn
    have hget (i : Id) := Table.get?_insert insert i
    apply h.post_request post posts rfl
    · simp [hget]
    · intro i hi
      rw [hget]
      split <;> simp [hi]
    · intro o ho
      rw [hget, if_neg]
      · exact h.apart o ho
      · rintro heq
        rw [heq, Table.get?_of_mem ho] at hno
        simp at hno
  | finish r f hf w charged j kind risk found _ _ _ caller _ _ _ posts post =>
    apply h.post_request post posts (caller henv).ofRequest
    · simp [found]
    · simp
    · intro o ho
      have := h.apart o ho
      rw [← Option.not_isSome_iff_eq_none] at this ⊢
      simpa using this
  | suspend p f hf edit =>
    refine ⟨by simpa using h.request, h.order, h.riskKind, ?_, h.clearing, h.credits,
      h.matched, h.hasRefund, h.single, h.atRisk, h.riskFree⟩
    intro o ho
    have := h.apart o ho
    rw [← Option.not_isSome_iff_eq_none] at this ⊢
    simpa using this
  | openBudget => exact ⟨h.1, h.2, h.3, h.4, h.5, h.6, h.7, h.8, h.9, h.10, h.11⟩
  | replaceBudget => exact ⟨h.1, h.2, h.3, h.4, h.5, h.6, h.7, h.8, h.9, h.10, h.11⟩
  | place o drawn _ status insert => exact h.place insert status (hapart.orderId _ _ drawn)
  | progress p f hf edit => exact h.progress hf edit
  | credit o f hf j kind found openStatus edit paid ofCredit posts post =>
    exact h.credit hf found openStatus edit paid ofCredit posts post
  | command o r found paid orderId status insert uniqueness =>
    exact h.command found paid orderId status insert uniqueness
  | reissue p f hf edit => exact h.reissue hf edit
  | reverse o g hg r f hf w recovered j kind found reversible edit refunded source foundRefund _ orderId
      editRefund ended _ nonneg within _ hkind posts post =>
    exact h.reverse hg hf found reversible refunded source foundRefund orderId editRefund
      ended nonneg within hkind posts post
  | resolve r f hf o g hg w outstanding recovered j kind found _ editRefund resolved
    foundOrder orderId refunded
      edit same net positive wallet least within covered hkind posts post =>
    have hb0 := hs.agree.balance_nonneg w (Table.mem_of_get? wallet)
    exact h.resolve hf hg found editRefund resolved foundOrder orderId refunded edit same
      net (by omega) hkind posts post

theorem Moves.ordersAgree {env : Env} {b b' : Books} (m : Moves env b b') (henv : env.callers)
    (hapart : env.Apart) (hs : b.Sound) (h : b.OrdersAgree) : b'.OrdersAgree := by
  induction m with
  | refl => exact h
  | tail ms m ih => exact m.ordersAgree henv hapart (Moves.sound ms hs) ih

/-! ## Orders do not go back -/

/-- The statuses that an order may come to. -/
def OrderStatus.Leads (s s' : OrderStatus) : Prop :=
  s' = s ∨ s.isOpen ∨ s = .paid ∧ (s' = .refunding ∨ s' = .refunded) ∨
  s = .refunding ∧ s' = .refunded

theorem OrderStatus.Leads.trans {s t u : OrderStatus} (h : s.Leads t)
    (h' : t.Leads u) : s.Leads u := by
  unfold OrderStatus.Leads at *
  cases s <;> cases t <;> cases u <;> simp_all [OrderStatus.isOpen]

theorem OrderStatus.Progress.leads {s s' : OrderStatus} (h : s.Progress s') : s.Leads s' := by
  rcases h with h | ⟨h, -⟩
  · exact .inl h
  · exact .inr (.inl h)

/-- What happens to an order, over any number of moves. -/
structure OrderPath (test : Prop) (o o' : PaymentOrder) : Prop where
  edit : OrderEdit test o o'
  leads : o.status.Leads o'.status

theorem OrderEdit.refl {test : Prop} (o : PaymentOrder) : OrderEdit test o o :=
  ⟨rfl, rfl, rfl, id, fun _ => .inl⟩

theorem OrderEdit.trans {test : Prop} {o p q : PaymentOrder} (h : OrderEdit test o p)
    (h' : OrderEdit test p q) :
    OrderEdit test o q := by
  refine ⟨h'.userId.trans h.userId, h'.provider.trans h.provider, h'.credit.trans h.credit,
    fun hq => h.claimable (h'.claimable hq), fun t ht => ?_⟩
  rcases h.transaction t ht with hp | hp
  · rcases h'.transaction t hp with hq | ⟨htest, hq⟩
    · exact .inl hq
    · exact .inr ⟨htest, h.provider ▸ hq⟩
  · exact .inr hp

theorem OrderPath.refl {test : Prop} (o : PaymentOrder) : OrderPath test o o := ⟨.refl o, .inl rfl⟩

theorem OrderPath.trans {test : Prop} {o p q : PaymentOrder} (h : OrderPath test o p)
    (h' : OrderPath test p q) :
    OrderPath test o q :=
  ⟨h.edit.trans h'.edit, h.leads.trans h'.leads⟩

theorem Move.order {env : Env} {b b' : Books} (m : Move env b b') {i : Id} {o : PaymentOrder}
    (h : b.orders.get? i = some o) : ∃ o', b'.orders.get? i = some o' ∧
    OrderPath env.test o o' := by
  have hmem := Table.mem_of_get? h
  -- a write to one order, which was found as `x`
  have one {x : PaymentOrder} {f : PaymentOrder → PaymentOrder} (hf : ∀ o, (f o).id = o.id)
      (found : b.orders.get? x.id = some x) (hx : OrderPath env.test x (f x)) :
      ∃ o', (b.orders.modify x.id f hf).get? i = some o' ∧ OrderPath env.test o o' := by
    rw [Table.get?_modify]
    by_cases hi : i = x.id
    · rw [if_pos hi, h]
      rw [hi, found] at h
      obtain rfl := Option.some.inj h
      exact ⟨_, rfl, hx⟩
    · rw [if_neg hi]
      exact ⟨o, h, .refl o⟩
  cases m with
  | place x _ _ _ insert =>
    rw [Table.get?_insert insert]
    split
    · rename_i hi
      rw [← hi, (Table.insert?_eq_some.1 insert).1] at h
      cases h
    · exact ⟨o, h, .refl o⟩
  | progress p f hf edit =>
    rw [Table.get?_update, h]
    refine ⟨_, rfl, ?_⟩
    dsimp only
    by_cases hp : p o
    · rw [if_pos hp]
      exact ⟨(edit o hmem hp).1, (edit o hmem hp).2.leads⟩
    · rw [if_neg hp]
      exact .refl o
  | credit x f hf j kind found openStatus edit paid =>
    exact one hf found ⟨edit, .inr (.inl openStatus)⟩
  | command x r found paid =>
    exact one (f := fun o => { o with status := .refunding }) (fun _ => rfl) found
      ⟨.of_same rfl rfl rfl rfl (by simp), .inr (.inr (.inl ⟨paid, .inl rfl⟩))⟩
  | reverse x g hg r f hf w recovered j kind found reversible edit refunded =>
    refine one hg found ⟨edit, ?_⟩
    rw [refunded]
    rcases reversible with hs | hs
    · exact .inr (.inr (.inl ⟨hs, .inr rfl⟩))
    · exact .inr (.inr (.inr ⟨hs, rfl⟩))
  | resolve r f hf x g hg w outstanding recovered j kind found _ _ _ foundOrder _ _ edit same =>
    exact one hg foundOrder ⟨edit, .inl same⟩
  | _ => exact ⟨o, h, .refl o⟩

theorem Moves.order {env : Env} {b b' : Books} (m : Moves env b b') {i : Id} {o : PaymentOrder}
    (h : b.orders.get? i = some o) : ∃ o', b'.orders.get? i = some o' ∧
    OrderPath env.test o o' := by
  induction m with
  | refl => exact ⟨o, h, .refl o⟩
  | tail _ m ih =>
    obtain ⟨o₁, h1, hp⟩ := ih
    obtain ⟨o₂, h2, hp'⟩ := m.order h1
    exact ⟨o₂, h2, hp.trans hp'⟩

end Kunlun
