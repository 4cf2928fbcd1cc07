import Kunlun.Replays

/-!
# The disposition of a shortfall

What a reversal could not take back stays on the risk account, under the reference of the
order, until an operator disposes of all of it at once.
-/

namespace Kunlun

/-! ## The journals of an order -/

def dispositionPrefix : String := "refund-risk-disposition:"

def LedgerKind.disposes : LedgerKind → Bool
  | .refundRiskRecover | .refundRiskWriteOff => true
  | _ => false

namespace LedgerTransaction

/-- The key of a disposition. -/
def Disposes (j : LedgerTransaction) : Prop := ∃ x, j.idempotencyKey = dispositionPrefix ++ x

/-- What the journal puts on the risk account for an order, as `resolve_refund_risk` sums it. -/
def atRisk (orderId : Id) (j : LedgerTransaction) : Int :=
  if j.reference = orderId ∧ j.kind.ofRisk then j.total .platformRisk else 0

/-- What the journal puts on the risk account for an order. Requests have journals under ids of
their own. -/
def onRisk (orderId : Id) (j : LedgerTransaction) : Int :=
  if j.reference = orderId ∧ j.kind.ofRequest = false then j.total .platformRisk else 0

/-- What the reversal of an order took from the balance, although it fell short. -/
def takenBack (orderId : Id) (j : LedgerTransaction) : Int :=
  if j.reference = orderId ∧ j.kind = .paymentRefundRisk then -j.total .customerAvailable else 0

/-- The journal has nothing of a shortfall. -/
structure Plain (j : LedgerTransaction) : Prop where
  kind : j.kind.ofRisk = false
  risk : j.kind.ofRequest = false → j.total .platformRisk = 0
  key : ¬ j.Disposes

theorem Plain.atRisk {j : LedgerTransaction} (h : j.Plain) (k : Id) : j.atRisk k = 0 :=
  if_neg fun hk => by simp [h.kind] at hk

theorem Plain.takenBack {j : LedgerTransaction} (h : j.Plain) (k : Id) : j.takenBack k = 0 := by
  refine if_neg fun hk => ?_
  have := h.kind
  rw [hk.2] at this
  cases this

end LedgerTransaction

theorem LedgerKind.disposes_iff (k : LedgerKind) : k.disposes ↔ k = .refundRiskRecover ∨
    k = .refundRiskWriteOff := by
  cases k <;> simp [LedgerKind.disposes]

theorem ofRisk_of_disposes {k : LedgerKind} (h : k.disposes) : k.ofRisk := by
  cases k <;> first | rfl | cases h

theorem not_disposes {j : LedgerTransaction}
    (h : ∀ x, j.idempotencyKey ≠ dispositionPrefix ++ x) : ¬ j.Disposes :=
  fun ⟨x, hx⟩ => h x hx

theorem model_ne (i y x : String) : "model:" ++ i ++ y ≠ dispositionPrefix ++ x := by
  intro h
  simpa [dispositionPrefix] using congrArg String.toList h

theorem payment_ne (y x : String) : "payment:" ++ y ≠ dispositionPrefix ++ x := by
  intro h
  simpa [dispositionPrefix] using congrArg String.toList h

theorem refund_ne (y x : String) : "refund:" ++ y ≠ dispositionPrefix ++ x := by
  intro h
  simpa [dispositionPrefix] using congrArg String.toList h

theorem refundRisk_ne (y x : String) : "refund-risk:" ++ y ≠ dispositionPrefix ++ x := by
  intro h
  simpa [dispositionPrefix] using congrArg String.toList h

/-! ## Shortfalls -/

/-- What the reversal of an order at risk left there, and what has become of it. -/
structure Books.Shortfall (b : Books) (r : PaymentRefund) : Prop where
  order : ∃ o, b.orders.get? r.orderId = some o ∧ o.status = .refunded ∧
    b.ledger.sum (LedgerTransaction.atRisk o.id) = b.ledger.sum
      (LedgerTransaction.takenBack o.id) - o.creditAmountMicrousd ∧
    0 ≤ b.ledger.sum (LedgerTransaction.takenBack o.id) ∧
    b.ledger.sum (LedgerTransaction.takenBack o.id) < o.creditAmountMicrousd

structure Books.Risks (b : Books) : Prop where
  single : (b.refunds.rows.map PaymentRefund.orderId).Nodup
  plain : ∀ j ∈ b.ledger.rows, j.kind.ofRisk = false → j.Plain
  refunded : ∀ j ∈ b.ledger.rows, j.kind.ofRisk → ∃ o, b.orders.get? j.reference = some o ∧
    o.status = .refunded
  /-- A disposition has resolved its refund. -/
  resolved : ∀ j ∈ b.ledger.rows, j.kind.disposes → ∃ r ∈ b.refunds.rows, r.orderId = j.reference ∧
    r.status = .resolved ∧ ∃ x, j.idempotencyKey = dispositionPrefix ++ r.id ++ ":" ++ x
  /-- There is no other disposition of the order. -/
  once : ∀ j ∈ b.ledger.rows, ∀ j' ∈ b.ledger.rows, j.kind.disposes → j'.kind.disposes →
    j.reference = j'.reference → j = j'
  reversal : ∀ j ∈ b.ledger.rows, j.kind = .paymentRefundRisk → ¬ j.Disposes
  shortfall : ∀ r ∈ b.refunds.rows, r.status = .risk → b.Shortfall r

namespace Books.Risks

variable {env : Env} {b b' : Books}

theorem order_refunded (m : Move env b b') {i : Id} {o : PaymentOrder}
    (ho : b.orders.get? i = some o)
    (hs : o.status = .refunded) :
    ∃ o', b'.orders.get? i = some o' ∧ o'.status = .refunded ∧
      o'.creditAmountMicrousd = o.creditAmountMicrousd := by
  obtain ⟨o', ho', hpath⟩ := m.order ho
  refine ⟨o', ho', ?_, hpath.edit.credit⟩
  have := hpath.leads
  simpa [OrderStatus.Leads, hs, OrderStatus.isOpen] using this

theorem refund_resolved (m : Move env b b') {r : PaymentRefund} (hr : r ∈ b.refunds.rows)
    (hs : r.status = .resolved) :
    ∃ r' ∈ b'.refunds.rows, r'.id = r.id ∧ r'.orderId = r.orderId ∧ r'.status = .resolved := by
  obtain ⟨r', hr', he⟩ := m.ended (Table.get?_of_mem hr) (by rw [hs]; rfl)
  refine ⟨r', Table.mem_of_get? hr', Table.key_of_get? hr', he.edit.orderId, ?_⟩
  rcases he.status with h | ⟨h, -⟩
  · rw [h, hs]
  · simp [hs] at h

theorem refunded_old (h : b.Risks) (m : Move env b b') {j : LedgerTransaction}
    (hj : j ∈ b.ledger.rows)
    (hk : j.kind.ofRisk) : ∃ o, b'.orders.get? j.reference = some o ∧ o.status = .refunded := by
  obtain ⟨o, ho, hs⟩ := h.refunded j hj hk
  obtain ⟨o', ho', hs', -⟩ := order_refunded m ho hs
  exact ⟨o', ho', hs'⟩

theorem resolved_old (h : b.Risks) (m : Move env b b') {j : LedgerTransaction}
    (hj : j ∈ b.ledger.rows)
    (hk : j.kind.disposes) : ∃ r ∈ b'.refunds.rows, r.orderId = j.reference ∧ r.status = .resolved ∧
      ∃ x, j.idempotencyKey = dispositionPrefix ++ r.id ++ ":" ++ x := by
  obtain ⟨r, hr, horder, hs, hkey⟩ := h.resolved j hj hk
  obtain ⟨r', hr', hid, horder', hs'⟩ := refund_resolved m hr hs
  exact ⟨r', hr', horder'.trans horder, hs', hid ▸ hkey⟩

theorem shortfall_old (m : Move env b b') {r : PaymentRefund} (h : b.Shortfall r)
    (hrisk : b'.ledger.sum (LedgerTransaction.atRisk r.orderId) = b.ledger.sum
      (LedgerTransaction.atRisk r.orderId))
    (htaken : b'.ledger.sum (LedgerTransaction.takenBack r.orderId) =
      b.ledger.sum (LedgerTransaction.takenBack r.orderId)) : b'.Shortfall r := by
  obtain ⟨o, ho, hs, hsum, hnonneg, hlt⟩ := h.order
  obtain ⟨o', ho', hs', hcredit⟩ := order_refunded m ho hs
  have hid := Table.key_of_get? ho
  have hid' := Table.key_of_get? ho'
  rw [hid] at hsum hnonneg hlt
  refine ⟨o', ho', hs', ?_⟩
  rw [hid', hrisk, htaken, hcredit]
  exact ⟨hsum, hnonneg, hlt⟩

theorem of_plain (h : b.Risks) (m : Move env b b')
    (hledger : b'.ledger = b.ledger ∨ ∃ j : LedgerTransaction,
      b.ledger.insert? j = some b'.ledger ∧ j.Plain)
    (single : (b'.refunds.rows.map PaymentRefund.orderId).Nodup)
    (hrefunds : ∀ r ∈ b'.refunds.rows, r.status = .risk → r ∈ b.refunds.rows) : b'.Risks := by
  have hold (j : LedgerTransaction) (hj : j ∈ b'.ledger.rows) : j ∈ b.ledger.rows ∨ j.Plain := by
    rcases hledger with hl | ⟨x, hl, hx⟩
    · exact .inl (hl ▸ hj)
    · rcases (Table.mem_insert hl).1 hj with hj | rfl
      · exact .inl hj
      · exact .inr hx
  have hsums (k : Id) : b'.ledger.sum (LedgerTransaction.atRisk k) = b.ledger.sum
    (LedgerTransaction.atRisk k) ∧
      b'.ledger.sum (LedgerTransaction.takenBack k) = b.ledger.sum
        (LedgerTransaction.takenBack k) := by
    rcases hledger with hl | ⟨x, hl, hx⟩
    · rw [hl]
      exact ⟨rfl, rfl⟩
    · rw [Table.sum_insert _ hl, Table.sum_insert _ hl, hx.atRisk, hx.takenBack, add_zero, add_zero]
      exact ⟨rfl, rfl⟩
  have hrisk {j : LedgerTransaction} (hj : j ∈ b'.ledger.rows)
      (hk : j.kind.ofRisk) : j ∈ b.ledger.rows :=
    (hold j hj).resolve_right fun hp => by simp [hp.kind] at hk
  refine ⟨single, fun j hj hk => ?_, fun j hj hk => h.refunded_old m (hrisk hj hk) hk,
    fun j hj hk => h.resolved_old m (hrisk hj (ofRisk_of_disposes hk)) hk, fun j hj j' hj' hk hk' =>
      ?_, fun j hj hk => ?_,
    fun r hr hs => shortfall_old m (h.shortfall r (hrefunds r hr hs) hs) (hsums _).1 (hsums _).2⟩
  · rcases hold j hj with hj | hp
    · exact h.plain j hj hk
    · exact hp
  · exact h.once j (hrisk hj (ofRisk_of_disposes hk)) j' (hrisk hj' (ofRisk_of_disposes hk')) hk hk'
  · exact h.reversal j (hrisk hj (by rw [hk]; rfl)) hk

theorem single_modify {r : PaymentRefund} {f : PaymentRefund → PaymentRefund}
    {refunds : Table PaymentRefund PaymentRefund.id} (hf : ∀ x, (f x).id = x.id)
    (hsingle : (refunds.rows.map PaymentRefund.orderId).Nodup) (hr : refunds.get? r.id = some r)
    (hedit : (f r).orderId = r.orderId) :
    ((refunds.modify r.id f hf).rows.map PaymentRefund.orderId).Nodup := by
  rwa [Table.map_modify f hf _ hr hedit]

theorem single_source (h : b.Risks) {r : PaymentRefund}
    {refunds : Table PaymentRefund PaymentRefund.id}
    (source : refunds = b.refunds ∨ b.refunds.insert? r = some refunds ∧
      uniqueRefunds refunds.rows) :
    (refunds.rows.map PaymentRefund.orderId).Nodup := by
  rcases source with rfl | ⟨-, hunique⟩
  · exact h.single
  · exact Books.OrdersAgree.nodup_of_uniqueRefunds hunique

theorem mem_source {r x : PaymentRefund} {refunds : Table PaymentRefund PaymentRefund.id}
    (source : refunds = b.refunds ∨ b.refunds.insert? r = some refunds ∧ uniqueRefunds refunds.rows)
    (hx : x ∈ refunds.rows) (hne : x.id ≠ r.id) : x ∈ b.refunds.rows := by
  rcases source with rfl | ⟨insert, -⟩
  · exact hx
  · exact ((Table.mem_insert insert).1 hx).resolve_right fun heq => hne (by rw [heq])

theorem reverse_short (h : b.Risks) {o : PaymentOrder} {g : PaymentOrder → PaymentOrder}
    {hg : ∀ x, (g x).id = x.id}
    {r : PaymentRefund} {f : PaymentRefund → PaymentRefund}
    {hf : ∀ x, (f x).id = x.id} {recovered : Int}
    {j : LedgerTransaction} {refunds : Table PaymentRefund PaymentRefund.id}
    {wallets : Table Wallet Wallet.userId}
    {ledger : Table LedgerTransaction LedgerTransaction.idempotencyKey}
    (m : Move env b { b with
      wallets := wallets, ledger := ledger, orders := b.orders.modify o.id g hg, refunds :=
        refunds.modify r.id f hf })
    (found : b.orders.get? o.id = some o) (reversible : o.status = .paid ∨ o.status = .refunding)
    (edit : OrderEdit env.test o (g o)) (refunded : (g o).status = .refunded)
    (source : refunds = b.refunds ∨ b.refunds.insert? r = some refunds ∧ uniqueRefunds refunds.rows)
    (foundRefund : refunds.get? r.id = some r) (orderId : r.orderId = o.id)
      (editRefund : RefundEdit r (f r))
    (nonneg : 0 ≤ recovered) (short : recovered < o.creditAmountMicrousd)
    (posts : Posts j .paymentRefundRisk o.userId o.id (-recovered) 0 o.creditAmountMicrousd
      (-(o.creditAmountMicrousd - recovered)))
    (post : b.ledger.insert? j = some ledger) (key : ¬ j.Disposes) :
    Books.Risks { b with
      wallets := wallets, ledger := ledger, orders := b.orders.modify o.id g hg, refunds :=
        refunds.modify r.id f hf } := by
  have hsingle := h.single_source source
  have hnone (x : LedgerTransaction) (hx : x ∈ b.ledger.rows)
      (hk : x.kind.ofRisk) : x.reference ≠ o.id := by
    intro href
    obtain ⟨o', ho', hs⟩ := h.refunded x hx hk
    rw [href, found] at ho'
    obtain rfl := Option.some.inj ho'
    simp [hs] at reversible
  have hrisk : b.ledger.sum (LedgerTransaction.atRisk o.id) = 0 :=
    Table.sum_eq_zero _ _ fun x hx => if_neg fun hk => hnone x hx hk.2 hk.1
  have htaken : b.ledger.sum (LedgerTransaction.takenBack o.id) = 0 :=
    Table.sum_eq_zero _ _ fun x hx => if_neg fun hk => hnone x hx (by rw [hk.2]; rfl) hk.1
  have hmem {x : LedgerTransaction} (hx : x ∈ ledger.rows) : x ∈ b.ledger.rows ∨ x = j :=
    (Table.mem_insert post).1 hx
  have hjrisk (k : Id) : j.atRisk k = if o.id = k then
      -(o.creditAmountMicrousd - recovered) else 0 := by
    simp [LedgerTransaction.atRisk, posts.reference, posts.kind, posts.risk, LedgerKind.ofRisk]
  have hjtaken (k : Id) : j.takenBack k = if o.id = k then recovered else 0 := by
    simp [LedgerTransaction.takenBack, posts.reference, posts.kind, posts.available]
  have hdisposes {x : LedgerTransaction} (hx : x ∈ ledger.rows)
      (hk : x.kind.disposes) : x ∈ b.ledger.rows := by
    refine (hmem hx).resolve_right ?_
    rintro rfl
    simp [posts.kind, LedgerKind.disposes] at hk
  constructor
  · exact single_modify hf hsingle foundRefund editRefund.orderId
  · intro x hx hk
    rcases hmem hx with hx | rfl
    · exact h.plain x hx hk
    · simp [posts.kind, LedgerKind.ofRisk] at hk
  · intro x hx hk
    rcases hmem hx with hx | rfl
    · exact h.refunded_old m hx hk
    · exact ⟨g o, by rw [posts.reference]; exact Table.get?_modify_self found g hg, refunded⟩
  · exact fun x hx hk => h.resolved_old m (hdisposes hx hk) hk
  · exact fun x hx y hy hk hk' => h.once x (hdisposes hx hk) y (hdisposes hy hk') hk hk'
  · intro x hx hk
    rcases hmem hx with hx | rfl
    · exact h.reversal x hx hk
    · exact key
  · intro x hx hs
    rcases (Table.mem_modify hf foundRefund).1 hx with rfl | ⟨hx, hne⟩
    · refine ⟨g o, ?_, refunded, ?_⟩
      · rw [editRefund.orderId, orderId]
        exact Table.get?_modify_self found g hg
      · dsimp only
        rw [hg, Table.sum_insert _ post, Table.sum_insert _ post, hrisk, htaken, hjrisk,
          hjtaken, edit.credit]
        simp only [if_true]
        omega
    · have hother : x.orderId ≠ o.id := fun heq => hne (by
        rw [Books.OrdersAgree.eq_of_orderId hsingle hx (Table.mem_of_get? foundRefund)
          (heq.trans orderId.symm)])
      refine shortfall_old m (h.shortfall x (mem_source source hx hne) hs) ?_ ?_ <;> dsimp only
      · rw [Table.sum_insert _ post, hjrisk, if_neg (Ne.symm hother), add_zero]
      · rw [Table.sum_insert _ post, hjtaken, if_neg (Ne.symm hother), add_zero]

theorem resolve (h : b.Risks) {r : PaymentRefund} {f : PaymentRefund → PaymentRefund}
    {hf : ∀ x, (f x).id = x.id}
    {o : PaymentOrder} {g : PaymentOrder → PaymentOrder} {hg : ∀ x, (g x).id = x.id}
    {recovered outstanding : Int}
    {j : LedgerTransaction} {kind : LedgerKind} {wallets : Table Wallet Wallet.userId}
    {ledger : Table LedgerTransaction LedgerTransaction.idempotencyKey}
    (m : Move env b { b with
      wallets := wallets, ledger := ledger, orders := b.orders.modify o.id g hg, refunds :=
        b.refunds.modify r.id f hf })
    (found : b.refunds.get? r.id = some r) (atRisk : r.status = .risk)
      (editRefund : RefundEdit r (f r))
    (resolved : (f r).status = .resolved) (foundOrder : b.orders.get? o.id = some o)
      (orderId : r.orderId = o.id)
    (refunded : o.status = .refunded) (hkind : kind = .refundRiskRecover ∨
      kind = .refundRiskWriteOff)
    (posts : Posts j kind r.userId r.orderId (-recovered) 0 0 outstanding)
    (post : b.ledger.insert? j = some ledger)
    (key : ∃ x, j.idempotencyKey = "refund-risk-disposition:" ++ r.id ++ ":" ++ x) :
    Books.Risks { b with
      wallets := wallets, ledger := ledger, orders := b.orders.modify o.id g hg, refunds :=
        b.refunds.modify r.id f hf } := by
  have hr := Table.mem_of_get? found
  have hdisposes : j.kind.disposes := by rw [posts.kind, LedgerKind.disposes_iff]; exact hkind
  have hmem {x : LedgerTransaction} (hx : x ∈ ledger.rows) : x ∈ b.ledger.rows ∨ x = j :=
    (Table.mem_insert post).1 hx
  -- the refund is still at risk, so that nothing has disposed of it
  have hnew (x : LedgerTransaction) (hx : x ∈ b.ledger.rows) (hk : x.kind.disposes) :
      x.reference ≠ j.reference := by
    intro href
    obtain ⟨y, hy, horder, hs, -⟩ := h.resolved x hx hk
    obtain rfl := Books.OrdersAgree.eq_of_orderId h.single hy hr
      (horder.trans (href.trans posts.reference))
    simp [hs] at atRisk
  constructor
  · exact single_modify hf h.single found editRefund.orderId
  · intro x hx hk
    rcases hmem hx with hx | rfl
    · exact h.plain x hx hk
    · rw [ofRisk_of_disposes hdisposes] at hk
      cases hk
  · intro x hx hk
    rcases hmem hx with hx | rfl
    · exact h.refunded_old m hx hk
    · obtain ⟨o', ho', hs', -⟩ := order_refunded m foundOrder refunded
      exact ⟨o', by rw [posts.reference, orderId, ho'], hs'⟩
  · intro x hx hk
    rcases hmem hx with hx | rfl
    · exact h.resolved_old m hx hk
    · refine ⟨f r, (Table.mem_modify hf found).2 (.inl rfl), ?_, resolved, by rw [hf]; exact key⟩
      rw [posts.reference, editRefund.orderId]
  · intro x hx y hy hk hk' href
    rcases hmem hx with hx | rfl <;> rcases hmem hy with hy | rfl
    · exact h.once x hx y hy hk hk' href
    · exact absurd href (hnew x hx hk)
    · exact absurd href.symm (hnew y hy hk')
    · rfl
  · intro x hx hk
    rcases hmem hx with hx | rfl
    · exact h.reversal x hx hk
    · rw [hk] at hdisposes
      cases hdisposes
  · intro x hx hs
    rcases (Table.mem_modify hf found).1 hx with rfl | ⟨hx, hne⟩
    · simp [resolved] at hs
    · have hother : j.reference ≠ x.orderId := fun heq => hne (by
        rw [Books.OrdersAgree.eq_of_orderId h.single hx hr (heq.symm.trans posts.reference)])
      refine shortfall_old m (h.shortfall x hx hs) ?_ ?_ <;> dsimp only
      · rw [Table.sum_insert _ post, LedgerTransaction.atRisk, if_neg fun hk =>
          hother hk.1, add_zero]
      · rw [Table.sum_insert _ post, LedgerTransaction.takenBack, if_neg fun hk =>
          hother hk.1, add_zero]

end Books.Risks

theorem Move.risks {env : Env} {b b' : Books} (m : Move env b b') (henv : env.callers)
    (h : b.Risks) : b'.Risks := by
  have move := m
  have same {r : PaymentRefund} (hr : r ∈ b.refunds.rows) (_ : r.status = .risk) :
      r ∈ b.refunds.rows := hr
  cases m with
  | register userId insert => exact h.of_plain move (.inl rfl) h.single fun _ => same
  | hold r w j drawn positive status charged wallet covered budget posts post insert key =>
    refine h.of_plain move (.inr ⟨j, post, ?_⟩) h.single fun _ => same
    exact ⟨by rw [posts.kind]; rfl, fun hk => by simp [posts.kind, LedgerKind.ofRequest] at hk,
      not_disposes fun x => by rw [key]; exact model_ne _ _ _⟩
  | finish r f hf w charged j kind risk found edit fits charges caller wallet held
    budget posts post key =>
    refine h.of_plain move (.inr ⟨j, post, ?_⟩) h.single fun _ => same
    have hof := (caller henv).ofRequest
    refine ⟨?_, fun hk => ?_, not_disposes fun x => ?_⟩
    · rw [posts.kind]
      cases kind <;> first | rfl | cases hof
    · rw [posts.kind, hof] at hk
      cases hk
    · rcases key with key | key <;> rw [key] <;> exact model_ne _ _ _
  | suspend p f hf edit => exact h.of_plain move (.inl rfl) h.single fun _ => same
  | openBudget x status reserved spent positive first insert =>
    exact h.of_plain move (.inl rfl) h.single fun _ => same
  | replaceBudget old x found active idle owner period status reserved spent within insert =>
    exact h.of_plain move (.inl rfl) h.single fun _ => same
  | place o drawn owner status insert =>
    exact h.of_plain move (.inl rfl) h.single fun _ => same
  | progress p f hf edit => exact h.of_plain move (.inl rfl) h.single fun _ => same
  | credit o f hf j kind found openStatus edit paid ofCredit posts post key =>
    refine h.of_plain move (.inr ⟨j, post, ?_⟩) h.single fun _ => same
    refine ⟨?_, fun _ => posts.risk, not_disposes fun x => ?_⟩
    · rw [posts.kind]
      cases kind <;> first | rfl | cases ofCredit
    · obtain ⟨y, key⟩ := key
      rw [key]
      exact payment_ne _ _
  | command o r found paid orderId status insert uniqueness owner =>
    refine h.of_plain move (.inl rfl)
      (Books.OrdersAgree.nodup_of_uniqueRefunds uniqueness) fun x hx hs => ?_
    rcases (Table.mem_insert insert).1 hx with hx | rfl
    · exact hx
    · simp [hs, RefundStatus.isActive] at status
  | reissue p f hf edit =>
    refine h.of_plain move (.inl rfl) ?_ fun x hx hs => ?_
    · rw [Table.map_update]
      · exact h.single
      · exact fun r hr hp => (edit r hr hp).1.orderId
    · simp only [Table.update, List.mem_map] at hx
      obtain ⟨r, hr, rfl⟩ := hx
      by_cases hp : p r
      · have hactive := (edit r hr hp).2.2
        rw [if_pos hp] at hs
        simp [hs, RefundStatus.isActive] at hactive
      · rwa [if_neg hp]
  | reverse o g hg r f hf w recovered j kind found reversible edit refunded source foundRefund
    active orderId editRefund ended wallet nonneg within covered hkind posts post owner key =>
    by_cases hfull : recovered = o.creditAmountMicrousd
    · rw [if_pos hfull] at hkind ended
      subst hkind
      refine h.of_plain move (.inr ⟨j, post, ?_⟩) ?_ fun x hx hs => ?_
      · refine ⟨by rw [posts.kind]; rfl,
          fun _ => by rw [posts.risk, hfull, sub_self, neg_zero], not_disposes fun x => ?_⟩
        rcases key with key | key <;> rw [key]
        · exact refund_ne _ _
        · exact refundRisk_ne _ _
      · exact Books.Risks.single_modify hf (h.single_source source) foundRefund editRefund.orderId
      · rcases (Table.mem_modify hf foundRefund).1 hx with rfl | ⟨hx, hne⟩
        · simp [ended] at hs
        · exact Books.Risks.mem_source source hx hne
    · rw [if_neg hfull] at hkind
      subst hkind
      refine h.reverse_short move found reversible edit refunded source foundRefund
        orderId editRefund nonneg
        (lt_of_le_of_ne within hfull) posts post (not_disposes fun x => ?_)
      rcases key with key | key <;> rw [key]
      · exact refund_ne _ _
      · exact refundRisk_ne _ _
  | resolve r f hf o g hg w outstanding recovered j kind found atRisk editRefund resolved
    foundOrder orderId refunded
      edit same' net positive wallet least within covered hkind posts post key =>
    exact h.resolve move found atRisk editRefund resolved foundOrder orderId refunded
      hkind posts post key

theorem Moves.risks {env : Env} {b b' : Books} (m : Moves env b b') (henv : env.callers)
    (h : b.Risks) : b'.Risks := by
  induction m with
  | refl => exact h
  | tail _ m ih => exact m.risks henv ih

theorem DB.Opened.risks {d : DB} (h : d.Opened) : d.books.Risks where
  single := by simp [DB.books, h.refunds]
  plain := forall_nil h.ledger _
  refunded := forall_nil h.ledger _
  resolved := forall_nil h.ledger _
  once := forall_nil h.ledger _
  reversal := forall_nil h.ledger _
  shortfall := forall_nil h.refunds _

/-! ## What stays -/

section Stays

variable {env : Env} {b b' : Books}

theorem Move.journal (m : Move env b b') {j : LedgerTransaction}
    (hj : j ∈ b.ledger.rows) : j ∈ b'.ledger.rows := by
  cases m with
  | hold r w x drawn positive status charged wallet covered budget posts post =>
    exact (Table.mem_insert post).2 (.inl hj)
  | finish r f hf w charged x kind risk found edit fits charges caller wallet held
    budget posts post =>
    exact (Table.mem_insert post).2 (.inl hj)
  | credit o f hf x kind found openStatus edit paid ofCredit posts post =>
    exact (Table.mem_insert post).2 (.inl hj)
  | reverse o g hg r f hf w recovered x kind found reversible edit refunded source foundRefund
    active orderId editRefund ended wallet nonneg within covered hkind posts post =>
        exact (Table.mem_insert post).2 (.inl hj)
  | resolve r f hf o g hg w outstanding recovered x kind found atRisk editRefund resolved
    foundOrder orderId refunded
      edit same net positive wallet least within covered hkind posts post =>
        exact (Table.mem_insert post).2 (.inl hj)
  | _ => exact hj

theorem Moves.journal (m : Moves env b b') {j : LedgerTransaction}
    (hj : j ∈ b.ledger.rows) : j ∈ b'.ledger.rows := by
  induction m with
  | refl => exact hj
  | tail _ m ih => exact m.journal ih

theorem Move.refund (m : Move env b b') {i : Id} (h : (b.refunds.get? i).isSome) :
    (b'.refunds.get? i).isSome := by
  cases m with
  | command o r found paid orderId status insert =>
    obtain ⟨x, hx⟩ := Option.isSome_iff_exists.1 h
    exact Option.isSome_of_eq_some (Table.get?_insert_of_some insert hx)
  | reissue p f hf edit => simpa [Table.get?_update] using h
  | reverse o g hg r f hf w recovered j kind found reversible edit refunded source =>
    dsimp only
    rw [Table.isSome_get?_modify]
    rcases source with rfl | ⟨insert, -⟩
    · exact h
    · obtain ⟨x, hx⟩ := Option.isSome_iff_exists.1 h
      exact Option.isSome_of_eq_some (Table.get?_insert_of_some insert hx)
  | resolve r f hf => simpa using h
  | _ => exact h

theorem Moves.refund (m : Moves env b b') {i : Id} (h : (b.refunds.get? i).isSome) :
    (b'.refunds.get? i).isSome := by
  induction m with
  | refl => exact h
  | tail _ m ih => exact m.refund ih

end Stays

/-! ## One disposition -/

/-- No id of a refund, which `uuid4` draws, has the sign that ends it in a key. -/
def Books.Named (b : Books) : Prop := ∀ r ∈ b.refunds.rows, ':' ∉ r.id.toList

def dispositionKey (refundId : Id) (idempotencyKey : String) : String :=
  dispositionPrefix ++ refundId ++ ":" ++ idempotencyKey

theorem disposes_dispositionKey {j : LedgerTransaction} {i : Id} {k : String}
    (h : j.idempotencyKey = dispositionKey i k) : j.Disposes :=
  ⟨i ++ (":" ++ k), by simp only [h, dispositionKey, String.append_assoc]⟩

theorem takeWhile_ne_colon {i : Id} (hi : ':' ∉ i.toList) (rest : List Char) :
    (i.toList ++ ':' :: rest).takeWhile (· ≠ ':') = i.toList := by
  rw [List.takeWhile_append_of_pos]
  · simp
  · intro c hc
    exact decide_eq_true fun heq => hi (heq ▸ hc)

theorem dispositionKey_inj {i i' : Id} {k k' : String} (hi : ':' ∉ i.toList) (hi' : ':' ∉ i'.toList)
    (h : dispositionKey i k = dispositionKey i' k') : i = i' ∧ k = k' := by
  have h := congrArg String.toList h
  simp only [dispositionKey, String.toList_append, List.append_assoc,
    List.append_cancel_left_eq] at h
  have hids := congrArg (List.takeWhile (· ≠ ':')) h
  rw [show ":".toList = [':'] from rfl, List.singleton_append, List.singleton_append,
    takeWhile_ne_colon hi, takeWhile_ne_colon hi'] at hids
  rw [hids] at h
  simp only [List.append_cancel_left_eq] at h
  exact ⟨String.toList_inj.1 hids, String.toList_inj.1 h⟩

section Disposition

variable {b : Books} {r : PaymentRefund}

theorem Books.Risks.disposition (h : b.Risks) (hnamed : b.Named) (hr : b.refunds.get? r.id = some r)
    {j : LedgerTransaction} (hj : j ∈ b.ledger.rows) {k : String}
    (hkey : j.idempotencyKey = dispositionKey r.id k) :
    j.kind.disposes ∧ j.reference = r.orderId ∧ r.status = .resolved := by
  have hdisposes := disposes_dispositionKey hkey
  have hof : j.kind.ofRisk := by
    by_contra hof
    exact (h.plain j hj (by simpa using hof)).key hdisposes
  have hkind : j.kind.disposes := by
    rw [ofRisk_iff] at hof
    rw [LedgerKind.disposes_iff]
    exact hof.resolve_left fun hk => h.reversal j hj hk hdisposes
  obtain ⟨x, hx, horder, hs, y, hy⟩ := h.resolved j hj hkind
  have hmem := Table.mem_of_get? hr
  obtain ⟨hid, -⟩ := dispositionKey_inj (hnamed x hx) (hnamed r hmem) (hy.symm.trans hkey)
  have hx' := Table.get?_of_mem hx
  rw [hid, hr] at hx'
  obtain rfl := Option.some.inj hx'
  exact ⟨hkind, horder.symm, hs⟩

theorem Books.Risks.undisposed (h : b.Risks) (hnamed : b.Named) (hr : b.refunds.get? r.id = some r)
    (hrisk : r.status = .risk) (k : String) : b.ledger.get? (dispositionKey r.id k) = none := by
  cases hj : b.ledger.get? (dispositionKey r.id k) with
  | none => rfl
  | some j =>
    obtain ⟨-, -, hs⟩ := h.disposition hnamed hr (Table.mem_of_get? hj) (Table.key_of_get? hj)
    simp [hs] at hrisk

theorem Books.Risks.unreachable {d : DB} (h : d.books.Risks) (hr : d.refunds.get? r.id = some r)
    (hrisk : r.status = .risk) :
    0 < -riskNet r.orderId d := by
  obtain ⟨o, ho, -, hsum, -, hlt⟩ := (h.shortfall r (Table.mem_of_get? hr) hrisk).order
  have hnet : riskNet r.orderId d = d.books.ledger.sum (LedgerTransaction.atRisk o.id) := by
    rw [Table.key_of_get? ho]
    simp only [riskNet, ← ofRisk_iff]
    rfl
  omega

end Disposition

section Sessions

variable {a : ResolveArgs} {r : PaymentRefund} {res : RiskResolution} {d : DB} {s : Session DB}

theorem resolveRefundRisk_first (hr : d.refunds.get? a.refundId = some r)
    (hnew : d.ledger.get? (dispositionKey r.id a.idempotencyKey) = none)
    (h : resolveRefundRisk a (.fresh d) = (.ok res, s)) :
    ∃ o w, (a.action = "recover_available" ∨ a.action = "write_off") ∧
      d.wallets.get? r.userId = some w ∧
      (a.action = "recover_available" → -riskNet r.orderId d ≤ w.balanceMicrousd) ∧
      disposeShortfall a r o w (-riskNet r.orderId d) (.fresh d) = (.ok res, s) := by
  simp only [resolveRefundRisk, Tx.bind_ok, Tx.raiseIf_ok, Tx.select_ok, Tx.orRaise_ok] at h
  obtain ⟨_, _, ⟨haction, rfl⟩, _, _, ⟨rfl, rfl⟩, refund, _, ⟨hrefund, rfl⟩, existing, _,
    ⟨rfl, rfl⟩, h⟩ := h
  obtain rfl := Option.some.inj (hr.symm.trans hrefund)
  dsimp only [Session.fresh] at h
  rw [← dispositionPrefix, ← dispositionKey, hnew] at h
  simp only [Tx.bind_ok, Tx.raiseIf_ok, Tx.select_ok, Tx.orRaise_ok] at h
  obtain ⟨_, _, ⟨-, rfl⟩, _, _, ⟨rfl, rfl⟩, order, _, ⟨-, rfl⟩, net, _, ⟨rfl, rfl⟩, _, _, ⟨-, rfl⟩,
    _, _, ⟨rfl, rfl⟩, wallet, _, ⟨hwallet, rfl⟩, _, _, ⟨-, rfl⟩, _, s, ⟨hcovered, rfl⟩, h⟩ := h
  refine ⟨order, wallet, ?_, hwallet, fun haction => not_lt.1 fun hlt => hcovered ⟨haction, hlt⟩, h⟩
  simpa only [not_and_or, ne_eq, not_not] using haction

theorem disposeShortfall_ok {o : PaymentOrder} {w : Wallet} {outstanding : Int}
    (h : disposeShortfall a r o w outstanding (.fresh d) = (.ok res, s)) :
    ∃ row recovered hn ledger b E,
      recovered = (if a.action = "recover_available" then outstanding
        else min w.balanceMicrousd outstanding) ∧
      res = ⟨row, false, outstanding, recovered, outstanding - recovered⟩ ∧
      d.ledger.insert? (journal r.userId (dispositionKind a.action) r.orderId
        (dispositionKey r.id a.idempotencyKey)
        (dispositionEntries outstanding recovered) hn) = some ledger ∧
      Stages s d.books b E ∧ (E b).ledger = ledger := by
  simp only [disposeShortfall, setBalance, setRefund, setOrder, Tx.bind_ok, Tx.pure_ok] at h
  obtain ⟨_, s₁, h1, _, s₂, h2, _, s₃, h3, _, s₄, h4, _, s₅, h5, rfl, rfl⟩ := h
  obtain ⟨hn, ledger, hl, hs₂⟩ := ((staged_fresh d).stages.add (effect_setBalance ..) h1).journal h2
  have hs₅ := ((hs₂.add (effect_setRefund ..) h3).add (effect_setOrder ..) h4).add
    (neutral_insertOutbox _).effect h5
  exact ⟨_, _, hn, ledger, _, _, rfl, rfl, hl, hs₅, rfl⟩

/-- What the first disposition of the refund `r` returns, and what it makes of its shortfall. -/
structure Disposed (a : ResolveArgs) (r : PaymentRefund) (d d' : DB)
    (res : RiskResolution) : Prop where
  first : res.duplicate = false
  shortfall : ∃ o, d.orders.get? r.orderId = some o ∧
    res.outstanding = o.creditAmountMicrousd - d.ledger.sum (LedgerTransaction.takenBack o.id)
  split : res.recovered + res.writtenOff = res.outstanding
  least : 0 ≤ res.recovered ∧ 0 ≤ res.writtenOff
  balance : ∃ w, d.wallets.get? r.userId = some w ∧ res.recovered ≤ w.balanceMicrousd ∧
    (0 < res.writtenOff → res.recovered = w.balanceMicrousd)
  recovers : a.action = "recover_available" → res.writtenOff = 0
  settled : d'.ledger.sum (LedgerTransaction.onRisk r.orderId) = 0

/-- The journal that keeps what a disposition returned. -/
structure DispositionJournal (a : ResolveArgs) (i : Id) (res : RiskResolution)
    (j : LedgerTransaction) : Prop where
  action : a.action = "recover_available" ∨ a.action = "write_off"
  key : j.idempotencyKey = dispositionKey i a.idempotencyKey
  kind : j.kind = dispositionKind a.action
  recovered : res.recovered = -j.total .customerAvailable
  writtenOff : res.writtenOff = -j.total .platformLoss
  outstanding : res.recovered + res.writtenOff = res.outstanding

theorem legs_platformLoss (outstanding recovered : Int) :
    legs .platformLoss (dispositionEntries outstanding recovered) = -(outstanding - recovered) := by
  unfold dispositionEntries
  split_ifs <;> simp <;> omega

theorem onRisk_eq {b : Books} (h : b.Risks) (i : Id) :
    b.ledger.sum (LedgerTransaction.onRisk i) = b.ledger.sum (LedgerTransaction.atRisk i) := by
  unfold Table.sum
  refine congrArg List.sum (List.map_congr_left fun j hj => ?_)
  by_cases hof : j.kind.ofRisk
  · have hrequest : j.kind.ofRequest = false := by
      cases hk : j.kind <;> first | rfl | (rw [hk] at hof; cases hof)
    simp only [LedgerTransaction.onRisk, LedgerTransaction.atRisk, hrequest, hof]
  · have hplain := h.plain j hj (by simpa using hof)
    rw [hplain.atRisk, LedgerTransaction.onRisk]
    split_ifs with hk
    · exact hplain.risk hk.2
    · rfl

theorem disposeRefundRisk_disposed {op : Operator} {operationId : String} {d' : DB}
    (hrisks : d.books.Risks)
    (hsound : d.books.Sound) (hrisks' : d'.books.Risks) (hnamed : d.books.Named)
    (hr : d.refunds.get? r.id = some r)
    (hrisk : r.status = .risk) (ha : a.refundId = r.id)
    (h : Tx.run (disposeRefundRisk a op operationId) d = (.ok res, d')) :
    Disposed a r d d' res ∧ ∃ j ∈ d'.ledger.rows, DispositionJournal a r.id res j := by
  obtain ⟨t, ht, rfl⟩ : ∃ t, disposeRefundRisk a op operationId (.fresh d) =
      (.ok res, t) ∧ t.committed = d' :=
    ⟨(disposeRefundRisk a op operationId (.fresh d)).2, Prod.ext (Prod.ext_iff.1 h).1 rfl,
      (Prod.ext_iff.1 h).2⟩
  simp only [disposeRefundRisk, conflictsAs_ok, answering_ok, Tx.bind_ok, Tx.pure_ok] at ht
  obtain ⟨_, s, hresolve, _, s₁, hadd, _, s₂, hcommit, rfl, rfl⟩ := ht
  obtain ⟨o, w, haction, hwallet, hcovered, hdispose⟩ :=
    resolveRefundRisk_first (by rw [ha]; exact hr) (hrisks.undisposed hnamed hr hrisk _) hresolve
  obtain ⟨row, recovered, hn, ledger, b, E, hrecovered, rfl, hinsert, hs, hledger⟩ :=
    disposeShortfall_ok hdispose
  obtain ⟨hbooks, -⟩ := (hs.add (neutral_insertAction _).effect hadd).commit hcommit
  have hledger' : t.committed.ledger = ledger := (congrArg Books.ledger hbooks).trans hledger
  have hpos := hrisks.unreachable hr hrisk
  have hbalance := hsound.agree.balance_nonneg w (Table.mem_of_get? hwallet)
  obtain ⟨hav, -, -, hriskleg⟩ := legs_dispositionEntries (-riskNet r.orderId d) recovered
  have hnet : riskNet r.orderId d = d.ledger.sum (LedgerTransaction.atRisk r.orderId) := by
    simp only [riskNet, ← ofRisk_iff]
    rfl
  have hbounds : 0 ≤ recovered ∧ recovered ≤ -riskNet r.orderId d ∧ recovered ≤ w.balanceMicrousd ∧
      (a.action = "recover_available" → recovered = -riskNet r.orderId d) ∧
      (recovered < -riskNet r.orderId d → recovered = w.balanceMicrousd) := by
    subst hrecovered
    split_ifs with haction
    · have := hcovered haction
      exact ⟨by omega, by omega, by omega, fun _ => rfl, by omega⟩
    · exact ⟨by omega, by omega, by omega, fun h => absurd h haction, by omega⟩
  refine ⟨⟨rfl, ?_, by dsimp only; omega, by dsimp only; omega, ⟨w,
    hwallet, by dsimp only; omega, ?_⟩, ?_, ?_⟩, _, hledger' ▸ (Table.mem_insert
      hinsert).2 (.inr rfl), haction, rfl, rfl, ?_, ?_, ?_⟩
  · obtain ⟨o', ho', -, hsum, -⟩ := (hrisks.shortfall r (Table.mem_of_get? hr) hrisk).order
    have hid : r.orderId = o'.id := (Table.key_of_get? ho').symm
    refine ⟨o', ho', ?_⟩
    dsimp only
    rw [hnet, hid]
    exact (congrArg Neg.neg hsum).trans (neg_sub ..)
  · intro hloss
    exact hbounds.2.2.2.2 (by dsimp only at hloss; omega)
  · intro haction
    have := hbounds.2.2.2.1 haction
    dsimp only
    omega
  · rw [show t.committed.ledger = t.committed.books.ledger from rfl, onRisk_eq hrisks',
      show t.committed.books.ledger = ledger from hledger', Table.sum_insert _ hinsert, ← hnet,
      LedgerTransaction.atRisk, if_pos, total_journal, hriskleg, add_neg_cancel]
    refine ⟨rfl, ofRisk_of_disposes ?_⟩
    show (dispositionKind a.action).disposes = true
    unfold dispositionKind
    split_ifs <;> rfl
  · rw [total_journal, hav, neg_neg]
  · rw [total_journal, legs_platformLoss, neg_neg]
  · dsimp only
    omega

/-- What `resolve_refund_risk` answers once the shortfall has been disposed of. -/
structure Dispositions (a : ResolveArgs) (res : RiskResolution) (d : DB) : Prop where
  replayed : ∀ c : ResolveArgs, c.refundId = a.refundId → c.action = a.action →
    c.idempotencyKey = a.idempotencyKey →
    ∃ row, resolveRefundRisk c (.fresh d) =
      (.ok ⟨row, true, res.outstanding, res.recovered, res.writtenOff⟩, .fresh d)
  refused : ∀ c : ResolveArgs, c.refundId = a.refundId → c.action ≠ a.action ∨
    c.idempotencyKey ≠ a.idempotencyKey →
    ∃ message code, resolveRefundRisk c (.fresh d) =
      (.error (.paymentDomain message code), .fresh d)

theorem action_ne {action : String} (h : action = "recover_available" ∨ action = "write_off") :
    ¬ (action ≠ "recover_available" ∧ action ≠ "write_off") := by
  simpa only [not_and_or, ne_eq, not_not] using h

theorem dispositionKind_inj {action action' : String}
    (h : action = "recover_available" ∨ action = "write_off")
    (h' : action' = "recover_available" ∨ action' = "write_off")
    (heq : dispositionKind action = dispositionKind action') :
    action = action' := by
  rcases h with rfl | rfl <;> rcases h' with rfl | rfl <;> first | rfl | cases heq

theorem resolveRefundRisk_existing {c : ResolveArgs} {j : LedgerTransaction}
    (haction : c.action = "recover_available" ∨ c.action = "write_off")
    (hr : d.refunds.get? c.refundId = some r)
    (hj : d.ledger.get? (dispositionKey r.id c.idempotencyKey) = some j) :
    resolveRefundRisk c (.fresh d) =
      if j.kind ≠ dispositionKind c.action then
        (.error (.paymentDomain "同一幂等键已用于不同风险处置动作" 409), .fresh d)
      else (.ok ⟨r, true, -j.total .customerAvailable + -j.total .platformLoss,
        -j.total .customerAvailable, -j.total .platformLoss⟩, .fresh d) := by
  have hr' : (Session.fresh d).work.refunds.get? c.refundId = some r := hr
  have hj' : (Session.fresh d).work.ledger.get?
      ("refund-risk-disposition:" ++ r.id ++ ":" ++ c.idempotencyKey) = some j := hj
  unfold resolveRefundRisk
  rw [Tx.raiseIf_bind (action_ne haction), Tx.select_bind, Tx.orRaise_bind hr', Tx.select_bind, hj']
  dsimp only
  split_ifs with hkind
  · rw [Tx.raiseIf_raises hkind]
  · rw [Tx.raiseIf_bind hkind]
    rfl

theorem DispositionJournal.dispositions {j : LedgerTransaction} {i : Id}
    (h : DispositionJournal a i res j)
    (ha : a.refundId = i) (hrisks : d.books.Risks) (hnamed : d.books.Named) (hj : j ∈ d.ledger.rows)
    (hthere : (d.refunds.get? i).isSome) : Dispositions a res d := by
  obtain ⟨r, hr⟩ := Option.isSome_iff_exists.1 hthere
  have hid := Table.key_of_get? hr
  have hr' : d.books.refunds.get? r.id = some r := by
    rw [hid]
    exact hr
  have hget : d.ledger.get? (dispositionKey r.id a.idempotencyKey) = some j := by
    rw [hid, ← h.key]
    exact Table.get?_of_mem hj
  obtain ⟨hdisposes, href, hresolved⟩ := hrisks.disposition hnamed hr' hj (by rw [h.key, hid])
  constructor
  · intro c hc haction hkey
    refine ⟨r, ?_⟩
    rw [resolveRefundRisk_existing (by rw [haction]; exact h.action) (by rw [hc, ha]; exact hr)
      (by rw [hkey]; exact hget), if_neg (not_not.2 (by rw [h.kind, haction])), ← h.outstanding,
      h.recovered, h.writtenOff]
  · intro c hc hother
    by_cases haction : c.action = "recover_available" ∨ c.action = "write_off"
    · have hrc : d.refunds.get? c.refundId = some r := by rw [hc, ha]; exact hr
      cases hk : d.ledger.get? (dispositionKey r.id c.idempotencyKey) with
      | some j' =>
        -- it is the journal of the disposition, as there is no other, so that the action is another
        have hj' := Table.mem_of_get? hk
        obtain ⟨hdisposes', href', -⟩ := hrisks.disposition hnamed hr' hj' (Table.key_of_get? hk)
        obtain rfl := hrisks.once j' hj' j hj hdisposes' hdisposes (href'.trans href.symm)
        obtain ⟨-, hsame⟩ := dispositionKey_inj (hnamed r (Table.mem_of_get? hr'))
          (hnamed r (Table.mem_of_get? hr'))
          ((Table.key_of_get? hk).symm.trans (by rw [h.key, hid]))
        refine ⟨_, _, (resolveRefundRisk_existing haction hrc hk).trans (if_pos fun hkind => ?_)⟩
        rw [h.kind] at hkind
        rcases hother with hother | hother
        · exact hother (dispositionKind_inj haction h.action hkind.symm)
        · exact hother hsame
      | none =>
        have hrw : (Session.fresh d).work.refunds.get? c.refundId = some r := hrc
        have hnone : (Session.fresh d).work.ledger.get?
          ("refund-risk-disposition:" ++ r.id ++ ":" ++ c.idempotencyKey) = none := hk
        refine ⟨"退款记录不处于待处置风险状态", 409, ?_⟩
        unfold resolveRefundRisk
        rw [Tx.raiseIf_bind (action_ne haction), Tx.select_bind, Tx.orRaise_bind hrw,
          Tx.select_bind, hnone]
        exact Tx.raiseIf_raises (by rw [hresolved]; decide) ..
    · refine ⟨"退款风险处置动作无效", 422, ?_⟩
      unfold resolveRefundRisk
      exact Tx.raiseIf_raises (not_or.1 haction) ..

/-- `outstanding <= 0`, which is raised after the refund has been found at risk. -/
def settledOrAbnormal : Exc := .paymentDomain "退款风险差额已结清或账本状态异常" 409

theorem raises_disposeShortfall {p : Exc → Prop} (o : PaymentOrder) (w : Wallet) (outstanding : Int)
    (hviolation : p Violation.violation) (hruntime : ∀ message, p (.runtimeError message)) :
    Tx.Raises (disposeShortfall a r o w outstanding) s p := by
  have hpost {userId : Id} {kind : LedgerKind} {reference key : String}
    {entries : List (Account × Int)} {s : Session DB} :
      Tx.Raises (postTransaction userId kind reference key entries) s p := by
    unfold postTransaction
    split
    · exact Tx.raises_bind (Tx.raises_add _) fun _ _ _ => Tx.raises_flush hviolation
    · exact Tx.raises_raise (hruntime _)
  unfold disposeShortfall
  refine Tx.raises_bind (Tx.raises_add _) fun _ _ _ => Tx.raises_bind hpost fun _ _ _ => ?_
  refine Tx.raises_bind (Tx.raises_add _) fun _ _ _ =>
    Tx.raises_bind (Tx.raises_add _) fun _ _ _ => ?_
  exact Tx.raises_bind (Tx.raises_add _) fun _ _ _ => Tx.raises_pure _

theorem raises_resolveRefundRisk_of_pos (hpos : ∀ r, d.refunds.get? a.refundId = some r →
    r.status = .risk → 0 < -riskNet r.orderId d) :
    Tx.Raises (resolveRefundRisk a) (.fresh d) (· ≠ settledOrAbnormal) := by
  unfold resolveRefundRisk
  refine Tx.raises_bind (Tx.raises_raiseIf (by decide)) fun _ _ h => ?_
  obtain ⟨-, rfl⟩ := (Tx.raiseIf_ok ..).1 h
  refine Tx.raises_bind (Tx.raises_select _) fun _ _ h => ?_
  obtain ⟨rfl, rfl⟩ := (Tx.select_ok ..).1 h
  refine Tx.raises_bind (Tx.raises_orRaise (by decide)) fun refund _ h => ?_
  obtain ⟨hrefund, rfl⟩ := (Tx.orRaise_ok ..).1 h
  refine Tx.raises_bind (Tx.raises_select _) fun existing _ h => ?_
  obtain ⟨-, rfl⟩ := (Tx.select_ok ..).1 h
  cases existing with
  | some existing =>
    exact Tx.raises_bind (Tx.raises_raiseIf (by decide)) fun _ _ _ => Tx.raises_pure _
  | none =>
    refine Tx.raises_bind (Tx.raises_raiseIf (by decide)) fun _ _ h => ?_
    obtain ⟨hrisk, rfl⟩ := (Tx.raiseIf_ok ..).1 h
    refine Tx.raises_bind (Tx.raises_select _) fun _ _ h => ?_
    obtain ⟨-, rfl⟩ := (Tx.select_ok ..).1 h
    refine Tx.raises_bind (Tx.raises_orRaise (by decide)) fun order _ h => ?_
    obtain ⟨-, rfl⟩ := (Tx.orRaise_ok ..).1 h
    refine Tx.raises_bind (Tx.raises_select _) fun net _ h => ?_
    obtain ⟨rfl, rfl⟩ := (Tx.select_ok ..).1 h
    have hnet := not_le.2 (hpos refund hrefund (not_not.1 hrisk))
    refine Tx.raises_bind (Tx.raises_raiseIf_not hnet) fun _ _ _ =>
      Tx.raises_bind (Tx.raises_select _) fun _ _ _ => ?_
    refine Tx.raises_bind (Tx.raises_orRaise (by decide)) fun wallet _ _ => ?_
    refine Tx.raises_bind (Tx.raises_raiseIf (by decide)) fun _ _ _ =>
      Tx.raises_bind (Tx.raises_raiseIf (by decide)) fun _ _ _ => ?_
    exact raises_disposeShortfall _ _ _ (by decide) nofun

end Sessions

/-! ## Runs -/

/-- In a run whose settlements and releases come from their callers, the shortfall of a refund at
risk is disposed of once and for all of it. The ids of refunds, which `uuid4` draws, have no
colon. -/
theorem shortfall_disposed {d : DB} (hd : d.Opened) {past : List Op}
    (hpast : ∀ op ∈ past, op.ByCaller)
    {r : PaymentRefund} (hr : (Run.after exec d past).refunds.get? r.id = some r)
    (hrisk : r.status = .risk)
    {a : ResolveArgs} (ha : a.refundId = r.id) :
    (∀ t, resolveRefundRisk a (.fresh (Run.after exec d past)) ≠ (.error settledOrAbnormal, t)) ∧
      ∀ (op : Operator) (operationId : String) (res : RiskResolution) (d' : DB),
        Tx.run (disposeRefundRisk a op operationId) (Run.after exec d past) = (.ok res, d') →
        ∀ ops : List Op, (∀ op ∈ ops, op.ByCaller) → (Run.after exec d' ops).books.Named →
          Disposed a r (Run.after exec d past) d' res ∧
          Dispositions a res (Run.after exec d' ops) := by
  have hin {e : DB} {ops : List Op} (hops : ∀ op ∈ ops, op.ByCaller) :
      Moves .callerRun e.books (Run.after exec e ops).books := after_moves .callerRun trivial
    (Run.along_of_forall e fun op hop _ =>
      ⟨fun _ => hops op hop, fun _ _ => trivial, fun _ _ => trivial⟩)
  have hrisks := (hin hpast).risks trivial hd.risks
  refine ⟨fun t h => ?_, fun op operationId res d' h ops hops hnamed => ?_⟩
  · refine (raises_resolveRefundRisk_of_pos fun x hx hs => ?_).of_error _ t h rfl
    exact hrisks.unreachable (Table.key_of_get? hx ▸ hx) hs
  · have hmove : Moves .callerRun (Run.after exec d past).books d'.books := by
      have hrun : Moves .callerRun (Run.after exec d past).books
        (Tx.run (disposeRefundRisk a op operationId) (Run.after exec d past)).2.books :=
        (carries_disposeRefundRisk ..).run _
      rwa [h] at hrun
    have hrisks' := hmove.risks trivial hrisks
    have hlater := hin (e := d') hops
    have hall : Moves .callerRun (Run.after exec d past).books (Run.after exec d' ops).books :=
      hmove.trans hlater
    have hnamed' : (Run.after exec d past).books.Named := fun x hx => by
      obtain ⟨y, hy⟩ := Option.isSome_iff_exists.1
        (hall.refund (Option.isSome_of_eq_some (Table.get?_of_mem hx)))
      rw [← Table.key_of_get? hy]
      exact hnamed y (Table.mem_of_get? hy)
    obtain ⟨hdisposed, j, hj, hjournal⟩ :=
      disposeRefundRisk_disposed hrisks (sound_after hd past) hrisks' hnamed' hr hrisk ha h
    refine ⟨hdisposed, hjournal.dispositions ha (hlater.risks trivial hrisks') hnamed
      (hlater.journal hj) ?_⟩
    exact hall.refund (Option.isSome_of_eq_some hr)

/-- The refund of a spent order, after which the hold gives back what it held. -/
def releasedRefund : List Op := spentRefund ++ recovery.take 1

def recoverAll : ResolveArgs := ⟨"r", "recover_available", "k", "x\""⟩

def riskyRefund : PaymentRefund :=
  ⟨"r", "o", "u", some "refund", "webhook:provider:refunded", 100, "CNY", 5000, .risk,
    some "refund_balance_insufficient", 0⟩

def resolvedRefund : PaymentRefund :=
  { riskyRefund with status := .resolved, riskReason := some "resolved_recovered" }

/-- The refund took 880 of the 5000, and the disposition takes the other 4120. -/
theorem shortfall_disposed_recovered :
    ∃ d, Tx.run (disposeRefundRisk recoverAll ⟨"ops", "ops:payments", "token", none,
      "reason"⟩ "operation")
        (Run.after exec shop releasedRefund) = (.ok ⟨resolvedRefund, false, 4120, 4120, 0⟩, d) ∧
      Dispositions recoverAll ⟨resolvedRefund, false, 4120, 4120, 0⟩ d := by
  have hpast : ∀ op ∈ releasedRefund, op.ByCaller := by
    intro op hop
    simp only [releasedRefund, spentRefund, recovery, List.take_succ_cons, List.take_zero,
      List.cons_append, List.nil_append, List.mem_cons, List.not_mem_nil, or_false] at hop
    rcases hop with rfl | rfl | rfl | rfl | rfl
    · trivial
    · trivial
    · trivial
    · trivial
    · exact ⟨by simp [RequestStatus.outstanding], rfl, rfl⟩
  have hr : (Run.after exec shop releasedRefund).refunds.get? riskyRefund.id =
      some riskyRefund := by decide +kernel
  have hnamed : (Tx.run (disposeRefundRisk recoverAll ⟨"ops", "ops:payments", "token", none,
    "reason"⟩ "operation") (Run.after exec shop releasedRefund)).2.books.Named := by
    unfold Books.Named
    decide +kernel
  refine ⟨_, Prod.ext (by decide +kernel) rfl, ?_⟩
  have hdisposed := shortfall_disposed opened_shop hpast hr rfl (a := recoverAll) rfl
  exact (hdisposed.2 _ _ _ _ (Prod.ext (by decide +kernel) rfl) [] (by simp) hnamed).2

end Kunlun
