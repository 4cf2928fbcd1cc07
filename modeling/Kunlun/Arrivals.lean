import Kunlun.Atomicity
import Kunlun.Deliveries
import Kunlun.Indexes

/-!
# The first final event

An open order waits until an event pays it or fails it. It then stays as that event left it,
whatever arrives after.
-/

namespace Kunlun

/-! ## Authentic events -/

/-- The pages of `/ops/payments/reconciliation`, taken together. -/
def paymentReconciliationQueue (d : DB) : List PaymentOrder :=
  d.orders.rows.filter (·.status.isOpen)

/-- The tables after the events, in the order in which they are delivered. -/
def deliver (d : DB) (events : List WebhookArgs) : DB := Run.after exec d (events.map .applyWebhook)

/-- The events that are answered with an error. -/
def rejected (d : DB) : List WebhookArgs → List WebhookArgs
  | [] => []
  | a :: rest =>
    let later := rejected (exec (.applyWebhook a) d) rest
    if (applyWebhook a (.fresh d)).1.isOk then later else a :: later

/-- The event that ends the payment, if there is one. -/
def firstFinal (events : List WebhookArgs) : Option EventStatus :=
  (events.filterMap fun a => validEvent a.eventType).find? (· ≠ .pending)

/-- An open order, and the transaction of the provider that is its own. -/
structure Awaits (d : DB) (o : PaymentOrder) (transaction : String) : Prop where
  found : d.orders.get? o.id = some o
  isOpen : o.status.isOpen
  known : o.providerTransactionId = none ∨ o.providerTransactionId = some transaction
  own : ∀ x ∈ d.orders.rows, x.id ≠ o.id → x.providerTransactionId ≠ some transaction

/-- An event of the provider that agrees with the order. -/
structure Authentic (o : PaymentOrder) (transaction : String) (a : WebhookArgs) : Prop where
  complete : ¬ (a.eventId = "" ∨ a.nonceText = "" ∨ a.rawDigest = "" ∨ a.providerTransactionId = "")
  orderId : a.orderId = o.id
  provider : o.provider = a.provider
  amount : o.paymentAmountMinor = some a.paymentAmountMinor
  currency : o.paymentCurrency = some a.paymentCurrency
  transaction : a.providerTransactionId = transaction
  type : a.eventType = "payment.pending" ∨ a.eventType = "payment.failed" ∨
    a.eventType = "payment.succeeded"
  status : (validEvent a.eventType).map EventStatus.text = some a.status
  noRefund : a.providerRefundId = none

/-- Nothing has been drawn or recorded under the names of the events, and no two events share
one. -/
structure New (d : DB) (events : List WebhookArgs) : Prop where
  eventId : ∀ a ∈ events, eventWithId a.provider a.eventId d = none
  nonce : ∀ a ∈ events, eventWithNonce a.provider a.nonceText d = none
  row : ∀ a ∈ events, d.events.get? a.webhookId = none
  journal : ∀ a ∈ events, d.ledger.get? ("payment:" ++ a.provider ++ ":" ++ a.eventId) = none
  apart : ∀ a ∈ events, ∀ b ∈ events, a.eventId = b.eventId ∨ a.nonceText = b.nonceText ∨
    a.webhookId = b.webhookId →
    a = b

/-- The order is paid, and was credited once since. -/
structure CreditedOnce (o : PaymentOrder) (d e : DB) : Prop where
  paid : ∃ x, e.orders.get? o.id = some x ∧ x.status = .paid
  wallets : e.wallets = d.wallets.modify o.userId fun w => { w with
    balanceMicrousd := w.balanceMicrousd + o.creditAmountMicrousd }
  journal : ∃ j, Posts j .paymentCredit o.userId o.id o.creditAmountMicrousd 0
    (-o.creditAmountMicrousd) 0 ∧
    d.ledger.insert? j = some e.ledger

/-- The order has failed without a credit, and an operator neither finds it nor may reconcile it. -/
structure FailedForGood (o : PaymentOrder) (d e : DB) : Prop where
  failed : ∃ x, e.orders.get? o.id = some x ∧ x.status = .failed
  wallets : e.wallets = d.wallets
  ledger : e.ledger = d.ledger
  unlisted : ∀ x ∈ paymentReconciliationQueue e, x.id ≠ o.id
  refused : ∀ a : ReconcileArgs, a.orderId = o.id →
    (Tx.run (claimReconciliation a) e).1 = .error (.http "订单状态不允许进入支付对账" 409)

/-- An operator finds the order, and may reconcile it. -/
structure Discoverable (o : PaymentOrder) (e : DB) : Prop where
  listed : ∃ x ∈ paymentReconciliationQueue e, x.id = o.id
  accepted : ∃ a : ReconcileArgs, a.orderId = o.id ∧ (Tx.run (claimReconciliation a) e).1.isOk

/-! ## One event -/

section Event

variable {a : WebhookArgs} {o order : PaymentOrder} {transaction : String}
  {kind : EventStatus} {d e : DB}

theorem Authentic.kinds (h : Authentic o transaction a) :
    ∃ kind, validEvent a.eventType = some kind ∧ kind.text = a.status ∧
      (kind = .pending ∨ kind = .failed ∨ kind = .paid) := by
  have hstatus := h.status
  rcases h.type with ht | ht | ht <;> rw [ht] at hstatus ⊢
  · exact ⟨.pending, by decide, Option.some.inj hstatus, .inl rfl⟩
  · exact ⟨.failed, by decide, Option.some.inj hstatus, .inr (.inl rfl)⟩
  · exact ⟨.paid, by decide, Option.some.inj hstatus, .inr (.inr rfl)⟩

/-- The order has its quote and its transaction still. -/
structure SameOrder (o : PaymentOrder) (transaction : String) (x : PaymentOrder) : Prop where
  userId : x.userId = o.userId
  provider : x.provider = o.provider
  amount : x.paymentAmountMinor = o.paymentAmountMinor
  currency : x.paymentCurrency = o.paymentCurrency
  credit : x.creditAmountMicrousd = o.creditAmountMicrousd
  known : x.providerTransactionId = none ∨ x.providerTransactionId = some transaction

/-- What an event does to its order, once it is known to be one of it. -/
def decideEvent (a : WebhookArgs) (order : PaymentOrder) (kind : EventStatus) : Service Bool :=
  match kind with
  | .paid => applyPaidEvent a order
  | kind => applyProgressEvent a order kind

theorem Authentic.reaches (h : Authentic o transaction a)
    (hkind : validEvent a.eventType = some kind)
    (hid : eventWithId a.provider a.eventId d = none)
    (hnonce : eventWithNonce a.provider a.nonceText d = none)
    (hfound : d.orders.get? o.id = some order) (hsame : SameOrder o transaction order) :
    applyWebhook a (.fresh d) = decideEvent a order kind (.fresh d) := by
  have horder : ((Session.fresh d).work.orders.get? a.orderId).filter
      (fun o => o.provider = a.provider) = some order := by
    simp [Session.fresh, h.orderId, hfound, Option.filter, hsame.provider, h.provider]
  obtain ⟨kind', hkind', htext, hthree⟩ := h.kinds
  obtain rfl := Option.some.inj (hkind.symm.trans hkind')
  have hvalid : (validEvent a.eventType).filter (fun k => k.text = a.status) = some kind := by
    simp [hkind, Option.filter, htext]
  have hdispatch : dispatchEvent a (.fresh d) = decideEvent a order kind (.fresh d) := by
    have hquote : ¬ (order.paymentAmountMinor ≠ some a.paymentAmountMinor ∨
        order.paymentCurrency ≠ some a.paymentCurrency) := by
      simp [hsame.amount, hsame.currency, h.amount, h.currency]
    have htransaction : ¬ (order.providerTransactionId ≠ none ∧
        order.providerTransactionId ≠ some a.providerTransactionId) := by
      rcases hsame.known with hk | hk <;> simp [hk, h.transaction]
    have hrefund : ¬ a.providerRefundId ≠ none := by simp [h.noRefund]
    rw [dispatchEvent, Tx.select_bind, Tx.orRaise_bind horder, Tx.raiseIf_bind hquote,
      Tx.raiseIf_bind htransaction, Tx.orRaise_bind hvalid]
    rcases hthree with rfl | rfl | rfl
    · exact Tx.raiseIf_bind hrefund ..
    · exact Tx.raiseIf_bind hrefund ..
    · exact Tx.raiseIf_bind hrefund ..
  rw [applyWebhook, Tx.raiseIf_bind h.complete, Tx.select_bind]
  simp only [Session.fresh, hid, Tx.select_bind]
  exact (Tx.raiseIf_bind (by simp [hnonce]) ..).trans hdispatch

theorem exec_webhook (a : WebhookArgs) (d : DB) :
    exec (.applyWebhook a) d = (applyWebhook a (.fresh d)).2.committed := by
  rw [exec, Op.service, run_discard]
  rfl

theorem exec_seen (h : eventWithId a.provider a.eventId d ≠ none ∨
    eventWithNonce a.provider a.nonceText d ≠ none) :
    exec (.applyWebhook a) d = d := by
  rw [exec_webhook]
  rcases Tx.run_cases (atomic_applyWebhook a) d with heq | ⟨b, t, hrun, heq⟩
  · exact heq
  · rw [hrun]
    simp only [applyWebhook, Tx.bind_ok, Tx.select_ok, Tx.raiseIf_ok] at hrun
    obtain ⟨_, _, ⟨-, rfl⟩, existing, _, ⟨hex, rfl⟩, hrun⟩ := hrun
    cases existing with
    | some existing =>
      simp only [Tx.bind_ok, Tx.raiseIf_ok, Tx.rollback_ok, Tx.pure_ok] at hrun
      obtain ⟨_, _, ⟨-, rfl⟩, _, _, rfl, -, rfl⟩ := hrun
      rfl
    | none =>
      simp only [Tx.bind_ok, Tx.select_ok, Tx.raiseIf_ok] at hrun
      obtain ⟨_, _, ⟨rfl, rfl⟩, _, _, ⟨hfresh, -⟩, -⟩ := hrun
      rcases h with h | h
      · exact absurd hex.symm h
      · exact absurd (Option.isSome_iff_ne_none.2 h) hfresh

theorem Authentic.exec_ended (h : Authentic o transaction a)
    (hfound : d.orders.get? o.id = some order)
    (hsame : SameOrder o transaction order) (hended : order.status.isOpen = false) :
    exec (.applyWebhook a) d = d := by
  by_cases hseen : eventWithId a.provider a.eventId d = none ∧
    eventWithNonce a.provider a.nonceText d = none
  · obtain ⟨kind, hkind, -, hthree⟩ := h.kinds
    rw [exec_webhook, h.reaches hkind hseen.1 hseen.2 hfound hsame]
    have hprogress (kind : EventStatus) :
        (applyProgressEvent a order kind (.fresh d)).2.committed = d := by
      simp [applyProgressEvent, Tx.raiseIf, hended, Bind.bind, Session.fresh]
    have hpaid : (applyPaidEvent a order (.fresh d)).2.committed = d := by
      rw [applyPaidEvent, if_neg (by simp [hended])]
      exact Tx.Quiet.committed (by simp) _
    rcases hthree with rfl | rfl | rfl
    · exact hprogress _
    · exact hprogress _
    · exact hpaid
  · exact exec_seen (by rwa [not_and_or] at hseen)

/-! ## What is accepted -/

theorem insertEvent_new (i : Id) (hu : uniqueEvents d.events.rows)
    (hid : eventWithId a.provider a.eventId d = none)
    (hnonce : eventWithNonce a.provider a.nonceText d = none)
    (hrow : d.events.get? a.webhookId = none) :
    ∃ events, d.events.insert? (webhookEvent a i .processed) = some events ∧
      uniqueEvents events.rows ∧
      ∀ e : DB, e.events = d.events →
        DB.insertEvent (webhookEvent a i .processed) e = some { e with events := events } := by
  obtain ⟨events, ht⟩ : ∃ t, d.events.insert? (webhookEvent a i .processed) = some t :=
    ⟨_, dif_pos (Table.get?_eq_none.1 hrow)⟩
  have hrows := (Table.insert?_eq_some.1 ht).2
  rw [uniqueEvents, Bool.and_eq_true] at hu
  have hu' : uniqueEvents events.rows := by
    rw [uniqueEvents, Bool.and_eq_true, hrows]
    refine ⟨unique_append_of hu.1 fun x hx b hb hc => ?_,
      unique_append_of hu.2 fun x hx b hb hc => ?_⟩
    · have hno := List.find?_eq_none.1 hid x hx
      obtain rfl := Option.some.inj hb
      simp [webhookEvent] at hc
      simp [← hc] at hno
    · have hno := List.find?_eq_none.1 hnonce x hx
      obtain rfl := Option.some.inj hb
      simp [webhookEvent] at hc
      simp [← hc] at hno
  refine ⟨events, ht, hu', fun e he => ?_⟩
  simp [DB.insertEvent, he, ht, hu']

theorem uniqueOrders_modify {f : PaymentOrder → PaymentOrder} (hf : ∀ x, (f x).id = x.id)
    (hfound : d.orders.get? o.id = some order) (hu : uniqueOrders d.orders.rows)
    (hown : ∀ x ∈ d.orders.rows, x.id ≠ o.id → x.providerTransactionId ≠ some transaction)
    (ht : (f order).providerTransactionId = some transaction)
    (huser : (f order).userId = order.userId)
    (hkey : (f order).clientIdempotencyKey = order.clientIdempotencyKey) :
    uniqueOrders (d.orders.modify o.id f hf).rows := by
  rw [uniqueOrders, Bool.and_eq_true] at hu ⊢
  refine ⟨unique_modify hfound hu.1 fun x hx hne b hb hc => ?_, unique_modify_same hf hfound hu.2
    (by simp [huser, hkey])⟩
  rw [ht] at hc
  obtain rfl := Option.some.inj hc
  exact hown x hx hne hb

theorem progressedOrder_columns (a : WebhookArgs) (kind : EventStatus) (order : PaymentOrder) :
    (progressedOrder a kind order).userId = order.userId ∧
    (progressedOrder a kind order).provider = order.provider ∧
    (progressedOrder a kind order).paymentAmountMinor = order.paymentAmountMinor ∧
    (progressedOrder a kind order).paymentCurrency = order.paymentCurrency ∧
    (progressedOrder a kind order).creditAmountMicrousd = order.creditAmountMicrousd ∧
    (progressedOrder a kind order).clientIdempotencyKey = order.clientIdempotencyKey ∧
    (progressedOrder a kind order).providerTransactionId =
      if truthy order.providerTransactionId then order.providerTransactionId
      else some a.providerTransactionId := by
  unfold progressedOrder
  cases kind with
  | failed | closed => exact ⟨rfl, rfl, rfl, rfl, rfl, rfl, rfl⟩
  | pending | paid | refunded => simp only; split <;> exact ⟨rfl, rfl, rfl, rfl, rfl, rfl, rfl⟩

theorem Authentic.progressed (h : Authentic o transaction a) (hsame : SameOrder o transaction order)
    (kind : EventStatus) : SameOrder o transaction (progressedOrder a kind order) ∧
      (progressedOrder a kind order).providerTransactionId = some transaction := by
  obtain ⟨huser, hprovider, hamount, hcurrency, hcredit, -, ht⟩ :=
    progressedOrder_columns a kind order
  have htext : transaction ≠ "" := fun hempty => h.complete (by simp [h.transaction, hempty])
  have ht' : (progressedOrder a kind order).providerTransactionId = some transaction := by
    rw [ht]
    rcases hsame.known with hk | hk <;> simp [hk, truthy, htext, h.transaction]
  exact ⟨⟨huser.trans hsame.userId, hprovider.trans hsame.provider, hamount.trans hsame.amount,
    hcurrency.trans hsame.currency, hcredit.trans hsame.credit, .inr ht'⟩, ht'⟩

theorem applyProgressEvent_accepted {events : Table PaymentWebhookEvent PaymentWebhookEvent.id}
    (hopen : order.status.isOpen)
    (hinsert : ∀ e : DB, e.events = d.events →
      DB.insertEvent (webhookEvent a order.id .processed) e = some { e with events := events })
    (hu : uniqueOrders (d.orders.modify order.id (progressedOrder a kind)
      (progressedOrder_id a kind)).rows) :
    (applyProgressEvent a order kind (.fresh d)).2.committed = { d with
      events := events
      orders := d.orders.modify order.id (progressedOrder a kind)
        (progressedOrder_id a kind) } := by
  have hrun : ∃ t, applyProgressEvent a order kind (.fresh d) = (.ok false, t) ∧
    t.committed = { d with
      events := events
      orders := d.orders.modify order.id (progressedOrder a kind)
        (progressedOrder_id a kind) } := by
    simp only [applyProgressEvent, recordEvent, setOrder, Tx.bind_ok, Tx.raiseIf_ok,
      Tx.add_ok, conflictsAs_ok, Tx.commit_ok, Tx.pure_ok, true_and]
    refine ⟨_, ⟨(), _, ⟨by simp [hopen], rfl⟩, (), _, rfl, (), _, rfl, (), _, ⟨_, ?_, rfl⟩, rfl⟩,
      rfl⟩
    simp only [Session.fresh, List.nil_append, List.cons_append, Tx.applyAll_cons,
      Tx.applyAll_nil, Option.some.injEq, exists_eq_right]
    exact ⟨_, hinsert d rfl, flushOrders_ok.2 ⟨hu, rfl⟩⟩
  obtain ⟨t, ht, heq⟩ := hrun
  rw [ht]
  exact heq

theorem postTransaction_posts (userId : Id) (kind : LedgerKind) (reference : String)
    {key : String} {credit : Int}
    {s : Session DB} {d₁ : DB} (hpending : Tx.applyAll s.pending s.work = some d₁)
    (hcredit : credit ≠ 0)
    (hkey : d₁.ledger.get? key = none) :
    ∃ j ledger, Posts j kind userId reference credit 0 (-credit) 0 ∧
      j.idempotencyKey = key ∧ d₁.ledger.insert? j = some ledger ∧
      postTransaction userId kind reference key
        [(.customerAvailable, credit), (.platformClearing, -credit)] s =
        (.ok (), ⟨s.committed, { d₁ with ledger := ledger }, []⟩) := by
  have hlegs : 2 ≤ (normalized
    [(.customerAvailable, credit), (.platformClearing, -credit)]).length ∧
      ((normalized [(Account.customerAvailable, credit), (.platformClearing, -credit)]).map
        (·.2)).sum = 0 :=
    ⟨two_le_normalized (.head _) (.tail _ (.head _)) (by simp) (by simp; omega) (by simp; omega),
      by rw [sum_normalized]; simp⟩
  obtain ⟨ledger, hl⟩ :
      ∃ t, d₁.ledger.insert? (journal userId kind reference key _ hlegs.2) = some t :=
    ⟨_, dif_pos (Table.get?_eq_none.1 hkey)⟩
  refine ⟨_, ledger, ⟨rfl, rfl, rfl, ?_, ?_, ?_, ?_⟩, rfl, hl,
    (postTransaction_ok ..).2 ⟨hlegs, d₁, _, hpending, insertLedger_ok.2 ⟨ledger, hl, rfl⟩, rfl⟩⟩
  all_goals simp

theorem creditOrder_accepted {events : Table PaymentWebhookEvent PaymentWebhookEvent.id}
    {w : Wallet}
    (hopen : order.status.isOpen) (hfound : d.orders.get? order.id = some order)
    (hinsert : ∀ e : DB, e.events = d.events →
      DB.insertEvent (webhookEvent a order.id .processed) e = some { e with events := events })
    (hu : uniqueOrders (d.orders.modify order.id (paidOrder a.providerTransactionId)).rows)
    (hwallet : d.wallets.get? order.userId = some w)
    (hkey : d.ledger.get? ("payment:" ++ a.provider ++ ":" ++ a.eventId) = none) :
    ∃ j ledger outbox, Posts j .paymentCredit order.userId order.id order.creditAmountMicrousd 0
        (-order.creditAmountMicrousd) 0 ∧ j.idempotencyKey = "payment:" ++
          a.provider ++ ":" ++ a.eventId ∧
      d.ledger.insert? j = some ledger ∧
      (creditOrder a order (.fresh d)).2.committed = { d with
        events := events
        orders := d.orders.modify order.id (paidOrder a.providerTransactionId)
        wallets := d.wallets.modify order.userId fun w => { w with
          balanceMicrousd := w.balanceMicrousd + order.creditAmountMicrousd }
        ledger := ledger
        outbox := outbox } := by
  have hguard : (d.orders.get? order.id).any fun o => o.status.isOpen := by simp [hfound, hopen]
  have htable := Table.update_key_of_guard d.orders order.id (fun o => o.status.isOpen)
    (paidOrder a.providerTransactionId)
    (fun _ => rfl) hguard
  have hcount : d.orders.count (fun o => decide (o.id = order.id) && o.status.isOpen) = 1 := by
    rw [Table.count_key d.orders order.id, hguard]
    rfl
  have hupdate : DB.updateOrders (fun o => decide (o.id = order.id) && o.status.isOpen)
      (paidOrder a.providerTransactionId) (fun _ => rfl) d =
      some ({ d with orders := d.orders.modify order.id (paidOrder a.providerTransactionId) }, 1) :=
    updateOrders_ok.2 ⟨by rw [htable]; exact hu, by rw [htable], hcount.symm⟩
  let setWallets := DB.flushing
    (DB.updateWallets (fun w => w.userId = order.userId) fun x => { x with
    balanceMicrousd := w.balanceMicrousd + order.creditAmountMicrousd })
  let s : Session DB := ⟨d,
    { d with orders := d.orders.modify order.id (paidOrder a.providerTransactionId) },
    [DB.insertEvent (webhookEvent a order.id .processed), setWallets]⟩
  have hwallets : d.wallets.modify order.userId (fun x => { x with
        balanceMicrousd := w.balanceMicrousd + order.creditAmountMicrousd }) =
      d.wallets.modify order.userId fun x => { x with
        balanceMicrousd := x.balanceMicrousd + order.creditAmountMicrousd } :=
    Table.modify_congr hwallet rfl
  have hpending : Tx.applyAll s.pending s.work = some { d with
      events := events
      orders := d.orders.modify order.id (paidOrder a.providerTransactionId)
      wallets := d.wallets.modify order.userId fun x => { x with
        balanceMicrousd := x.balanceMicrousd + order.creditAmountMicrousd } } := by
    rw [← hwallets]
    exact (Tx.applyAll_cons ..).2 ⟨_, hinsert _ rfl, (Tx.applyAll_cons ..).2 ⟨_, rfl, rfl⟩⟩
  obtain ⟨j, ledger, hj, hjkey, hl, hpost⟩ :=
    postTransaction_posts order.userId .paymentCredit order.id hpending
    order.creditPositive.ne' hkey
  let x : OutboxEvent := ⟨a.outboxId, "wallet.credited", order.id,
    creditPayload order.id "credit_amount_microusd" order.creditAmountMicrousd⟩
  have hrun : ∃ t, creditOrder a order (.fresh d) = (.ok false, t) ∧ t.committed = { d with
      events := events
      orders := d.orders.modify order.id (paidOrder a.providerTransactionId)
      wallets := d.wallets.modify order.userId fun x => { x with
        balanceMicrousd := x.balanceMicrousd + order.creditAmountMicrousd }
      ledger := ledger
      outbox := d.outbox ++ [x] } := by
    simp only [creditOrder, recordEvent, setBalance, Tx.bind_ok, Tx.add_ok,
      Tx.execute_ok, Tx.rollbackIf_ok, Tx.select_ok, Tx.orRaise_ok, conflictsAs_ok, Tx.commit_ok,
      Tx.pure_ok, true_and]
    exact ⟨_, ⟨(), _, rfl, 1, _, ⟨_, hupdate, rfl⟩, (), _, ⟨by simp, rfl⟩, _, _, ⟨rfl, rfl⟩,
      w, _, ⟨hwallet, rfl⟩, (), _, rfl, (), _, hpost, (), _, rfl, (), _,
      ⟨_, (Tx.applyAll_cons ..).2 ⟨_, rfl, rfl⟩, rfl⟩, rfl⟩, rfl⟩
  obtain ⟨t, ht, heq⟩ := hrun
  exact ⟨j, ledger, _, hj, hjkey, hl, by rw [ht]; exact heq⟩

end Event

/-! ## Until the first final event -/

/-- The order is open and uncredited, and all that was recorded since is among the events. -/
structure Waits (o : PaymentOrder) (transaction : String) (d : DB) (seen : List WebhookArgs)
    (e : DB) : Prop where
  order : ∃ x, e.orders.get? o.id = some x ∧ SameOrder o transaction x ∧ x.status.isOpen
  own : ∀ x ∈ e.orders.rows, x.id ≠ o.id → x.providerTransactionId ≠ some transaction
  orders : uniqueOrders e.orders.rows
  events : uniqueEvents e.events.rows
  wallets : e.wallets = d.wallets
  ledger : e.ledger = d.ledger
  rows : ∀ x ∈ e.events.rows, x ∈ d.events.rows ∨ ∃ a ∈ seen, x = webhookEvent a o.id .processed

section Waits

variable {o : PaymentOrder} {transaction : String} {d e : DB}
  {events seen : List WebhookArgs} {a : WebhookArgs}

theorem Awaits.waits (h : Awaits d o transaction) (ho : uniqueOrders d.orders.rows)
    (he : uniqueEvents d.events.rows) :
    Waits o transaction d [] d :=
  ⟨⟨o, h.found, ⟨rfl, rfl, rfl, rfl, rfl, h.known⟩, h.isOpen⟩, h.own, ho, he, rfl, rfl,
    fun _ hx => .inl hx⟩

theorem Waits.row (h : Waits o transaction d seen e) (hnew : New d events)
    (hseen : ∀ b ∈ seen, b ∈ events)
    (ha : a ∈ events) {x : PaymentWebhookEvent} (hx : x ∈ e.events.rows)
    (hname : x.provider = a.provider ∧ x.eventId = a.eventId ∨ x.provider = a.provider ∧
      x.nonce = a.nonceText ∨
      x.id = a.webhookId) : a ∈ seen ∧ x = webhookEvent a o.id .processed := by
  rcases h.rows x hx with hx | ⟨b, hb, rfl⟩
  · rcases hname with hname | hname | hname
    · exact absurd (List.find?_eq_none.1 (hnew.eventId a ha) x hx) (by simp [hname])
    · exact absurd (List.find?_eq_none.1 (hnew.nonce a ha) x hx) (by simp [hname])
    · exact absurd (Table.get?_of_mem hx) (by rw [hname, hnew.row a ha]; simp)
  · have hba : b = a := hnew.apart b (hseen b hb) a ha (by
      rcases hname with hname | hname | hname
      · exact .inl hname.2
      · exact .inr (.inl hname.2)
      · exact .inr (.inr hname))
    exact ⟨hba ▸ hb, hba ▸ rfl⟩

theorem Waits.unseen (h : Waits o transaction d seen e) (hnew : New d events)
    (hseen : ∀ b ∈ seen, b ∈ events)
    (ha : a ∈ events) (hno : a ∉ seen) : eventWithId a.provider a.eventId e = none ∧
      eventWithNonce a.provider a.nonceText e = none := by
  refine ⟨List.find?_eq_none.2 fun x hx hname => ?_, List.find?_eq_none.2 fun x hx hname => ?_⟩
  · exact hno (h.row hnew hseen ha hx (.inl (by simpa using hname))).1
  · exact hno (h.row hnew hseen ha hx (.inr (.inl (by simpa using hname)))).1

theorem Waits.noRow (h : Waits o transaction d seen e) (hnew : New d events)
    (hseen : ∀ b ∈ seen, b ∈ events)
    (ha : a ∈ events) (hid : eventWithId a.provider a.eventId e = none) :
    e.events.get? a.webhookId = none := by
  refine Option.eq_none_iff_forall_ne_some.2 fun x hx => ?_
  obtain ⟨-, rfl⟩ := h.row hnew hseen ha (Table.mem_of_get? hx) (.inr (.inr (Table.key_of_get? hx)))
  exact absurd (List.find?_eq_none.1 hid _ (Table.mem_of_get? hx)) (by simp [webhookEvent])

theorem Waits.progress (h : Waits o transaction d seen e) (hnew : New d events)
    (hseen : ∀ b ∈ seen, b ∈ events)
    (ha : a ∈ events) (hauth : Authentic o transaction a) {kind : EventStatus}
    (hkind : validEvent a.eventType = some kind) (hne : kind ≠ .paid)
    (hid : eventWithId a.provider a.eventId e = none)
    (hnonce : eventWithNonce a.provider a.nonceText e = none) :
    ∃ x t, e.orders.get? o.id = some x ∧ SameOrder o transaction x ∧ x.status.isOpen ∧
      e.events.insert? (webhookEvent a o.id .processed) = some t ∧ uniqueEvents t.rows ∧
      uniqueOrders (e.orders.modify o.id (progressedOrder a kind)
        (progressedOrder_id a kind)).rows ∧
      exec (.applyWebhook a) e = { e with
        events := t
        orders := e.orders.modify o.id (progressedOrder a kind) (progressedOrder_id a kind) } := by
  obtain ⟨x, hx, hsame, hopen⟩ := h.order
  have hxid : x.id = o.id := Table.key_of_get? hx
  obtain ⟨t, ht, htu, hinsert⟩ :=
    insertEvent_new o.id h.events hid hnonce (h.noRow hnew hseen ha hid)
  obtain ⟨hsame', htransaction⟩ := hauth.progressed hsame kind
  obtain ⟨huser, -, -, -, -, hkey, -⟩ := progressedOrder_columns a kind x
  have hu := uniqueOrders_modify (progressedOrder_id a kind) hx h.orders h.own
    htransaction huser hkey
  refine ⟨x, t, hx, hsame, hopen, ht, htu, hu, ?_⟩
  rw [exec_webhook, hauth.reaches hkind hid hnonce hx hsame]
  have hdecide : decideEvent a x kind = applyProgressEvent a x kind := by
    cases kind with
    | paid => exact absurd rfl hne
    | _ => rfl
  rw [hdecide]
  rw [← hxid] at hinsert hu ⊢
  exact applyProgressEvent_accepted hopen hinsert hu

theorem Waits.pending (h : Waits o transaction d seen e) (hnew : New d events)
    (hseen : ∀ b ∈ seen, b ∈ events)
    (ha : a ∈ events) (hauth : Authentic o transaction a)
    (hkind : validEvent a.eventType = some .pending) :
    Waits o transaction d (a :: seen) (exec (.applyWebhook a) e) := by
  have hrows : ∀ x ∈ e.events.rows, x ∈ d.events.rows ∨ ∃ b ∈ a :: seen,
      x = webhookEvent b o.id .processed := by
    intro x hx
    exact (h.rows x hx).imp_right fun ⟨b, hb, heq⟩ => ⟨b, .tail _ hb, heq⟩
  by_cases hfree : eventWithId a.provider a.eventId e = none ∧
    eventWithNonce a.provider a.nonceText e = none
  · obtain ⟨x, t, hx, hsame, hopen, ht, htu, hou, heq⟩ :=
      h.progress hnew hseen ha hauth hkind (by simp) hfree.1 hfree.2
    rw [heq]
    have hopen' : (progressedOrder a .pending x).status.isOpen := by
      unfold progressedOrder
      simp only
      split
      · rfl
      · exact hopen
    have hx' := Table.get?_modify_self hx (progressedOrder a .pending)
      (progressedOrder_id a .pending)
    refine ⟨⟨_, hx', (hauth.progressed hsame .pending).1, hopen'⟩, fun y hy hne => ?_, hou, htu,
      h.wallets, h.ledger, Table.forall_insert ht hrows (.inr ⟨a, .head _, rfl⟩)⟩
    rcases (Table.mem_modify (progressedOrder_id a .pending) hx).1 hy with rfl | ⟨hy, -⟩
    · exact absurd ((progressedOrder_id ..).trans (Table.key_of_get? hx)) hne
    · exact h.own y hy hne
  · rw [exec_seen (by rwa [not_and_or] at hfree)]
    exact ⟨h.order, h.own, h.orders, h.events, h.wallets, h.ledger, hrows⟩

theorem deliver_cons (e : DB) (a : WebhookArgs) (rest : List WebhookArgs) :
    deliver e (a :: rest) = deliver (exec (.applyWebhook a) e) rest := rfl

theorem deliver_append (e : DB) (xs ys : List WebhookArgs) :
    deliver e (xs ++ ys) = deliver (deliver e xs) ys := by
  simp [deliver]

/-- The event is one of these, and not final. -/
def PendingOf (events : List WebhookArgs) (a : WebhookArgs) : Prop :=
  a ∈ events ∧ validEvent a.eventType = some .pending

theorem Waits.deliver (h : Waits o transaction d seen e) (hnew : New d events)
    (hauth : ∀ b ∈ events, Authentic o transaction b) (hseen : ∀ b ∈ seen, PendingOf events b)
    (before : List WebhookArgs) (hbefore : ∀ b ∈ before, PendingOf events b) :
    ∃ seen, (∀ b ∈ seen, PendingOf events b) ∧
      Waits o transaction d seen (Kunlun.deliver e before) := by
  induction before generalizing seen e with
  | nil => exact ⟨seen, hseen, h⟩
  | cons a before ih =>
    obtain ⟨ha, hkind⟩ := hbefore a (.head _)
    have hnext := h.pending hnew (fun b hb => (hseen b hb).1) ha (hauth a ha) hkind
    have hseen' : ∀ b ∈ a :: seen, PendingOf events b := by
      intro b hb
      rcases List.mem_cons.1 hb with rfl | hb
      · exact ⟨ha, hkind⟩
      · exact hseen b hb
    exact ih hnext hseen' fun b hb => hbefore b (.tail _ hb)

/-! ## From then on -/

/-- The order is not open any more. -/
def Ended (o : PaymentOrder) (transaction : String) (status : OrderStatus) (e : DB) : Prop :=
  ∃ x, e.orders.get? o.id = some x ∧ SameOrder o transaction x ∧ x.status = status

theorem Ended.deliver {status : OrderStatus} (h : Ended o transaction status e)
    (hended : status.isOpen = false)
    (hauth : ∀ b ∈ events, Authentic o transaction b) : Kunlun.deliver e events = e := by
  induction events with
  | nil => rfl
  | cons a rest ih =>
    obtain ⟨x, hx, hsame, hstatus⟩ := h
    rw [deliver_cons, (hauth a (.head _)).exec_ended hx hsame (by rw [hstatus, hended])]
    exact ih fun b hb => hauth b (.tail _ hb)

theorem Waits.failed (h : Waits o transaction d seen e) (hnew : New d events)
    (hseen : ∀ b ∈ seen, b ∈ events)
    (ha : a ∈ events) (hno : a ∉ seen) (hauth : Authentic o transaction a)
    (hkind : validEvent a.eventType = some .failed) :
    Ended o transaction .failed (exec (.applyWebhook a) e) ∧
    (exec (.applyWebhook a) e).wallets = d.wallets ∧
      (exec (.applyWebhook a) e).ledger = d.ledger := by
  obtain ⟨hid, hnonce⟩ := h.unseen hnew hseen ha hno
  obtain ⟨x, t, hx, hsame, -, -, -, -, heq⟩ :=
    h.progress hnew hseen ha hauth hkind (by simp) hid hnonce
  rw [heq]
  have hx' := Table.get?_modify_self hx (progressedOrder a .failed) (progressedOrder_id a .failed)
  exact ⟨⟨_, hx', (hauth.progressed hsame .failed).1, rfl⟩, h.wallets, h.ledger⟩

theorem Waits.paid (h : Waits o transaction d seen e) (hnew : New d events)
    (hseen : ∀ b ∈ seen, b ∈ events)
    (ha : a ∈ events) (hno : a ∉ seen) (hauth : Authentic o transaction a)
    (hkind : validEvent a.eventType = some .paid) (hwallet : (d.wallets.get? o.userId).isSome) :
    Ended o transaction .paid (exec (.applyWebhook a) e) ∧
    CreditedOnce o d (exec (.applyWebhook a) e) := by
  obtain ⟨hid, hnonce⟩ := h.unseen hnew hseen ha hno
  obtain ⟨x, hx, hsame, hopen⟩ := h.order
  have hxid : x.id = o.id := Table.key_of_get? hx
  obtain ⟨t, ht, htu, hinsert⟩ :=
    insertEvent_new x.id h.events hid hnonce (h.noRow hnew hseen ha hid)
  obtain ⟨w, hw⟩ := Option.isSome_iff_exists.1 hwallet
  have hu := uniqueOrders_modify (fun _ => rfl)
      (f := paidOrder a.providerTransactionId) hx h.orders h.own
    (by rw [← hauth.transaction]; rfl) rfl rfl
  have hkey := hnew.journal a ha
  rw [← h.ledger] at hkey
  rw [← h.wallets, ← hsame.userId] at hw
  have hx' := Table.get?_modify_self hx (paidOrder a.providerTransactionId) fun _ => rfl
  obtain ⟨j, ledger, outbox, hj, -, hl, heq⟩ :=
    creditOrder_accepted hopen (by rwa [hxid]) hinsert (by rwa [hxid]) hw hkey
  rw [exec_webhook, hauth.reaches hkind hid hnonce hx hsame]
  have hdecide : decideEvent a x .paid = creditOrder a
      x := by rw [decideEvent, applyPaidEvent, if_pos hopen]
  rw [hdecide, heq]
  have hsame' : SameOrder o transaction (paidOrder a.providerTransactionId x) :=
    ⟨hsame.userId, hsame.provider, hsame.amount, hsame.currency, hsame.credit,
      .inr (by rw [← hauth.transaction]; rfl)⟩
  rw [hxid, hsame.userId, hsame.credit, h.wallets] at *
  exact ⟨⟨_, hx', hsame', rfl⟩, ⟨_, hx', rfl⟩, rfl, j, hj, h.ledger ▸ hl⟩

theorem Ended.failedForGood (h : Ended o transaction .failed e) (ha : Authentic o transaction a)
    (hwallets : e.wallets = d.wallets) (hledger : e.ledger = d.ledger) : FailedForGood o d e := by
  obtain ⟨x, hx, hsame, hstatus⟩ := h
  refine ⟨⟨x, hx, hstatus⟩, hwallets, hledger, fun y hy hid => ?_, fun r hr => ?_⟩
  · obtain ⟨hy, hopen⟩ := List.mem_filter.1 hy
    obtain rfl : y = x := Table.eq_of_mem_of_key hy (Table.mem_of_get? hx)
      (hid.trans (Table.key_of_get? hx).symm)
    simp [hstatus, OrderStatus.isOpen] at hopen
  · have hfound : (e.orders.get? r.orderId).filter (fun o => o.paymentAmountMinor ≠ none ∧
      o.paymentCurrency ≠ none) =
        some x := by
      simp [hr, hx, Option.filter, hsame.amount, hsame.currency, ha.amount, ha.currency]
    have hrun : claimReconciliation r (.fresh e) =
        (.error (.http "订单状态不允许进入支付对账" 409), .fresh e) := by
      rw [claimReconciliation, Tx.select_bind]
      refine (Tx.orRaise_bind hfound ..).trans ?_
      rw [Tx.rollbackIf_bind (by simp [hstatus])]
      exact Tx.raiseIf_raises (by simp [hstatus, OrderStatus.isOpen]) ..
    rw [Tx.run, hrun]

theorem mem_rejected (h : a ∈ rejected d events) : a ∈ events := by
  induction events generalizing d with
  | nil => cases h
  | cons b rest ih =>
    simp only [rejected] at h
    split at h
    · exact .tail _ (ih h)
    · rcases List.mem_cons.1 h with rfl | h
      · exact .head _
      · exact .tail _ (ih h)

/-- What arrives before the first final event is pending. -/
theorem firstFinal_split (hauth : ∀ b ∈ events, Authentic o transaction b)
    (hpaid : ∃ b ∈ events, b.eventType = "payment.succeeded") :
    ∃ before a after kind, events = before ++ a :: after ∧
      (∀ b ∈ before, validEvent b.eventType = some .pending) ∧
      validEvent a.eventType = some kind ∧ (kind = .failed ∨ kind = .paid) ∧
      firstFinal events = some kind := by
  induction events with
  | nil =>
    obtain ⟨b, hb, -⟩ := hpaid
    cases hb
  | cons b rest ih =>
    obtain ⟨kind, hkind, -, hthree⟩ := (hauth b (.head _)).kinds
    by_cases hpending : kind = .pending
    · subst hpending
      have hrest : ∃ b ∈ rest, b.eventType = "payment.succeeded" := by
        obtain ⟨c, hc, htype⟩ := hpaid
        rcases List.mem_cons.1 hc with rfl | hc
        · rw [htype] at hkind
          exact absurd hkind (by decide)
        · exact ⟨c, hc, htype⟩
      obtain ⟨before, a, after, kind, rfl, hbefore, ha, htwo, hfirst⟩ :=
        ih (fun c hc => hauth c (.tail _ hc)) hrest
      refine ⟨b :: before, a, after, kind, rfl, fun c hc => ?_, ha, htwo, ?_⟩
      · rcases List.mem_cons.1 hc with rfl | hc
        · exact hkind
        · exact hbefore c hc
      · rw [firstFinal, List.filterMap_cons, hkind]
        exact hfirst
    · refine ⟨[], b, rest, kind, rfl, by simp, hkind, hthree.resolve_left hpending, ?_⟩
      rw [firstFinal, List.filterMap_cons, hkind]
      simp [hpending]

end Waits

/-- The first final event decides: a success credits the order once and leaves it paid, a failure
leaves it failed without a credit, and no success that arrives after a failure is applied, listed
or accepted for a reconciliation. -/
theorem first_final_decides {d₀ : DB} (hd₀ : d₀.Opened)
    (hunique : uniqueEvents d₀.events.rows) (ops : List Op)
    {o : PaymentOrder} {transaction : String}
    (horder : Awaits (Run.after exec d₀ ops) o transaction)
    {events : List WebhookArgs} (hauth : ∀ a ∈ events, Authentic o transaction a)
    (hnew : New (Run.after exec d₀ ops) events)
    (hpaid : ∃ a ∈ events, a.eventType = "payment.succeeded") :
    let d := Run.after exec d₀ ops
    let e := deliver d (events ++ rejected d events)
    firstFinal events = some .paid ∧ CreditedOnce o d e ∨ firstFinal events = some .failed ∧
    FailedForGood o d e := by
  intro d e
  have hsound := sound_after hd₀ ops
  have hwallet : (d.wallets.get? o.userId).isSome :=
    hsound.walletOf _ (hsound.owner o (Table.mem_of_get? horder.found))
  have horders : uniqueOrders d.orders.rows :=
    (after_keeps keepsAll_indexed d₀ ops
      ⟨by rw [hd₀.orders]; decide, by rw [hd₀.refunds]; decide⟩).orders
  have hevents : uniqueEvents d.events.rows := (after_keeps keepsAll_eventsGrow d₀ ops).2 hunique
  obtain ⟨before, a, after, kind, hsplit, hbefore, ha, htwo, hfirst⟩ := firstFinal_split hauth hpaid
  have hmem : a ∈ events := by simp [hsplit]
  obtain ⟨seen, hseen, hwaits⟩ := (horder.waits horders hevents).deliver hnew hauth (by simp) before
    fun b hb => ⟨by simp [hsplit, hb], hbefore b hb⟩
  have hno : a ∉ seen := by
    intro h
    have hk := (hseen a h).2
    rw [ha] at hk
    rcases htwo with rfl | rfl <;> cases hk
  have hrest : ∀ b ∈ after ++ rejected d events, Authentic o transaction b := by
    intro b hb
    rcases List.mem_append.1 hb with hb | hb
    · exact hauth b (by simp [hsplit, hb])
    · exact hauth b (mem_rejected hb)
  have heq : e = deliver (exec (.applyWebhook a) (deliver d before))
      (after ++ rejected d events) := by
    show deliver d (events ++ rejected d events) = _
    rw [hsplit]
    simp [deliver_append, deliver_cons]
  rcases htwo with rfl | rfl
  · obtain ⟨hended, hw, hl⟩ := hwaits.failed hnew (fun b hb => (hseen b hb).1) hmem
      hno (hauth a hmem) ha
    rw [hended.deliver rfl hrest] at heq
    exact .inr ⟨hfirst, heq ▸ hended.failedForGood (hauth a hmem) hw hl⟩
  · obtain ⟨hended, hcredited⟩ := hwaits.paid hnew (fun b hb => (hseen b hb).1) hmem hno
      (hauth a hmem) ha hwallet
    rw [hended.deliver rfl hrest] at heq
    exact .inl ⟨hfirst, heq ▸ hcredited⟩

/-- An order that waits for its payment. -/
def unpaid : List Op := paid.take 2

def paymentEvent (eventType status eventId : String) : WebhookArgs :=
  { paidEvent eventId eventId eventId with eventType := eventType, status := status }

theorem unpaid_order : ∃ o, (Run.after exec DB.empty unpaid).orders.get? o.id =
    some o ∧ o.id = "o" ∧
    o.status.isOpen ∧ o.providerTransactionId = none ∧ o.provider = "provider" ∧
    o.paymentAmountMinor = some 100 ∧
    o.paymentCurrency = some "CNY" := by
  obtain ⟨o, ho⟩ := Option.isSome_iff_exists.1
    (by decide +kernel : ((Run.after exec DB.empty unpaid).orders.get? "o").isSome)
  have hall : ((Run.after exec DB.empty unpaid).orders.get? "o").all fun o =>
    decide (o.status.isOpen ∧
      o.providerTransactionId = none ∧ o.provider = "provider" ∧ o.paymentAmountMinor = some 100 ∧
      o.paymentCurrency = some "CNY") := by decide +kernel
  rw [ho, Option.all_some, decide_eq_true_eq] at hall
  have hid := Table.key_of_get? ho
  exact ⟨o, hid ▸ ho, hid, hall⟩

theorem unpaid_awaits {o : PaymentOrder}
    (ho : (Run.after exec DB.empty unpaid).orders.get? o.id = some o)
    (hopen : o.status.isOpen) (hknown : o.providerTransactionId = none) :
    Awaits (Run.after exec DB.empty unpaid) o "transaction" := by
  have hnone : ∀ x ∈ (Run.after exec DB.empty unpaid).orders.rows,
      x.providerTransactionId = none := by decide +kernel
  exact ⟨ho, hopen, .inl hknown, fun x hx _ => by simp [hnone x hx]⟩

theorem paymentEvent_authentic {o : PaymentOrder} (hid : o.id = "o")
    (hprovider : o.provider = "provider")
    (hamount : o.paymentAmountMinor = some 100) (hcurrency : o.paymentCurrency = some "CNY")
    {eventType status eventId : String} (htext : eventId ≠ "")
    (htype : eventType = "payment.pending" ∨ eventType = "payment.failed" ∨
      eventType = "payment.succeeded")
    (hstatus : (validEvent eventType).map EventStatus.text = some status) :
    Authentic o "transaction" (paymentEvent eventType status eventId) :=
  ⟨by simp [paymentEvent, paidEvent, WebhookArgs.nonceText, Option.filter, htext], hid.symm,
    hprovider, hamount, hcurrency, rfl, htype, hstatus, rfl⟩

/-- A success that arrives after a failure is neither credited nor found by an operator. -/
theorem success_lost : ¬ ∀ (ops : List Op) (o : PaymentOrder) (transaction
    : String) (events : List WebhookArgs),
    Awaits (Run.after exec DB.empty ops) o transaction → (∀ a ∈ events, Authentic o transaction a) →
    New (Run.after exec DB.empty ops) events → (∃ a ∈ events, a.eventType = "payment.succeeded") →
    let d := Run.after exec DB.empty ops
    let e := deliver d (events ++ rejected d events)
    CreditedOnce o d e ∨ Discoverable o e := by
  intro h
  obtain ⟨o, ho, hid, hopen, hknown, hprovider, hamount, hcurrency⟩ := unpaid_order
  let failed := paymentEvent "payment.failed" "failed" "1"
  let succeeded := paymentEvent "payment.succeeded" "paid" "2"
  have hauth : ∀ a ∈ [failed, succeeded], Authentic o "transaction" a := by
    simp only [List.forall_mem_cons, List.not_mem_nil, false_imp_iff, implies_true, and_true]
    exact ⟨paymentEvent_authentic hid hprovider hamount hcurrency (by decide)
      (by decide) (by decide), paymentEvent_authentic hid hprovider hamount hcurrency (by decide)
        (by decide) (by decide)⟩
  have hnew : New (Run.after exec DB.empty unpaid) [failed, succeeded] :=
    ⟨by decide +kernel, by decide +kernel, by decide +kernel, by decide +kernel, by decide +kernel⟩
  have hend := h unpaid o "transaction" [failed, succeeded]
    (unpaid_awaits ho hopen hknown) hauth hnew
    ⟨succeeded, by simp, rfl⟩
  rcases hend with hcredited | hfound
  · obtain ⟨x, hx, hpaid⟩ := hcredited.paid
    have hall : ((deliver (Run.after exec DB.empty unpaid) ([failed, succeeded] ++
        rejected (Run.after exec DB.empty unpaid) [failed, succeeded])).orders.get? "o").all
          fun x => decide (x.status = .failed) := by decide +kernel
    rw [← hid, hx] at hall
    simp [hpaid] at hall
  · obtain ⟨x, hx, -⟩ := hfound.listed
    have hnone : paymentReconciliationQueue
      (deliver (Run.after exec DB.empty unpaid) ([failed, succeeded] ++
        rejected (Run.after exec DB.empty unpaid) [failed, succeeded])) = [] := by decide +kernel
    rw [hnone] at hx
    cases hx

theorem first_final_decides_unpaid : ∃ o e, CreditedOnce o (Run.after exec DB.empty unpaid) e := by
  obtain ⟨o, ho, hid, hopen, hknown, hprovider, hamount, hcurrency⟩ := unpaid_order
  let pending := paymentEvent "payment.pending" "pending" "1"
  let succeeded := paymentEvent "payment.succeeded" "paid" "2"
  let failed := paymentEvent "payment.failed" "failed" "3"
  have hauth : ∀ a ∈ [pending, succeeded, failed], Authentic o "transaction" a := by
    simp only [List.forall_mem_cons, List.not_mem_nil, false_imp_iff, implies_true, and_true]
    exact ⟨paymentEvent_authentic hid hprovider hamount hcurrency (by decide)
      (by decide) (by decide), paymentEvent_authentic hid hprovider hamount hcurrency (by decide)
        (by decide) (by decide),
      paymentEvent_authentic hid hprovider hamount hcurrency (by decide) (by decide) (by decide)⟩
  have hnew : New (Run.after exec DB.empty unpaid) [pending, succeeded, failed] :=
    ⟨by decide +kernel, by decide +kernel, by decide +kernel, by decide +kernel, by decide +kernel⟩
  rcases first_final_decides opened_empty (by decide) unpaid
    (unpaid_awaits ho hopen hknown) hauth hnew
    ⟨succeeded, by simp, rfl⟩ with ⟨-, hcredited⟩ | ⟨hfailed, -⟩
  · exact ⟨o, _, hcredited⟩
  · exact absurd hfailed (by decide)

end Kunlun
