import Kunlun.Arrivals
import Kunlun.Columns
import Kunlun.Failures

/-!
# The names of an accepted event

Every name of an event that the bridge accepts fits its column. The keys that the payment domain
makes of them do not always.
-/

namespace Kunlun

/-! ## Events that find their order -/

section Found

variable {a : WebhookArgs} {order : PaymentOrder} {d : DB}

theorem completeRefund_accepted {events : Table PaymentWebhookEvent PaymentWebhookEvent.id}
    {refunds : Table PaymentRefund PaymentRefund.id} {key providerRefundId currency : String}
    {amount : Int} {w : Wallet}
    (hfound : d.orders.get? order.id = some order) (hstatus : order.status = .paid)
    (hamount : order.paymentAmountMinor = some amount)
    (hcurrency : order.paymentCurrency = some currency)
    (hnone : refundWithKey order.id key d = none)
    (hinsert : ∀ e : DB, e.events = d.events →
      DB.insertEvent (webhookEvent a order.id .processed) e = some { e with events := events })
    (hrefund : d.refunds.insert? (newRefund a.refundId order (some providerRefundId) key amount
      currency a.createdAt) =
      some refunds)
    (hur : uniqueRefunds refunds.rows) (huo : uniqueOrders d.orders.rows)
    (hwallet : d.wallets.get? order.userId = some w)
    (hcovers : order.creditAmountMicrousd ≤ w.balanceMicrousd)
    (hkey : d.ledger.get? ("refund:" ++ a.refundId) = none) :
    (completeRefund a order key providerRefundId (.fresh d)).2.committed.refunds =
      refunds.modify a.refundId fun r => { r with status := .refunded } := by
  let refund := newRefund a.refundId order (some providerRefundId) key amount currency a.createdAt
  let args := applyRefundArgs a order key providerRefundId
  let setWallets := DB.flushing
    (DB.updateWallets (fun w => w.userId = order.userId) fun x => { x with
    balanceMicrousd := w.balanceMicrousd - order.creditAmountMicrousd })
  let setRefunds := DB.flushing (DB.updateRefunds (fun r => r.id = a.refundId) fun r =>
    { r with status := .refunded })
  let d₁ : DB := { d with events := events, refunds := refunds }
  let d₂ : DB := { d₁ with
    wallets := d.wallets.modify order.userId fun x => { x with
      balanceMicrousd := w.balanceMicrousd - order.creditAmountMicrousd }
    refunds := refunds.modify a.refundId fun r => { r with status := .refunded } }
  have hgot : refunds.get? refund.id = some refund := by rw [Table.get?_insert hrefund, if_pos rfl]
  have hopen : openRefund args order none amount currency
    ⟨d, d, [DB.insertEvent (webhookEvent a order.id .processed)]⟩ =
      (.ok refund, ⟨d, d₁, []⟩) := by
    have hflush : Tx.applyAll [DB.insertEvent (webhookEvent a order.id .processed),
      DB.insertRefund refund] d = some d₁ :=
      (Tx.applyAll_cons ..).2 ⟨_, hinsert d rfl,
        (Tx.applyAll_cons ..).2 ⟨_, insertRefund_ok.2 ⟨_, hrefund, hur, rfl⟩, rfl⟩⟩
    simp only [openRefund, Tx.bind_ok, Tx.add_ok, conflictsAs_ok, Tx.flush_ok, Tx.pure_ok]
    exact ⟨(), _, rfl, (), _, ⟨d₁, hflush, rfl⟩, rfl, rfl⟩
  have hpending : Tx.applyAll [setWallets, setRefunds] d₁ = some d₂ := by
    have hu : uniqueRefunds (refunds.modify a.refundId fun r =>
      { r with status := .refunded }).rows :=
      uniqueRefunds_modify_same _ hgot hur rfl rfl
    exact (Tx.applyAll_cons ..).2
      ⟨_, rfl, (Tx.applyAll_cons ..).2 ⟨_, flushRefunds_ok.2 ⟨hu, rfl⟩, rfl⟩⟩
  obtain ⟨j, ledger, -, -, -, hpost⟩ := postTransaction_posts order.userId .paymentRefund order.id
    (s := ⟨d, d₁, [setWallets, setRefunds]⟩) hpending (neg_ne_zero.2 order.creditPositive.ne') hkey
  rw [neg_neg] at hpost
  have hreverse : ∃ t : DB, reverseCredit args order refund ⟨d, d₁, []⟩ =
      (.ok { refund with status := .refunded }, ⟨t, t, []⟩) ∧ t.refunds = d₂.refunds := by
    have hu : uniqueOrders (d.orders.modify order.id fun o => { o with
        status := .refunded, reconciliationClaimStartedAt := none }).rows :=
      uniqueOrders_modify_same _ hfound huo rfl rfl rfl
    rw [reverseCredit, Tx.select_bind, Tx.orRaise_bind hwallet, if_pos hcovers]
    simp only [reverseInFull, finishRefund, setBalance, setRefund, setOrder, Tx.bind_ok,
      Tx.add_ok, conflictsAs_ok, Tx.commit_ok, Tx.pure_ok]
    exact ⟨_, ⟨(), _, rfl, (), _, rfl, (), _, hpost, (), _, rfl, (), _, rfl, (), _,
      ⟨_, (Tx.applyAll_cons ..).2 ⟨_, flushOrders_ok.2 ⟨hu, rfl⟩,
        (Tx.applyAll_cons ..).2 ⟨_, rfl, rfl⟩⟩, rfl⟩, trivial, rfl⟩, rfl⟩
  obtain ⟨t, hreverse, ht⟩ := hreverse
  have happly : applyRefund args ⟨d, d, [DB.insertEvent (webhookEvent a order.id .processed)]⟩ =
      (.ok { refund with status := .refunded }, ⟨t, t, []⟩) := by
    have hpaid : (d.orders.get? order.id).filter
      (fun o => o.status = .paid ∨ o.status = .refunding ∨ o.status = .refunded) =
        some order := by simp [hfound, hstatus]
    rw [applyRefund, Tx.select_bind]
    simp only [args, applyRefundArgs]
    rw [Tx.orRaise_bind hfound, Tx.select_bind, Tx.select_bind]
    simp only [hnone, Option.filter_none]
    rw [Tx.orRaise_bind hpaid, Tx.raiseIf_bind (by simp [hstatus]), Tx.orRaise_bind hamount,
      Tx.orRaise_bind hcurrency]
    exact (Tx.bind_of_ok hopen).trans hreverse
  have hrun : completeRefund a order key providerRefundId (.fresh d) = (.ok false, ⟨t, t, []⟩) := by
    simp only [completeRefund, recordEvent, Tx.bind_ok, Tx.add_ok, Tx.pure_ok]
    exact ⟨(), _, rfl, _, _, happly, (), _, Tx.commit_flushed rfl, trivial, rfl⟩
  rw [hrun]
  exact ht

/-- An order that the event agrees with. -/
def matchingOrder (a : WebhookArgs) (status : OrderStatus) : PaymentOrder where
  id := a.orderId
  userId := "u"
  provider := a.provider
  creditAmountMicrousd := 1
  paymentAmountMinor := some a.paymentAmountMinor
  paymentCurrency := some a.paymentCurrency
  quoteNumerator := 1
  quoteDenominator := 1
  quoteId := none
  clientIdempotencyKey := none
  status := status
  providerTransactionId := some a.providerTransactionId
  checkoutUrl := none
  checkoutClaimStartedAt := none
  reconciliationClaimStartedAt := none
  riskReason := none
  creditPositive := by decide

/-- Its user has one microdollar. -/
def withOrder (o : PaymentOrder) : DB := { DB.empty with
  users := .single ⟨"u", "", "", .active, none⟩
  wallets := .single ⟨"u", 1, 0⟩
  orders := .single o }

theorem withOrder_fits {o : PaymentOrder} (h : o.columns.fit) : (withOrder o).Fits := by
  refine ⟨fun u hu => ?_, nofun, nofun, fun x hx => ?_, nofun, nofun, nofun⟩
  · obtain rfl := List.mem_singleton.1 hu
    decide
  · obtain rfl := List.mem_singleton.1 hx
    exact h

theorem matchingOrder_fits (ha : a.Short) (hi : a.orderId.length ≤ 36)
    (hc : a.paymentCurrency.length ≤ 3)
    (status : OrderStatus) : (matchingOrder a status).columns.fit := by
  have hu : "u".length ≤ 36 := by decide
  simp [PaymentOrder.columns, matchingOrder, hi, hu, ha.provider, hc, ha.transaction]

theorem withOrder_unique (o : PaymentOrder) : uniqueOrders (withOrder o).orders.rows := by
  rw [uniqueOrders, Bool.and_eq_true, unique_iff, unique_iff]
  exact ⟨List.pairwise_singleton .., List.pairwise_singleton ..⟩

theorem credits_under_key (ha : a.Complete) (htype : a.eventType = "payment.succeeded")
    (hstatus : a.status = "paid")
    (hrefund : a.providerRefundId = none) :
    ∃ j ∈ (exec (.applyWebhook a) (withOrder (matchingOrder a .pending))).ledger.rows,
      j.idempotencyKey = "payment:" ++ a.provider ++ ":" ++ a.eventId := by
  let o := matchingOrder a .pending
  have hfound : (withOrder o).orders.get? o.id = some o := Table.get?_single o
  have hauth : Authentic o a.providerTransactionId a :=
    ⟨ha, rfl, rfl, rfl, rfl, rfl, .inr (.inr htype), by rw [htype, hstatus]; decide, hrefund⟩
  have hsame : SameOrder o a.providerTransactionId o := ⟨rfl, rfl, rfl, rfl, rfl, .inr rfl⟩
  have hkind : validEvent a.eventType = some .paid := by rw [htype]; decide
  obtain ⟨events, -, -, hinsert⟩ := insertEvent_new (a := a) (d := withOrder o) o.id rfl rfl rfl rfl
  have hu : uniqueOrders ((withOrder o).orders.modify o.id
    (paidOrder a.providerTransactionId)).rows :=
    uniqueOrders_modify_same _ hfound (withOrder_unique o) rfl rfl rfl
  obtain ⟨j, ledger, outbox, -, hkey, hl, heq⟩ :=
    creditOrder_accepted (w := ⟨"u", 1, 0⟩) rfl hfound hinsert hu rfl rfl
  refine ⟨j, ?_, hkey⟩
  have hdecide : decideEvent a o .paid = creditOrder a
      o := by rw [decideEvent, applyPaidEvent, if_pos (by rfl)]
  rw [exec_webhook, hauth.reaches hkind rfl rfl hfound hsame, hdecide, heq]
  exact (Table.mem_insert hl).2 (.inr rfl)

theorem refunds_under_key {providerRefundId : String} (ha : a.Complete)
    (htype : a.eventType = "payment.refunded")
    (hstatus : a.status = "refunded") (hrefund : a.providerRefundId = some providerRefundId)
    (hid : providerRefundId ≠ "") :
    ∃ r ∈ (exec (.applyWebhook a) (withOrder (matchingOrder a .paid))).refunds.rows,
      r.idempotencyKey = "webhook:" ++ a.provider ++ ":" ++ a.eventId := by
  let o := matchingOrder a .paid
  let key := "webhook:" ++ a.provider ++ ":" ++ a.eventId
  let refund := newRefund a.refundId o (some providerRefundId) key a.paymentAmountMinor
    a.paymentCurrency a.createdAt
  have hfound : (withOrder o).orders.get? o.id = some o := Table.get?_single o
  obtain ⟨events, -, -, hinsert⟩ := insertEvent_new (a := a) (d := withOrder o) o.id rfl rfl rfl rfl
  obtain ⟨refunds, hr⟩ : ∃ t, (withOrder o).refunds.insert? refund = some t :=
    ⟨_, dif_pos (Table.get?_eq_none.1 rfl)⟩
  have hrows : refunds.rows = [refund] := (Table.insert?_eq_some.1 hr).2
  have hu : uniqueRefunds refunds.rows := by
    rw [hrows]
    simp [uniqueRefunds, unique, refund, newRefund]
  have heq := completeRefund_accepted (w := ⟨"u", 1, 0⟩) hfound rfl rfl rfl rfl hinsert hr hu
    (withOrder_unique o) rfl
    le_rfl rfl
  have hreach : applyWebhook a (.fresh (withOrder o)) = completeRefund a o key providerRefundId
      (.fresh (withOrder o)) := by
    have horder : ((Session.fresh (withOrder o)).work.orders.get? a.orderId).filter
      (fun o => o.provider = a.provider) =
        some o := by
      rw [show (Session.fresh (withOrder o)).work.orders.get? a.orderId = some o from hfound]
      simp [Option.filter, o, matchingOrder]
    have hvalid : (validEvent a.eventType).filter
        (fun k => k.text = a.status) = some .refunded := by
      rw [htype, hstatus]
      rfl
    have hsome : a.providerRefundId.filter (· ≠ "") = some providerRefundId := by simp [hrefund,
      Option.filter, hid]
    rw [applyWebhook, Tx.raiseIf_bind ha, Tx.select_bind]
    change (Tx.select _ >>= _) _ = _
    rw [Tx.select_bind, Tx.raiseIf_bind (by rintro ⟨⟩), dispatchEvent, Tx.select_bind,
      Tx.orRaise_bind horder, Tx.raiseIf_bind (by simp [o, matchingOrder]),
      Tx.raiseIf_bind (by simp [o, matchingOrder]), Tx.orRaise_bind hvalid]
    simp only [hsome]
    rfl
  have hgot : refunds.get? refund.id = some refund := by rw [Table.get?_insert hr, if_pos rfl]
  rw [exec_webhook, hreach, heq]
  exact ⟨_, (Table.mem_modify _ hgot).2 (.inl rfl), rfl⟩

end Found

/-! ## What the bridge accepts -/

/-- A text in ASCII. -/
def text (s : PyStr) : String := String.ofList (s.map Char.ofNat)

@[simp]
theorem length_text (s : PyStr) : (text s).length = s.length := by simp [text]

@[simp]
theorem text_py (s : String) : text (py s) = s := by
  simp [text, py, Function.comp_def]

/-- What a call draws: the ids of `uuid4`, and the clock. -/
structure Draws where
  webhookId : Id
  refundId : Id
  outboxId : Id
  now : Time
  createdAt : Time

structure Draws.Uuids (x : Draws) : Prop where
  webhookId : x.webhookId.length ≤ 36
  refundId : x.refundId.length ≤ 36
  outboxId : x.outboxId.length ≤ 36

open LivePayments

/-- The call that `live_payment_webhook` makes for an event of the bridge. -/
def webhookArgs (provider : String) (digest : PyStr) (r : WebhookResult)
    (x : Draws) : WebhookArgs where
  provider := provider
  eventId := text r.eventId
  nonce := some (text r.nonce)
  rawDigest := text digest
  orderId := text r.orderId
  eventType := text r.eventType
  status := text r.status
  paymentAmountMinor := r.paymentAmountMinor
  paymentCurrency := text r.currency
  providerTransactionId := text r.providerTransactionId
  providerRefundId := r.providerRefundId.map text
  now := x.now
  webhookId := x.webhookId
  refundId := x.refundId
  outboxId := x.outboxId
  createdAt := x.createdAt

/-- What the event makes the domain store fits its columns, whatever it finds there. -/
def EventFits (provider : String) (digest : PyStr) (r : WebhookResult) : Prop :=
  ∀ (d : DB) (x : Draws), d.Fits → x.Uuids →
    (exec (.applyWebhook (webhookArgs provider digest r x)) d).Fits

/-- The keys of an event that an order can have fit: the credit of a payment has 151 characters
for the names of the provider and the event, the refund that the provider began has 111. -/
def KeysShort (provider : String) (r : WebhookResult) : Prop :=
  r.orderId.length ≤ 36 →
    (r.eventType = py "payment.succeeded" → r.status = py "paid" →
      provider.length + r.eventId.length ≤ 151) ∧
    (r.eventType = py "payment.refunded" → r.status = py "refunded" →
      provider.length + r.eventId.length ≤ 111)

section Accepted

variable {provider : String} {digest : PyStr} {r : WebhookResult} {x : Draws}

theorem isId_length {s : PyStr} (h : isId s) : 1 ≤ s.length ∧ s.length ≤ 120 := by
  cases s with
  | nil => cases h
  | cons c cs =>
    simp only [isId, Bool.and_eq_true, decide_eq_true_eq] at h
    rw [List.length_cons]
    omega

theorem text_ne_empty {s : PyStr} (h : 1 ≤ s.length) : text s ≠ "" := by
  intro hempty
  have hlength := congrArg String.length hempty
  rw [length_text, String.length_empty] at hlength
  omega

theorem webhookArgs_nonceText (h : r.WellFormed) :
    (webhookArgs provider digest r x).nonceText = text r.nonce := by
  simp [WebhookArgs.nonceText, webhookArgs, Option.filter, text_ne_empty (isId_length h.nonce).1]

theorem webhookArgs_complete (h : r.WellFormed) (hdigest : digest.length = 64) :
    (webhookArgs provider digest r x).Complete := by
  unfold WebhookArgs.Complete
  rw [webhookArgs_nonceText h]
  rintro (hempty | hempty | hempty | hempty)
  · exact text_ne_empty (isId_length h.eventId).1 hempty
  · exact text_ne_empty (isId_length h.nonce).1 hempty
  · exact text_ne_empty (by omega) hempty
  · exact text_ne_empty (isId_length h.transaction).1 hempty

theorem eventType_length (h : r.WellFormed) : r.eventType.length ≤ 48 := by
  have hall : ∀ t ∈ eventTypes, t.length ≤ 48 := by decide
  exact hall _ h.eventType

theorem webhookArgs_short (h : r.WellFormed) (hprovider : provider.length ≤ 32)
    (hdigest : digest.length = 64)
    (hx : x.Uuids) : (webhookArgs provider digest r x).Short where
  provider := hprovider
  eventId := (length_text _).trans_le (isId_length h.eventId).2
  nonce := by
    rw [webhookArgs_nonceText h, length_text]
    exact (isId_length h.nonce).2
  rawDigest := (length_text _).trans_le hdigest.le
  eventType := (length_text _).trans_le (eventType_length h)
  transaction := (length_text _).trans_le (isId_length h.transaction).2
  refund s hs := by
    obtain ⟨t, ht, rfl⟩ := Option.map_eq_some_iff.1 hs
    exact (length_text _).trans_le (isId_length (h.refundId t ht)).2
  webhookId := hx.webhookId
  refundId := hx.refundId
  outboxId := hx.outboxId

theorem paid_eq (h : r.WellFormed) (hkind : validEvent (text r.eventType) = some .paid)
    (hstatus : text r.status = "paid") :
    r.eventType = py "payment.succeeded" ∧ r.status = py "paid" := by
  have htypes : ∀ t ∈ eventTypes, validEvent (text t) = some .paid →
      t = py "payment.succeeded" := by decide
  have hstatuses : ∀ s ∈ statuses, text s = "paid" → s = py "paid" := by decide
  exact ⟨htypes _ h.eventType hkind, hstatuses _ h.status hstatus⟩

theorem refunded_eq (h : r.WellFormed) (hkind : validEvent (text r.eventType) = some .refunded)
    (hstatus : text r.status = "refunded") : r.eventType = py "payment.refunded" ∧
    r.status = py "refunded" := by
  have htypes : ∀ t ∈ eventTypes, validEvent (text t) = some .refunded →
      t = py "payment.refunded" := by decide
  have hstatuses : ∀ s ∈ statuses, text s = "refunded" → s = py "refunded" := by decide
  exact ⟨htypes _ h.eventType hkind, hstatuses _ h.status hstatus⟩

theorem length_paymentKey (p e : String) : ("payment:" ++ p ++ ":" ++ e).length = 9 +
    p.length + e.length := by
  rw [length_key, show "payment:".length = 8 from by decide]
  omega

theorem length_webhookKey (p e : String) : ("webhook:" ++ p ++ ":" ++ e).length = 9 +
    p.length + e.length := by
  rw [length_key, show "webhook:".length = 8 from by decide]
  omega

theorem eventFits_of_keysShort (h : r.WellFormed) (hprovider : provider.length ≤ 32)
    (hdigest : digest.length = 64)
    (hkeys : KeysShort provider r) : EventFits provider digest r := by
  intro d x hd hx
  have ha := webhookArgs_short h hprovider hdigest hx
  have hkeep : Tx.KeepsFrom fitting (.fresh d)
      (applyWebhook (webhookArgs provider digest r x)) := by
    refine fitting_applyWebhook ha hd fun o ho => ?_
    have ho' := hd.orders o (Table.mem_of_get? ho)
    simp only [PaymentOrder.columns, Columns.fit_cons] at ho'
    have horder : r.orderId.length ≤ 36 := by
      have hid : o.id = text r.orderId := Table.key_of_get? ho
      rw [← length_text, ← hid]
      exact ho'.1
    obtain ⟨hpaid, hrefunded⟩ := hkeys horder
    refine ⟨fun hkind hstatus => ?_, fun hkind hstatus => ?_⟩
    · obtain ⟨ht, hs⟩ := paid_eq h hkind hstatus
      have hle := hpaid ht hs
      rw [length_paymentKey]
      simp only [webhookArgs, length_text]
      omega
    · obtain ⟨ht, hs⟩ := refunded_eq h hkind hstatus
      have hle := hrefunded ht hs
      rw [length_webhookKey]
      simp only [webhookArgs, length_text]
      omega
  have hrun := hkeep.run
  rw [exec_webhook]
  exact hrun hd

/-- Draws that no row has. -/
def firstDraws : Draws := ⟨"w", "r", "o", 0, 0⟩

theorem keysShort_of_eventFits (h : r.WellFormed) (hprovider : provider.length ≤ 32)
    (hdigest : digest.length = 64)
    (hrefund : r.providerRefundId.isSome ↔ r.eventType = py "payment.refunded")
    (hfits : EventFits provider digest r) :
    KeysShort provider r := by
  intro horder
  have hx : firstDraws.Uuids := ⟨by decide, by decide, by decide⟩
  let a := webhookArgs provider digest r firstDraws
  have hcurrency : a.paymentCurrency.length ≤ 3 := by
    have hc := h.currency
    simp only [isCurrency, Bool.and_eq_true, decide_eq_true_eq] at hc
    exact (length_text _).trans_le hc.1.le
  have hstate (status : OrderStatus) : (withOrder (matchingOrder a status)).Fits :=
    withOrder_fits (matchingOrder_fits (webhookArgs_short h hprovider hdigest hx)
      ((length_text _).trans_le horder)
      hcurrency status)
  have hcomplete : a.Complete := webhookArgs_complete h hdigest
  refine ⟨fun htype hstatus => ?_, fun htype hstatus => ?_⟩
  · have hnone : a.providerRefundId = none := by
      have hno : ¬ r.providerRefundId.isSome := by
        rw [hrefund, htype]
        decide
      simpa [a, webhookArgs] using hno
    obtain ⟨j, hj, hkey⟩ := credits_under_key hcomplete (by simp [a, webhookArgs, htype])
      (by simp [a, webhookArgs, hstatus])
      hnone
    have hfit := (hfits _ firstDraws (hstate .pending) hx).ledger j hj
    simp only [LedgerTransaction.columns, Columns.fit_append, Columns.fit_cons, hkey,
      length_paymentKey] at hfit
    have hle := hfit.1.2.2.2.1
    simp only [a, webhookArgs, length_text] at hle
    omega
  · obtain ⟨s, hs⟩ := Option.isSome_iff_exists.1 (hrefund.2 htype)
    have hne : text s ≠ "" := text_ne_empty (isId_length (h.refundId s hs)).1
    have hsome : a.providerRefundId = some (text s) := by simp [a, webhookArgs, hs]
    obtain ⟨x, hmem, hkey⟩ := refunds_under_key hcomplete (by simp [a, webhookArgs, htype])
      (by simp [a, webhookArgs, hstatus]) hsome hne
    have hfit := (hfits _ firstDraws (hstate .paid) hx).refunds x hmem
    simp only [PaymentRefund.columns, Columns.fit_cons, hkey, length_webhookKey] at hfit
    have hle := hfit.2.2.2.2.1
    simp only [a, webhookArgs, length_text] at hle
    omega

end Accepted

/-- An event that the bridge accepts fits the schema, whatever the domain finds, exactly if its
keys do. -/
theorem accepted_fits_iff (L : Library) (hdigest : ∀ body, (L.sha256Hex body).length = 64)
    (b : Bridge) (seen : Seen)
    (clock : Option Int) (body : Octets) (headers : Headers) (r : WebhookResult)
    (haccept : (verifyWebhook L b seen clock body headers).1 = .ok r) (provider : String)
    (hprovider : provider.length ≤ 32) :
    EventFits provider (L.sha256Hex body) r ↔ KeysShort provider r := by
  rw [verifyWebhook_result] at haccept
  have hr := parseWebhook_ok haccept
  exact ⟨keysShort_of_eventFits hr hprovider (hdigest body) (parseWebhook_refundId haccept),
    eventFits_of_keysShort hr hprovider (hdigest body)⟩

/-! ## Events of the longest name -/

def longName : String := String.ofList ('e' :: List.replicate 119 'x')

/-- The fields of an event, as they are signed and as they are read. -/
def longBody (eventType status refund : String) : Octets :=
  py ("\x7b\"event_id\":\"" ++ longName ++
    "\",\"order_id\":\"ord_1\",\"payment_amount_minor\":1,\"currency\":\"CNY\"," ++
    "\"provider_transaction_id\":\"txn_1\",\"type\":\"" ++ eventType ++ "\",\"status\":\"" ++
      status ++ "\"" ++ refund ++ "\x7d")

def longEvent (eventType status : String) (refund : List (PyStr × Json)) : Json :=
  .obj ([(py "event_id", .str (py longName)), (py "order_id", .str (py "ord_1")),
    (py "payment_amount_minor", .int 1), (py "currency", .str (py "CNY")),
    (py "provider_transaction_id", .str (py "txn_1")), (py "type", .str (py eventType)),
    (py "status", .str (py status))] ++ refund)

/-- The library on one signed body: what the functions give there. -/
def signedLibrary (event : Json) (digest signature : PyStr) : Library where
  casefold := fun s => s
  hmacHex := fun _ _ => signature
  sha256Hex := fun _ => digest
  loads := fun _ => some event
  urlparse := fun _ => none

theorem signedLibrary_digest {digest : PyStr} (h : digest.length = 64) (event : Json)
    (signature : PyStr) (body : Octets) :
    ((signedLibrary event digest signature).sha256Hex body).length = 64 := h

def signedHeaders (signature : PyStr) : Headers :=
  [(py "x-kunlun-timestamp", py "1700000000"), (py "x-kunlun-nonce", py "nonce_1"),
    (py "x-kunlun-signature", signature)]

def longPaymentLibrary : Library :=
  signedLibrary (longEvent "payment.succeeded" "paid" [])
    (py "69aa75a82bdeab73128640664922a6c20db610b886e44c55b53c817f0614a565")
    (py "adb515ab728f8a7cb5f3ec5a9cc32e7d7c81fb84c6ea9eff2fa631d3ed787103")

def longPaymentResult : WebhookResult where
  orderId := py "ord_1"
  paymentAmountMinor := 1
  currency := py "CNY"
  status := py "paid"
  providerTransactionId := py "txn_1"
  eventId := py longName
  eventType := py "payment.succeeded"
  nonce := py "nonce_1"
  idempotencyKey := py "payment:" ++ py longName
  duplicate := false
  providerRefundId := none

/-- A payment of a provider with a name of 31 characters has the longest key that fits. -/
theorem accepted_fits_payment :
    EventFits "the_provider_with_31_characters"
      (longPaymentLibrary.sha256Hex (longBody "payment.succeeded" "paid" ""))
      longPaymentResult :=
  (accepted_fits_iff longPaymentLibrary (signedLibrary_digest (by decide +kernel) _ _)
    ⟨py "merchant", py "secret", [], 300⟩ ⟨[], []⟩
    (some 1700000000) (longBody "payment.succeeded" "paid" "")
    (signedHeaders (longPaymentLibrary.hmacHex [] []))
    longPaymentResult (by decide +kernel) "the_provider_with_31_characters" (by decide)).2
    (by unfold KeysShort; decide +kernel)

def longRefundLibrary : Library :=
  signedLibrary (longEvent "payment.refunded" "refunded"
    [(py "provider_refund_id", .str (py "rfd_1"))])
    (py "35a97f79145ff3a5da4d58da3059fe390b4e618ae72a48dc57ad2f88f346dae2")
    (py "9dbd63b469536ad98dc59cb59531540c5d482c814007274acb0eb2ddcb74bbc9")

def longRefundResult : WebhookResult := { longPaymentResult with
  status := py "refunded"
  eventType := py "payment.refunded"
  providerRefundId := some (py "rfd_1") }

/-- The refund of a provider named `alipay` is to be stored under a key of 135 characters. -/
theorem refund_key_too_long : ¬ ∀ (L : Library), (∀ body, (L.sha256Hex body).length = 64) →
    ∀ (b : Bridge) (seen : Seen)
    (clock : Option Int) (body : Octets) (headers : Headers) (r : WebhookResult),
    (verifyWebhook L b seen clock body headers).1 = .ok r → ∀ provider : String,
    provider.length ≤ 32 →
    EventFits provider (L.sha256Hex body) r := by
  intro h
  have hdigest : ∀ body, (longRefundLibrary.sha256Hex body).length = 64 :=
    signedLibrary_digest (by decide +kernel) _ _
  have haccept : (verifyWebhook longRefundLibrary ⟨py "merchant", py "secret", [], 300⟩
    ⟨[], []⟩ (some 1700000000)
      (longBody "payment.refunded" "refunded" ",\"provider_refund_id\":\"rfd_1\"")
      (signedHeaders (longRefundLibrary.hmacHex [] []))).1 =
        .ok longRefundResult := by decide +kernel
  have hfits := h _ hdigest _ _ _ _ _ _ haccept "alipay" (by decide)
  rw [verifyWebhook_result] at haccept
  have hkeys := keysShort_of_eventFits (parseWebhook_ok haccept) (by decide) (hdigest _)
    (parseWebhook_refundId haccept) hfits
  have hrefund := (hkeys (by decide +kernel)).2 rfl rfl
  exact absurd hrefund (by decide +kernel)

end Kunlun
