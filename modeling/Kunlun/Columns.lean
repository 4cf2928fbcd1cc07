import Kunlun.Keeps
import Kunlun.Indexes

/-!
# The lengths of the columns

PostgreSQL refuses a text that is longer than its column. The bridge accepts names of up to
120 characters, and the payment domain puts them behind prefixes.
-/

namespace Kunlun

/-! ## The schema -/

/-- The texts of a row, each with the length that its column has. A null fits. -/
abbrev Columns := List (String × Nat)

def Columns.fit (columns : Columns) : Bool := columns.all fun c => decide (c.1.length ≤ c.2)

def User.columns (u : User) : Columns :=
  [(u.id, 36), (u.email, 254), (u.passwordHash, 512), (u.status.text, 24)]

def ApiKey.columns (k : ApiKey) : Columns :=
  [(k.id, 32), (k.userId, 36), (k.name, 80), (k.secretDigest, 64), (k.lastFour, 4),
    (k.status.text, 24)]

def LedgerTransaction.columns (j : LedgerTransaction) : Columns :=
  [(j.userId, 36), (j.kind.text, 40), (j.reference, 80), (j.idempotencyKey, 160)] ++
    j.entries.flatMap fun e => [(e.userId, 36), (e.account.text, 48)]

def PaymentOrder.columns (o : PaymentOrder) : Columns :=
  [(o.id, 36), (o.userId, 36), (o.provider, 32), (o.paymentCurrency.getD "", 3),
    (o.quoteId.getD "", 80), (o.clientIdempotencyKey.getD "", 120), (o.status.text, 24),
    (o.providerTransactionId.getD "", 120), (o.checkoutUrl.getD "", 2048),
    (o.riskReason.getD "", 80)]

def PaymentWebhookEvent.columns (e : PaymentWebhookEvent) : Columns :=
  [(e.id, 36), (e.provider, 32), (e.eventId, 120), (e.nonce, 120),
    (e.orderId, 36), (e.rawDigest, 64), (e.eventType, 48), (e.status.text, 24)]

def PaymentRefund.columns (r : PaymentRefund) : Columns :=
  [(r.id, 36), (r.orderId, 36), (r.userId, 36), (r.providerRefundId.getD "", 120),
    (r.idempotencyKey, 120), (r.paymentCurrency, 3), (r.status.text, 24),
    (r.riskReason.getD "", 80)]

def OutboxEvent.columns (x : OutboxEvent) : Columns :=
  [(x.id, 36), (x.topic, 80), (x.reference, 120)]

/-- Every text fits, in the tables that the payment domain writes texts to. -/
structure DB.Fits (d : DB) : Prop where
  users : ∀ u ∈ d.users.rows, u.columns.fit
  apiKeys : ∀ k ∈ d.apiKeys.rows, k.columns.fit
  ledger : ∀ j ∈ d.ledger.rows, j.columns.fit
  orders : ∀ o ∈ d.orders.rows, o.columns.fit
  events : ∀ e ∈ d.events.rows, e.columns.fit
  refunds : ∀ r ∈ d.refunds.rows, r.columns.fit
  outbox : ∀ x ∈ d.outbox, x.columns.fit

@[simp]
theorem Columns.fit_nil : Columns.fit [] := rfl

@[simp]
theorem Columns.fit_cons (c : String × Nat) (columns : Columns) :
    Columns.fit (c :: columns) ↔ c.1.length ≤ c.2 ∧ columns.fit := by
  simp [Columns.fit]

@[simp]
theorem Columns.fit_append (xs ys : Columns) : Columns.fit (xs ++ ys) ↔ xs.fit ∧ ys.fit := by
  simp [Columns.fit]

theorem length_prefixed_le {s t : String} {m n : Nat} (ht : t.length ≤ m) (hs : s.length + m ≤ n) :
    (s ++ t).length ≤ n := by
  rw [String.length_append]
  omega

/-! Enumerations fit their columns. -/

@[simp]
theorem UserStatus.text_fits (s : UserStatus) : s.text.length ≤ 24 := by cases s <;> decide

@[simp]
theorem KeyStatus.text_fits (s : KeyStatus) : s.text.length ≤ 24 := by cases s <;> decide

@[simp]
theorem LedgerKind.text_fits (k : LedgerKind) : k.text.length ≤ 40 := by cases k <;> decide

@[simp]
theorem Account.text_fits (a : Account) : a.text.length ≤ 48 := by cases a <;> decide

@[simp]
theorem OrderStatus.text_fits (s : OrderStatus) : s.text.length ≤ 24 := by cases s <;> decide

@[simp]
theorem WebhookStatus.text_fits (s : WebhookStatus) : s.text.length ≤ 24 := by cases s <;> decide

@[simp]
theorem RefundStatus.text_fits (s : RefundStatus) : s.text.length ≤ 24 := by cases s <;> decide

/-! ## What keeps the texts short -/

def fitting : Track DB where
  rel d e := d.Fits → e.Fits
  refl _ := id
  trans h h' := h' ∘ h

section Fitting

theorem fitting_updateUsers (p : User → Bool) (f : User → User) (hf : ∀ u, (f u).id = u.id)
    (h : ∀ u, u.columns.fit → (f u).columns.fit) :
    Kept fitting (DB.flushing (DB.updateUsers p f hf)) := by
  refine ⟨fun d e he hd => ?_⟩
  obtain rfl := Option.some.inj he
  exact { hd with users := Table.forall_update hd.users fun u hu _ => h u (hd.users u hu) }

theorem fitting_updateApiKeys (p : ApiKey → Bool) (f : ApiKey → ApiKey) (hf : ∀ k, (f k).id = k.id)
    (h : ∀ k, k.columns.fit → (f k).columns.fit) :
    Kept fitting (DB.flushing (DB.updateApiKeys p f hf)) := by
  refine ⟨fun d e he hd => ?_⟩
  obtain rfl := Option.some.inj he
  exact { hd with apiKeys := Table.forall_update hd.apiKeys fun k hk _ => h k (hd.apiKeys k hk) }

theorem fitting_updateOrders (p : PaymentOrder → Bool) (f : PaymentOrder → PaymentOrder)
    (hf : ∀ o, (f o).id = o.id)
    (h : ∀ o, o.columns.fit → (f o).columns.fit) :
    Kept fitting (DB.flushing (DB.updateOrders p f hf)) := by
  refine ⟨fun d e he hd => ?_⟩
  obtain ⟨-, rfl⟩ := flushOrders_ok.1 he
  exact { hd with orders := Table.forall_update hd.orders fun o ho _ => h o (hd.orders o ho) }

theorem fitting_updateRefunds (p : PaymentRefund → Bool) (f : PaymentRefund → PaymentRefund)
    (hf : ∀ r, (f r).id = r.id) (h : ∀ r, r.columns.fit → (f r).columns.fit) :
    Kept fitting (DB.flushing (DB.updateRefunds p f hf)) := by
  refine ⟨fun d e he hd => ?_⟩
  obtain ⟨-, rfl⟩ := flushRefunds_ok.1 he
  exact { hd with refunds := Table.forall_update hd.refunds fun r hr _ => h r (hd.refunds r hr) }

theorem fitting_insertLedger (j : LedgerTransaction) (hj : j.columns.fit) :
    Kept fitting (DB.insertLedger j) := by
  refine ⟨fun d e he hd => ?_⟩
  obtain ⟨t, ht, rfl⟩ := insertLedger_ok.1 he
  exact { hd with ledger := Table.forall_insert ht hd.ledger hj }

theorem fitting_insertEvent (x : PaymentWebhookEvent) (hx : x.columns.fit) :
    Kept fitting (DB.insertEvent x) := by
  refine ⟨fun d e he hd => ?_⟩
  simp only [DB.insertEvent, Option.bind_eq_some_iff, Option.ite_none_right_eq_some,
    Option.some.injEq] at he
  obtain ⟨t, ht, -, rfl⟩ := he
  exact { hd with events := Table.forall_insert ht hd.events hx }

theorem fitting_insertRefund (r : PaymentRefund) (hr : r.columns.fit) :
    Kept fitting (DB.insertRefund r) := by
  refine ⟨fun d e he hd => ?_⟩
  obtain ⟨t, ht, -, rfl⟩ := insertRefund_ok.1 he
  exact { hd with refunds := Table.forall_insert ht hd.refunds hr }

theorem fitting_insertOutbox (x : OutboxEvent) (hx : x.columns.fit) :
    Kept fitting (DB.insertOutbox x) := by
  refine ⟨fun d e he hd => ?_⟩
  obtain rfl := Option.some.inj he
  refine { hd with outbox := fun y hy => ?_ }
  rcases List.mem_append.1 hy with hy | hy
  · exact hd.outbox y hy
  · rwa [List.mem_singleton.1 hy]

/-- A write to tables without texts of the payment domain. -/
theorem fitting_apart {w : DB → Option DB}
    (h : ∀ d e, w d = some e → e.users = d.users ∧ e.apiKeys = d.apiKeys ∧
    e.ledger = d.ledger ∧ e.orders = d.orders ∧ e.events = d.events ∧ e.refunds = d.refunds ∧
    e.outbox = d.outbox) :
    Kept fitting w := by
  refine ⟨fun d e he hd => ?_⟩
  obtain ⟨hu, hk, hl, ho, hv, hr, hx⟩ := h d e he
  exact ⟨hu ▸ hd.users, hk ▸ hd.apiKeys, hl ▸ hd.ledger, ho ▸ hd.orders, hv ▸ hd.events,
    hr ▸ hd.refunds, hx ▸ hd.outbox⟩

theorem fitting_setOrder (i : Id) (f : PaymentOrder → PaymentOrder) (hf : ∀ o, (f o).id = o.id)
    (h : ∀ o, o.columns.fit → (f o).columns.fit) : Keeps fitting (setOrder i f hf) :=
  Tx.keeps_add (fitting_updateOrders _ _ _ h)

theorem fitting_setRefund (i : Id) (f : PaymentRefund → PaymentRefund) (hf : ∀ r, (f r).id = r.id)
    (h : ∀ r, r.columns.fit → (f r).columns.fit) : Keeps fitting (setRefund i f hf) :=
  Tx.keeps_add (fitting_updateRefunds _ _ _ h)

theorem fitting_setBalance (userId : Id) (balance : Int) :
    Keeps fitting (setBalance userId balance) := by
  refine Tx.keeps_add (fitting_apart fun d e he => ?_)
  obtain rfl := Option.some.inj he
  exact ⟨rfl, rfl, rfl, rfl, rfl, rfl, rfl⟩

theorem fitting_postTransaction {userId : Id} {kind : LedgerKind} {reference key : String}
    {entries : List (Account × Int)} (hu : userId.length ≤ 36) (hr : reference.length ≤ 80)
    (hk : key.length ≤ 160) :
    Keeps fitting (postTransaction userId kind reference key entries) := by
  unfold postTransaction
  split
  · refine Tx.keeps_bind (Tx.keeps_add (fitting_insertLedger _ ?_)) fun _ => by simp
    simp [LedgerTransaction.columns, journal, Columns.fit, hu, hr, hk]
  · simp

theorem fitting_applyUserFreeze (userId : Id) (now : Time) :
    Keeps fitting (applyUserFreeze userId now) := by
  refine Tx.keeps_bind (by simp) fun found => ?_
  cases found with
  | none => simp
  | some _ =>
    refine Tx.keeps_bind (Tx.keeps_add (fitting_updateUsers _ _ _ fun u hu => ?_)) fun _ => ?_
    · simpa [User.columns] using hu
    refine Tx.keeps_bind (keeps_execute (fitting_updateApiKeys _ _ _ fun k hk => ?_)) fun _ => ?_
    · simpa [ApiKey.columns] using hk
    refine Tx.keeps_bind (keeps_execute (fitting_apart ?_)) fun _ => ?_
    · rintro d e ⟨⟩; exact ⟨rfl, rfl, rfl, rfl, rfl, rfl, rfl⟩
    refine Tx.keeps_bind (keeps_execute (fitting_apart ?_)) fun _ => ?_
    · rintro d e ⟨⟩; exact ⟨rfl, rfl, rfl, rfl, rfl, rfl, rfl⟩
    refine Tx.keeps_bind (keeps_execute (fitting_apart ?_)) fun _ => by simp
    rintro d e ⟨⟩
    exact ⟨rfl, rfl, rfl, rfl, rfl, rfl, rfl⟩

/-! ## Refunds -/

theorem fitting_openRefund {a : ApplyRefundArgs} {order : PaymentOrder}
    {existing : Option PaymentRefund} {amount : Int}
    {currency : String} (hi : a.refundId.length ≤ 36) (hp : a.providerRefundId.length ≤ 120)
    (ho : order.columns.fit) (hc : currency.length ≤ 3)
    (hk : existing = none → a.idempotencyKey.length ≤ 120) :
    Keeps fitting (openRefund a order existing amount currency) := by
  cases existing with
  | none =>
    refine Tx.keeps_bind (Tx.keeps_add (fitting_insertRefund _ ?_)) fun _ => ?_
    · simp only [PaymentOrder.columns, Columns.fit_cons] at ho
      simp [PaymentRefund.columns, newRefund, hi, hp, hc, hk rfl, ho.1, ho.2.1]
    · exact keeps_then_return (keeps_conflictsAs _ (by simp)) _
  | some refund =>
    refine Tx.keeps_bind (by simp) fun _ => Tx.keeps_bind (by simp) fun _ => ?_
    refine keeps_then_return (fitting_setRefund _ _ _ fun r hr => ?_) _
    simp only [PaymentRefund.columns, Columns.fit_cons] at hr
    simp [PaymentRefund.columns, hr, hp]

theorem fitting_finishRefund {a : ApplyRefundArgs} {order : PaymentOrder}
    (hx : a.outboxId.length ≤ 36)
    (ho : order.columns.fit) (refund : PaymentRefund) :
    Keeps fitting (finishRefund a order refund) := by
  refine Tx.keeps_bind (fitting_setOrder _ _ _ fun o ho => by simpa [PaymentOrder.columns] using ho)
    fun _ => ?_
  refine Tx.keeps_bind (Tx.keeps_add (fitting_insertOutbox _ ?_)) fun _ => ?_
  · simp only [PaymentOrder.columns, OutboxEvent.columns, Columns.fit_cons] at ho ⊢
    exact ⟨hx, by decide, by omega, Columns.fit_nil⟩
  · exact keeps_then_return (keeps_conflictsAs _ (by simp)) _

theorem fitting_reverseCredit {a : ApplyRefundArgs} {order : PaymentOrder} {refund : PaymentRefund}
    (hx : a.outboxId.length ≤ 36) (ho : order.columns.fit) (hr : refund.id.length ≤ 36) :
    Keeps fitting (reverseCredit a order refund) := by
  have hfinish := fitting_finishRefund hx ho
  simp only [PaymentOrder.columns, Columns.fit_cons] at ho
  obtain ⟨hid, huser, -⟩ := ho
  refine Tx.keeps_bind (by simp) fun _ => Tx.keeps_bind (by simp) fun wallet =>
    Tx.keeps_ite _ (fun _ => ?_) fun _ => ?_
  · refine Tx.keeps_bind (fitting_setBalance ..) fun _ => ?_
    refine Tx.keeps_bind (fitting_setRefund _ _ _
      fun r hr => by simpa [PaymentRefund.columns] using hr) fun _ => ?_
    exact Tx.keeps_bind (fitting_postTransaction huser (by omega)
      (length_prefixed_le hr (by decide))) fun _ => hfinish _
  · refine Tx.keeps_bind (fitting_setBalance ..) fun _ =>
      Tx.keeps_bind (fitting_applyUserFreeze ..) fun _ => ?_
    have hreason : "refund_balance_insufficient".length ≤ 80 := by decide
    refine Tx.keeps_bind (fitting_setOrder _ _ _ fun o ho => ?_) fun _ => ?_
    · simp only [PaymentOrder.columns, Columns.fit_cons] at ho
      simp [PaymentOrder.columns, ho, hreason]
    refine Tx.keeps_bind (fitting_setRefund _ _ _ fun r hr => ?_) fun _ => ?_
    · simp only [PaymentRefund.columns, Columns.fit_cons] at hr
      simp [PaymentRefund.columns, hr, hreason]
    exact Tx.keeps_bind (fitting_postTransaction huser (by omega)
      (length_prefixed_le hr (by decide))) fun _ => hfinish _

theorem fitting_applyRefund {a : ApplyRefundArgs} {s : Session DB} (hs : s.work.Fits)
    (hi : a.refundId.length ≤ 36)
    (hx : a.outboxId.length ≤ 36) (hp : a.providerRefundId.length ≤ 120)
    (hk : refundWithKey a.orderId a.idempotencyKey s.work = none → a.idempotencyKey.length ≤ 120) :
    Tx.KeepsFrom fitting s (applyRefund a) := by
  unfold applyRefund
  refine Tx.keepsFrom_select_bind (Tx.keepsFrom_orRaise_bind fun _ _ => ?_)
  refine Tx.keepsFrom_select_bind (Tx.keepsFrom_select_bind ?_)
  split
  · exact (Tx.keeps_bind (by simp) fun _ => by simp).from s
  · refine Tx.keepsFrom_orRaise_bind fun order ho => ?_
    obtain ⟨hfound, -⟩ := Option.filter_eq_some_iff.1 ho
    have ho := hs.orders order (Table.mem_of_get? hfound)
    refine Tx.keepsFrom_raiseIf_bind fun _ => Tx.keepsFrom_orRaise_bind fun amount _ => ?_
    refine Tx.keepsFrom_orRaise_bind fun currency hcurrency => ?_
    have hc : currency.length ≤ 3 := by
      simp only [PaymentOrder.columns, Columns.fit_cons, hcurrency] at ho
      exact ho.2.2.2.1
    refine Tx.keepsFrom_bind ((fitting_openRefund hi hp ho hc hk).from s) fun _ r t hopen => ?_
    refine (fitting_reverseCredit hx ho ?_).from t
    cases hexisting : refundWithKey a.orderId a.idempotencyKey s.work with
    | none =>
      simp only [hexisting, openRefund, Tx.bind_ok, Tx.add_ok, Tx.pure_ok] at hopen
      obtain ⟨_, _, -, _, _, -, rfl, -⟩ := hopen
      exact hi
    | some refund =>
      simp only [hexisting, openRefund, setRefund, Tx.bind_ok, Tx.raiseIf_ok, Tx.add_ok,
        Tx.pure_ok] at hopen
      obtain ⟨_, _, -, _, _, -, _, _, -, rfl, -⟩ := hopen
      have hrefund := hs.refunds refund (Table.mem_of_get? (refundWithKey_some hexisting).1)
      simp only [PaymentRefund.columns, Columns.fit_cons] at hrefund
      exact hrefund.1

/-! ## Events -/

/-- The names of an event fit, as they come. -/
structure WebhookArgs.Short (a : WebhookArgs) : Prop where
  provider : a.provider.length ≤ 32
  eventId : a.eventId.length ≤ 120
  nonce : a.nonceText.length ≤ 120
  rawDigest : a.rawDigest.length ≤ 64
  eventType : a.eventType.length ≤ 48
  transaction : a.providerTransactionId.length ≤ 120
  refund : ∀ x ∈ a.providerRefundId, x.length ≤ 120
  webhookId : a.webhookId.length ≤ 36
  refundId : a.refundId.length ≤ 36
  outboxId : a.outboxId.length ≤ 36

theorem length_key (s p e : String) : (s ++ p ++ ":" ++ e).length = s.length +
    p.length + 1 + e.length := by
  simp only [String.length_append]
  rfl

section Event

variable {a : WebhookArgs} {order : PaymentOrder} {s : Session DB}

theorem fitting_recordEvent (ha : a.Short) (ho : order.columns.fit) (status : WebhookStatus) :
    Keeps fitting (recordEvent a order status) := by
  refine Tx.keeps_add (fitting_insertEvent _ ?_)
  simp only [PaymentOrder.columns, Columns.fit_cons] at ho
  simp [PaymentWebhookEvent.columns, webhookEvent, ha.webhookId, ha.provider, ha.eventId, ha.nonce,
    ho.1, ha.rawDigest, ha.eventType]

theorem fitting_applyProgressEvent (ha : a.Short) (ho : order.columns.fit) (kind : EventStatus) :
    Keeps fitting (applyProgressEvent a order kind) := by
  refine Tx.keeps_bind (by simp) fun _ => Tx.keeps_bind (fitting_recordEvent ha ho _) fun _ => ?_
  refine Tx.keeps_bind (fitting_setOrder _ _ _ fun o ho => ?_) fun _ =>
    keeps_then_return (keeps_conflictsAs _ (by simp)) _
  simp only [PaymentOrder.columns, Columns.fit_cons, OrderStatus.text_fits, true_and] at ho
  obtain ⟨hi, hu, hp, hc, hq, hk, ht, hurl, hr, -⟩ := ho
  have known : ((if truthy o.providerTransactionId then o.providerTransactionId else
      some a.providerTransactionId).getD "").length ≤ 120 := by
    split
    · exact ht
    · exact ha.transaction
  have hreason : "checkout_callback_before_response".length ≤ 80 := by decide
  unfold progressedOrder
  cases kind with
  | failed | closed => simp [PaymentOrder.columns, hi, hu, hp, hc, hq, hk, hurl, hr, known]
  | pending | paid | refunded =>
    dsimp only
    split
    · simp [PaymentOrder.columns, hi, hu, hp, hc, hq, hk, hurl, hreason, known]
    · simp [PaymentOrder.columns, hi, hu, hp, hc, hq, hk, hurl, hr, known]

theorem fitting_creditOrder (ha : a.Short) (ho : order.columns.fit)
    (hk : ("payment:" ++ a.provider ++ ":" ++ a.eventId).length ≤ 160) :
    Keeps fitting (creditOrder a order) := by
  have hrecord := fitting_recordEvent ha ho .processed
  simp only [PaymentOrder.columns, Columns.fit_cons] at ho
  obtain ⟨hid, huser, -⟩ := ho
  refine Tx.keeps_bind hrecord fun _ =>
    Tx.keeps_bind (keeps_execute (fitting_updateOrders _ _ _ fun o ho => ?_)) fun _ => ?_
  · simp only [PaymentOrder.columns, Columns.fit_cons] at ho
    simp [PaymentOrder.columns, paidOrder, ho, ha.transaction]
  refine Tx.keeps_bind (by simp) fun _ => Tx.keeps_bind (by simp) fun _ =>
    Tx.keeps_bind (by simp) fun _ => ?_
  refine Tx.keeps_bind (fitting_setBalance ..) fun _ => ?_
  refine Tx.keeps_bind (fitting_postTransaction huser (by omega) hk) fun _ => ?_
  refine Tx.keeps_bind (Tx.keeps_add (fitting_insertOutbox _ ?_)) fun _ => ?_
  · simp only [OutboxEvent.columns, Columns.fit_cons]
    exact ⟨ha.outboxId, by decide, by omega, Columns.fit_nil⟩
  · exact keeps_then_return (keeps_conflictsAs _ (by simp)) _

theorem fitting_completeRefund {key providerRefundId : String} (ha : a.Short) (hs : s.work.Fits)
    (ho : order.columns.fit)
    (hp : providerRefundId.length ≤ 120)
    (hk : refundWithKey order.id key s.work = none → key.length ≤ 120) :
    Tx.KeepsFrom fitting s (completeRefund a order key providerRefundId) := by
  refine Tx.keepsFrom_bind ((fitting_recordEvent ha ho _).from s) fun _ _ t hrecord => ?_
  obtain rfl := (Tx.add_ok ..).1 hrecord
  refine Tx.keepsFrom_bind (fitting_applyRefund hs ha.refundId ha.outboxId hp hk) fun _ _ t _ => ?_
  exact (keeps_then_return (by simp) _).from t

/-- Only a refund that the provider began is put under a key that is new. -/
theorem fitting_applyRefundEvent {providerRefundId : String} (ha : a.Short) (hs : s.work.Fits)
    (ho : order.columns.fit)
    (hp : providerRefundId.length ≤ 120)
    (hk : ("webhook:" ++ a.provider ++ ":" ++ a.eventId).length ≤ 120) :
    Tx.KeepsFrom fitting s (applyRefundEvent a order providerRefundId) := by
  unfold applyRefundEvent
  split
  · refine (Tx.keeps_bind (by simp) fun _ => Tx.keeps_bind (by simp) fun _ => ?_).from s
    refine Tx.keeps_bind (fitting_recordEvent ha ho _) fun _ => ?_
    exact keeps_then_return (keeps_conflictsAs _ (by simp)) _
  · refine Tx.keepsFrom_select_bind ?_
    split
    · rename_i refund hactive
      have hmem : refund ∈ activeRefunds order.id s.work := by rw [hactive]; exact .head _
      have hrefund := hs.refunds refund (List.mem_filter.1 hmem).1
      simp only [PaymentRefund.columns, Columns.fit_cons] at hrefund
      exact Tx.keepsFrom_raiseIf_bind fun _ => fitting_completeRefund ha hs ho hp
        fun _ => hrefund.2.2.2.2.1
    · exact (by simp : Keeps fitting _).from s
  · exact fitting_completeRefund ha hs ho hp fun _ => hk
  · exact (by simp : Keeps fitting _).from s

/-- The keys that the domain makes of an event fit their columns. -/
structure WebhookArgs.KeysFit (a : WebhookArgs) : Prop where
  credit : validEvent a.eventType = some .paid → a.status = "paid" →
    ("payment:" ++ a.provider ++ ":" ++ a.eventId).length ≤ 160
  refund : validEvent a.eventType = some .refunded → a.status = "refunded" →
    ("webhook:" ++ a.provider ++ ":" ++ a.eventId).length ≤ 120

theorem fitting_applyWebhook (ha : a.Short) (hs : s.work.Fits)
    (hk : ∀ o, s.work.orders.get? a.orderId = some o → a.KeysFit) :
    Tx.KeepsFrom fitting s (applyWebhook a) := by
  unfold applyWebhook
  refine Tx.keepsFrom_raiseIf_bind fun _ => Tx.keepsFrom_select_bind ?_
  split
  · exact (Tx.keeps_bind (by simp) fun _ => Tx.keeps_bind (by simp) fun _ => by simp).from s
  · refine Tx.keepsFrom_select_bind (Tx.keepsFrom_raiseIf_bind fun _ => ?_)
    unfold dispatchEvent
    refine Tx.keepsFrom_select_bind (Tx.keepsFrom_orRaise_bind fun order ho => ?_)
    obtain ⟨hfound, -⟩ := Option.filter_eq_some_iff.1 ho
    have ho := hs.orders order (Table.mem_of_get? hfound)
    have hk := hk order hfound
    refine Tx.keepsFrom_raiseIf_bind fun _ => Tx.keepsFrom_raiseIf_bind fun _ => ?_
    refine Tx.keepsFrom_orRaise_bind fun kind hkind => ?_
    obtain ⟨hvalid, hstatus⟩ := Option.filter_eq_some_iff.1 hkind
    have hstatus : kind.text = a.status := of_decide_eq_true hstatus
    split
    · rename_i hrefund _
      obtain ⟨hrefund, -⟩ := Option.filter_eq_some_iff.1 hrefund
      exact fitting_applyRefundEvent ha hs ho (ha.refund _ hrefund) (hk.refund hvalid hstatus.symm)
    · exact (Tx.keeps_raise _).from s
    · refine (Tx.keeps_bind (by simp) fun _ => ?_).from s
      split
      · refine Tx.keeps_ite _ (fun _ => fitting_creditOrder ha ho (hk.credit hvalid hstatus.symm))
          fun _ => ?_
        exact Tx.keeps_bind (by simp) fun _ => Tx.keeps_bind (by simp) fun _ => by simp
      · exact fitting_applyProgressEvent ha ho _

end Event

end Fitting

end Kunlun
