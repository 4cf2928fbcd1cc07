import Kunlun.Refunds

/-!
# Provider events (`services/payment_domain.py`)
-/

namespace Kunlun

inductive EventStatus where
  | pending | failed | closed | paid | refunded
  deriving DecidableEq

def EventStatus.text : EventStatus → String
  | .pending => "pending"
  | .failed => "failed"
  | .closed => "closed"
  | .paid => "paid"
  | .refunded => "refunded"

/-- The status that an event type must come with. -/
def validEvent (eventType : String) : Option EventStatus :=
  if eventType = "payment.pending" then some .pending
  else if eventType = "payment.failed" then some .failed
  else if eventType = "payment.closed" then some .closed
  else if eventType = "payment.succeeded" then some .paid
  else if eventType = "topup.succeeded" then some .paid
  else if eventType = "payment.refunded" then some .refunded
  else none

structure WebhookArgs where
  provider : String
  eventId : String
  nonce : Option String
  rawDigest : String
  orderId : Id
  eventType : String
  status : String
  paymentAmountMinor : Int
  paymentCurrency : String
  providerTransactionId : String
  providerRefundId : Option String
  now : Time
  /-- What `uuid4` draws, and the clock at the insert of a refund. -/
  webhookId : Id
  refundId : Id
  outboxId : Id
  createdAt : Time
  deriving DecidableEq

/-- `nonce or event_id`. -/
def WebhookArgs.nonceText (a : WebhookArgs) : String := (a.nonce.filter (· ≠ "")).getD a.eventId

/-- The names that an event cannot do without. -/
def WebhookArgs.Complete (a : WebhookArgs) : Prop :=
  ¬ (a.eventId = "" ∨ a.nonceText = "" ∨ a.rawDigest = "" ∨ a.providerTransactionId = "")

def eventWithNonce (provider nonce : String) (d : DB) : Option PaymentWebhookEvent :=
  d.events.rows.find? fun e => e.provider = provider ∧ e.nonce = nonce

def webhookEvent (a : WebhookArgs) (orderId : Id) (status : WebhookStatus) : PaymentWebhookEvent :=
  ⟨a.webhookId, a.provider, a.eventId, a.nonceText, orderId, a.rawDigest, a.eventType, status⟩

def recordEvent (a : WebhookArgs) (order : PaymentOrder) (status : WebhookStatus) : Service Unit :=
  Tx.add (DB.insertEvent (webhookEvent a order.id status))

/-! ## Refund events -/

def applyRefundArgs (a : WebhookArgs) (order : PaymentOrder)
    (key providerRefundId : String) : ApplyRefundArgs :=
  ⟨order.id, key, providerRefundId, a.now, a.refundId, a.outboxId, a.createdAt⟩

def completeRefund (a : WebhookArgs) (order : PaymentOrder)
    (key providerRefundId : String) : Service Bool := do
  recordEvent a order .processed
  let _ ← applyRefund (applyRefundArgs a order key providerRefundId)
  -- `applyRefund` has committed, unless it replayed a finished refund.
  Tx.commit
  return false

def activeRefunds (orderId : Id) (d : DB) : List PaymentRefund :=
  d.refunds.rows.filter fun r => decide (r.orderId = orderId) && r.status.isActive

def refundWithProviderId (providerRefundId : String) (d : DB) : Option PaymentRefund :=
  d.refunds.rows.find? fun r => r.providerRefundId = some providerRefundId

def applyRefundEvent (a : WebhookArgs) (order : PaymentOrder)
    (providerRefundId : String) : Service Bool :=
  match order.status with
  | .refunded => do
    let existing ← Tx.select (refundWithProviderId providerRefundId)
    Tx.raiseIf (¬ existing.any fun r => r.orderId = order.id)
      (.paymentDomain "退款标识与已退款订单不一致" 409)
    recordEvent a order .processedDuplicate
    conflictsAs (.paymentDomain "退款事件并发冲突" 409) Tx.commit
    return true
  | .refunding => do
    let active ← Tx.select (activeRefunds order.id)
    match active with
    | [refund] => do
      Tx.raiseIf (refund.providerRefundId ≠ none ∧ refund.providerRefundId ≠ some providerRefundId)
        (.paymentDomain "供应商退款标识不一致" 409)
      completeRefund a order refund.idempotencyKey providerRefundId
    | _ => Tx.raise (.paymentDomain "退款命令状态异常，需要人工核对" 409)
  | .paid => completeRefund a order ("webhook:" ++ a.provider ++ ":" ++ a.eventId) providerRefundId
  | _ => Tx.raise (.paymentDomain "支付订单状态不允许退款" 409)

/-! ## Payment events -/

/-- The order after an event that moves no money. -/
def progressedOrder (a : WebhookArgs) (kind : EventStatus) (order : PaymentOrder) : PaymentOrder :=
  let known := { order with
    providerTransactionId :=
      if truthy order.providerTransactionId then order.providerTransactionId
      else some a.providerTransactionId
    reconciliationClaimStartedAt := none }
  match kind with
  | .failed => { known with status := .failed, checkoutClaimStartedAt := none }
  | .closed => { known with status := .closed, checkoutClaimStartedAt := none }
  | _ =>
    -- A callback that beats the checkout response: there is an intent, but no trusted URL.
    if order.status = .checkoutRequesting then { known with
      status := .pendingReconciliation
      riskReason := some "checkout_callback_before_response"
      checkoutClaimStartedAt := none }
    else known

theorem progressedOrder_id (a : WebhookArgs) (kind : EventStatus) (order : PaymentOrder) :
    (progressedOrder a kind order).id = order.id := by
  unfold progressedOrder
  cases kind <;> simp only <;> split <;> rfl

def applyProgressEvent (a : WebhookArgs) (order : PaymentOrder)
    (kind : EventStatus) : Service Bool := do
  Tx.raiseIf (order.status.isOpen = false) (.paymentDomain "支付订单状态不允许更新" 409)
  recordEvent a order .processed
  setOrder order.id (progressedOrder a kind) (progressedOrder_id a kind)
  conflictsAs (.paymentDomain "支付事件并发冲突" 409) Tx.commit
  return false

def paidOrder (providerTransactionId : String) (o : PaymentOrder) : PaymentOrder := { o with
  status := .paid
  providerTransactionId := some providerTransactionId
  checkoutClaimStartedAt := none
  reconciliationClaimStartedAt := none
  riskReason := none }

def creditOrder (a : WebhookArgs) (order : PaymentOrder) : Service Bool := do
  recordEvent a order .processed
  let changed ← Tx.execute (DB.updateOrders (fun o => decide (o.id = order.id) && o.status.isOpen)
    (paidOrder a.providerTransactionId))
  Tx.rollbackIf (changed ≠ 1) (.paymentDomain "支付订单已被并发处理" 409)
  let found ← Tx.select fun d => d.wallets.get? order.userId
  let wallet ← Tx.orRaise found (.paymentDomain "用户钱包不存在" 500)
  setBalance order.userId (wallet.balanceMicrousd + order.creditAmountMicrousd)
  postTransaction order.userId .paymentCredit order.id
    ("payment:" ++ a.provider ++ ":" ++ a.eventId)
    [(.customerAvailable, order.creditAmountMicrousd),
      (.platformClearing, -order.creditAmountMicrousd)]
  Tx.add (DB.insertOutbox ⟨a.outboxId, "wallet.credited", order.id,
    creditPayload order.id "credit_amount_microusd" order.creditAmountMicrousd⟩)
  conflictsAs (.paymentDomain "支付事件并发冲突" 409) Tx.commit
  return false

def applyPaidEvent (a : WebhookArgs) (order : PaymentOrder) : Service Bool :=
  if order.status.isOpen then creditOrder a order
  else do
    Tx.raiseIf (¬ (order.providerTransactionId = some a.providerTransactionId ∧
      order.status = .paid))
      (.paymentDomain "支付订单状态或交易号不一致" 409)
    Tx.rollback
    return true

/-! ## Events -/

/-- The event against its order, under the lock of the order row. -/
def dispatchEvent (a : WebhookArgs) : Service Bool := do
  let found ← Tx.select fun d => (d.orders.get? a.orderId).filter fun o => o.provider = a.provider
  let order ← Tx.orRaise found (.paymentDomain "支付订单不存在" 404)
  Tx.raiseIf (order.paymentAmountMinor ≠ some a.paymentAmountMinor ∨
      order.paymentCurrency ≠ some a.paymentCurrency)
    (.paymentDomain "支付金额或币种与订单报价不一致" 409)
  Tx.raiseIf (order.providerTransactionId ≠ none ∧ order.providerTransactionId ≠
    some a.providerTransactionId) (.paymentDomain "支付交易号与已创建订单不一致" 409)
  let kind ← Tx.orRaise ((validEvent a.eventType).filter fun k => k.text = a.status)
    (.paymentDomain "支付事件类型与状态不一致" 409)
  match kind, a.providerRefundId.filter (· ≠ "") with
  | .refunded, some providerRefundId => applyRefundEvent a order providerRefundId
  | .refunded, none => Tx.raise (.paymentDomain "退款事件缺少供应商退款标识" 422)
  | kind, _ => do
    Tx.raiseIf (a.providerRefundId ≠ none) (.paymentDomain "非退款事件不得携带退款标识" 409)
    match kind with
    | .paid => applyPaidEvent a order
    | kind => applyProgressEvent a order kind

/-- Applies an authenticated event, and says whether it is a duplicate. -/
def applyWebhook (a : WebhookArgs) : Service Bool := do
  Tx.raiseIf (a.eventId = "" ∨ a.nonceText = "" ∨ a.rawDigest = "" ∨ a.providerTransactionId = "")
    (.paymentDomain "支付事件标识不完整" 422)
  let existing ← Tx.select (eventWithId a.provider a.eventId)
  match existing with
  | some existing => do
    Tx.raiseIf (existing.rawDigest ≠ a.rawDigest ∨ existing.nonce ≠ a.nonceText)
      (.paymentDomain "同一支付事件正文不一致" 409)
    Tx.rollback
    return true
  | none => do
    let replay ← Tx.select (eventWithNonce a.provider a.nonceText)
    Tx.raiseIf (replay.isSome) (.paymentDomain "支付回调 nonce 已被使用" 409)
    dispatchEvent a

end Kunlun
