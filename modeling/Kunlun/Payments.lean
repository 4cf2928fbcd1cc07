import Kunlun.Ledger

/-!
# Test payments (`services/payments.py`)
-/

namespace Kunlun

structure TestOrderArgs where
  userId : Id
  amount : Int
  /-- What `uuid4` draws. -/
  orderId : Id

def testOrder (a : TestOrderArgs) (h : 100 ≤ a.amount) : PaymentOrder where
  id := a.orderId
  userId := a.userId
  provider := "test_hmac"
  creditAmountMicrousd := a.amount
  paymentAmountMinor := none
  paymentCurrency := none
  quoteNumerator := 1
  quoteDenominator := 1
  quoteId := none
  clientIdempotencyKey := none
  status := .pending
  providerTransactionId := none
  checkoutUrl := none
  checkoutClaimStartedAt := none
  reconciliationClaimStartedAt := none
  riskReason := none
  creditPositive := by omega

def createTestOrder (a : TestOrderArgs) : Service PaymentOrder :=
  if h : 100 ≤ a.amount ∧ a.amount ≤ 100000000 then do
    Tx.add (DB.insertOrder (testOrder a h.1))
    Tx.commit
    return testOrder a h.1
  else Tx.raise (.payment "测试充值金额超出允许范围" 422)

/-- The fields that the callback reads, each as text. The amount is there when it is an integer. -/
structure TestEvent where
  eventId : String
  orderId : String
  eventType : String
  amount : Option Int

/-- What `json.loads` and the field reads make of a body. -/
inductive TestBody where
  | notJson
  | notObject
  | event (e : TestEvent)

def TestBody.read : TestBody → Except Exc TestEvent
  | .notJson => .error (.payment "支付回调不是有效 JSON" 400)
  | .notObject => .error .attributeError
  | .event e => .ok e

structure TestWebhookArgs where
  /-- What `verify_signature` says of the body. -/
  verified : Bool
  body : TestBody
  rawDigest : String
  webhookId : Id
  outboxId : Id

def eventWithId (provider eventId : String) (d : DB) : Option PaymentWebhookEvent :=
  d.events.rows.find? fun e => e.provider = provider ∧ e.eventId = eventId

/-- A callback that another one may have overtaken. -/
def overtaken (eventId rawDigest : String) (e : Exc) : Service Bool := do
  Tx.rollback
  let concurrent ← Tx.select (eventWithId "test_hmac" eventId)
  Tx.raiseIf (¬ concurrent.any fun x => x.rawDigest = rawDigest) e
  return true

def creditPayload (orderId : Id) (field : String) (amount : Int) : Json :=
  .obj [(py "order_id", .str (py orderId)), (py field, .int amount)]

def testWebhookEvent (a : TestWebhookArgs) (event : TestEvent) (orderId : Id) :
    PaymentWebhookEvent :=
  ⟨a.webhookId, "test_hmac", event.eventId, event.eventId, orderId, a.rawDigest,
    event.eventType, .processed⟩

/-- Records the event and credits its order. -/
def creditTestOrder (a : TestWebhookArgs) (event : TestEvent) (amount : Int)
    (order : PaymentOrder) :
    Service Bool := do
  Tx.add (DB.insertEvent (testWebhookEvent a event order.id))
  let changed ← Tx.execute (DB.updateOrders
    (fun o => decide (o.id = order.id) && decide (o.status = .pending))
    fun o => { o with status := .paid, providerTransactionId := some event.eventId })
  if changed ≠ 1 then overtaken event.eventId a.rawDigest (.payment "充值订单已被并发处理" 409)
  else do
    let _ ← Tx.execute (DB.updateWallets (fun w => w.userId = order.userId) fun w =>
      { w with balanceMicrousd := w.balanceMicrousd + amount })
    postTransaction order.userId .credit order.id ("payment:test_hmac:" ++ event.eventId)
      [(.customerAvailable, amount), (.platformClearing, -amount)]
    Tx.add (DB.insertOutbox
      ⟨a.outboxId, "wallet.credited", order.id, creditPayload order.id "amount_microusd" amount⟩)
    Tx.commit
    return false

def processTestWebhook (a : TestWebhookArgs) : Service Bool := do
  Tx.raiseIf (a.verified = false) (.payment "支付回调签名无效" 401)
  let event ← Tx.lift a.body.read
  Tx.raiseIf (event.eventId = "" ∨ event.orderId = "" ∨ event.eventType ≠ "topup.succeeded")
    (.payment "支付回调字段不完整" 422)
  let amount ← Tx.orRaise event.amount (.payment "支付回调字段不完整" 422)
  let existing ← Tx.select (eventWithId "test_hmac" event.eventId)
  match existing with
  | some existing => do
    Tx.raiseIf (existing.rawDigest ≠ a.rawDigest) (.payment "同一事件编号的回调正文不一致" 409)
    return true
  | none => do
    let found ← Tx.select fun d => (d.orders.get? event.orderId).filter fun o =>
      o.provider = "test_hmac"
    let order ← Tx.orRaise found (.payment "充值订单不存在" 404)
    Tx.raiseIf (amount ≠ order.creditAmountMicrousd) (.payment "支付金额与订单不一致" 409)
    if order.status ≠ .pending then
      overtaken event.eventId a.rawDigest (.payment "充值订单状态不允许入账" 409)
    else
      Tx.tryExcept (creditTestOrder a event amount order) Exc.isIntegrityError fun _ =>
        overtaken event.eventId a.rawDigest (.payment "支付回调并发冲突" 409)

end Kunlun
