import Kunlun.Identity
import Kunlun.Payments

/-!
# Live payments (`services/payment_domain.py`)
-/

namespace Kunlun

def refundClaimLease : Time := 5 * minute
def checkoutClaimLease : Time := 5 * minute

def OrderStatus.isOpen : OrderStatus → Bool
  | .pending | .checkoutRequesting | .pendingReconciliation => true
  | _ => false

/-- Python's truth of an optional text. -/
def truthy (s : Option String) : Bool := s.any (· ≠ "")

/-! ## Orders -/

structure OrderArgs where
  userId : Id
  provider : String
  paymentAmountMinor : Int
  paymentCurrency : String
  /-- What `str.isupper` says of the currency. -/
  currencyIsUpper : Bool
  creditAmountMicrousd : Int
  quoteId : String
  quoteNumerator : Int
  quoteDenominator : Int
  idempotencyKey : String
  maxOpenOrders : Option Int
  /-- What `uuid4` draws. -/
  orderId : Id

def sameOrderQuote (o : PaymentOrder) (a : OrderArgs) : Prop :=
  o.provider = a.provider ∧ o.paymentAmountMinor = some a.paymentAmountMinor ∧
    o.paymentCurrency = some a.paymentCurrency ∧ o.creditAmountMicrousd = a.creditAmountMicrousd ∧
    o.quoteId = some a.quoteId ∧ o.quoteNumerator = a.quoteNumerator ∧
    o.quoteDenominator = a.quoteDenominator

instance (o : PaymentOrder) (a : OrderArgs) : Decidable (sameOrderQuote o a) := by
  unfold sameOrderQuote; infer_instance

def orderWithKey (userId : Id) (key : String) (d : DB) : Option PaymentOrder :=
  d.orders.rows.find? fun o => o.userId = userId ∧ o.clientIdempotencyKey = some key

def openOrders (userId : Id) (d : DB) : Nat :=
  d.orders.count fun o => decide (o.userId = userId) && o.status.isOpen

def newOrder (a : OrderArgs) (h : 0 < a.creditAmountMicrousd) : PaymentOrder where
  id := a.orderId
  userId := a.userId
  provider := a.provider
  creditAmountMicrousd := a.creditAmountMicrousd
  paymentAmountMinor := some a.paymentAmountMinor
  paymentCurrency := some a.paymentCurrency
  quoteNumerator := a.quoteNumerator
  quoteDenominator := a.quoteDenominator
  quoteId := some a.quoteId
  clientIdempotencyKey := some a.idempotencyKey
  status := .pending
  providerTransactionId := none
  checkoutUrl := none
  checkoutClaimStartedAt := none
  reconciliationClaimStartedAt := none
  riskReason := none
  creditPositive := h

/-- The insert, with the lookup that follows a lost race. -/
def insertNewOrder (a : OrderArgs) (order : PaymentOrder) : Service PaymentOrder := do
  Tx.add (DB.insertOrder order)
  let commit : Service PaymentOrder := do
    Tx.commit
    return order
  Tx.tryExcept commit Exc.isIntegrityError fun _ => do
    Tx.rollback
    let found ← Tx.select (orderWithKey a.userId a.idempotencyKey)
    let existing ← Tx.orRaise found (.paymentDomain "支付订单创建并发冲突" 409)
    Tx.raiseIf (¬ sameOrderQuote existing a) (.paymentDomain "相同幂等键的支付报价不一致" 409)
    return existing

/-- The cap on open orders, with a second lookup of the key before it. -/
def insertBelowCap (a : OrderArgs) (order : PaymentOrder) (maxOpenOrders : Int) :
    Service PaymentOrder := do
  Tx.raiseIf (maxOpenOrders < 1) (.paymentDomain "未结支付订单上限无效" 500)
  let existing ← Tx.select (orderWithKey a.userId a.idempotencyKey)
  match existing with
  | some existing => do
    Tx.rollbackIf (¬ sameOrderQuote existing a) (.paymentDomain "相同幂等键的支付报价不一致" 409)
    Tx.rollback
    return existing
  | none => do
    let openCount ← Tx.select (openOrders a.userId)
    Tx.rollbackIf (maxOpenOrders ≤ openCount) (.paymentDomain "未结支付订单过多，请先完成或等待对账" 409)
    insertNewOrder a order

def createOrder (a : OrderArgs) : Service PaymentOrder :=
  if h : 0 < a.paymentAmountMinor ∧ 0 < a.creditAmountMicrousd then do
    Tx.raiseIf (a.paymentCurrency.length ≠ 3 ∨ a.currencyIsUpper = false)
      (.paymentDomain "支付币种无效" 422)
    Tx.raiseIf (a.provider = "" ∨ a.quoteId = "" ∨ a.quoteNumerator ≤ 0 ∨ a.quoteDenominator ≤ 0)
      (.paymentDomain "支付报价快照不完整" 422)
    let found ← Tx.select fun d => d.users.get? a.userId
    let owner ← Tx.orRollback found (.paymentDomain "支付账户不存在" 404)
    Tx.rollbackIf (owner.status ≠ .active) (.paymentDomain "支付账户不可用" 403)
    let existing ← Tx.select (orderWithKey a.userId a.idempotencyKey)
    match existing, a.maxOpenOrders with
    | some existing, _ => do
      Tx.raiseIf (¬ sameOrderQuote existing a) (.paymentDomain "相同幂等键的支付报价不一致" 409)
      return existing
    | none, some maxOpenOrders => insertBelowCap a (newOrder a h.2) maxOpenOrders
    | none, none => insertNewOrder a (newOrder a h.2)
  else Tx.raise (.paymentDomain "支付报价金额必须为正数" 422)

/-! ## The one checkout of an order -/

/-- Whether the claim on a checkout may still be at work. -/
def claimLive (startedAt : Option Time) (now lease : Time) : Bool := startedAt.any (now - lease < ·)

/-- A stale claim is not retried, since the provider may know the order. -/
def expireCheckoutClaim (order : PaymentOrder) (now lease : Time) : Service (PaymentOrder × Bool) := do
  Tx.rollbackIf (claimLive order.checkoutClaimStartedAt now lease)
    (.paymentDomain "支付收银台正在创建，不得并发重试" 409)
  let changed ← Tx.execute (DB.updateOrders
    (fun o => decide (o.id = order.id) && (decide (o.status = .checkoutRequesting) &&
      decide (o.checkoutClaimStartedAt = order.checkoutClaimStartedAt)))
    fun o => { o with status := .pendingReconciliation, riskReason := some "checkout_claim_expired" })
  Tx.rollbackIf (changed ≠ 1) (.paymentDomain "支付订单已被并发处理" 409)
  Tx.commit
  -- The change stays although the call raises.
  Tx.raise (.paymentDomain "支付创建状态不确定，已转人工对账" 503)

def claimedOrder (now : Time) (o : PaymentOrder) : PaymentOrder := { o with
  status := .checkoutRequesting
  checkoutClaimStartedAt := some now
  riskReason := none }

def claimCheckout (order : PaymentOrder) (now : Time) : Service (PaymentOrder × Bool) := do
  Tx.rollbackIf (order.status ≠ .pending ∨ order.providerTransactionId ≠ none ∨
    order.checkoutUrl ≠ none)
    (.paymentDomain "订单正在对账或已结束" 409)
  let changed ← Tx.execute (DB.updateOrders
    (fun o => decide (o.id = order.id) && (decide (o.status = .pending) &&
      (decide (o.providerTransactionId = none) && decide (o.checkoutUrl = none))))
    (claimedOrder now))
  Tx.rollbackIf (changed ≠ 1) (.paymentDomain "支付订单已被并发处理" 409)
  Tx.commit
  return (claimedOrder now order, true)

/-- Whether the caller may create the checkout. -/
def prepareCheckout (orderId : Id) (now lease : Time) : Service (PaymentOrder × Bool) := do
  let found ← Tx.select fun d => d.orders.get? orderId
  let owned ← Tx.orRaise found (.paymentDomain "支付订单不存在" 404)
  let found ← Tx.select fun d => (d.users.get? owned.userId).filter fun u => u.status = .active
  let _ ← Tx.orRollback found (.paymentDomain "支付账户不可用" 403)
  let found ← Tx.select fun d => d.orders.get? orderId
  let order ← Tx.orRaise found (.paymentDomain "支付订单不存在" 404)
  if truthy order.checkoutUrl ∧ truthy order.providerTransactionId then do
    Tx.rollback
    return (order, false)
  else if order.status = .checkoutRequesting then expireCheckoutClaim order now lease
  else claimCheckout order now

end Kunlun
