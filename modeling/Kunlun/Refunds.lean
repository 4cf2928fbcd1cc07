import Kunlun.PaymentDomain

/-!
# Refunds (`services/payment_domain.py`)
-/

namespace Kunlun

/-- The provider may be at work on the refund, or its answer is unknown. -/
def RefundStatus.isActive : RefundStatus → Bool
  | .requesting | .retrying | .pendingReconciliation => true
  | _ => false

def refundWithKey (orderId : Id) (key : String) (d : DB) : Option PaymentRefund :=
  d.refunds.rows.find? fun r => r.orderId = orderId ∧ r.idempotencyKey = key

/-! ## The refund command -/

structure PrepareRefundArgs where
  orderId : Id
  idempotencyKey : String
  now : Time
  lease : Time
  /-- What `uuid4` draws, and the clock at the insert. -/
  refundId : Id
  createdAt : Time

def reclaimedRefund (next : RefundStatus) (now : Time) (r : PaymentRefund) :
    PaymentRefund := { r with
  status := next
  claimStartedAt := now
  riskReason := none }

/-- Grants the command again, if its row still is what was read of it. -/
def regrantRefund (existing : PaymentRefund) (unchanged : PaymentRefund → Bool)
    (next : RefundStatus)
    (now : Time) : Service (PaymentRefund × Bool) := do
  let changed ← Tx.execute (DB.updateRefunds (fun r => decide (r.id = existing.id) && unchanged r)
    (reclaimedRefund next now))
  Tx.rollbackIf (changed ≠ 1) (.paymentDomain "退款命令已被并发处理" 409)
  Tx.commit
  return (reclaimedRefund next now existing, true)

def reclaimRefund (existing : PaymentRefund) (now lease : Time) : Service (PaymentRefund × Bool) :=
  match existing.status with
  | .refunded | .risk => do
    Tx.rollback
    return (existing, false)
  | .requesting | .retrying => do
    Tx.rollbackIf (now - lease < existing.claimStartedAt) (.paymentDomain "退款正在处理，不得并发重试" 409)
    regrantRefund existing
      (fun r => decide (r.status = existing.status) && decide
        (r.claimStartedAt = existing.claimStartedAt))
      (if existing.status = .requesting then .retrying else .requesting) now
  | .resolved => do
    Tx.rollback
    Tx.raise (.paymentDomain "退款状态需要人工核对" 409)
  | .pendingReconciliation =>
    regrantRefund existing (fun r => r.status = .pendingReconciliation) .requesting now

/-- A refund row as both services insert it. -/
def newRefund (refundId : Id) (order : PaymentOrder)
    (providerRefundId : Option String) (key : String)
    (amount : Int) (currency : String) (createdAt : Time) : PaymentRefund where
  id := refundId
  orderId := order.id
  userId := order.userId
  providerRefundId := providerRefundId
  idempotencyKey := key
  paymentAmountMinor := amount
  paymentCurrency := currency
  creditAmountMicrousd := order.creditAmountMicrousd
  status := .requesting
  riskReason := none
  claimStartedAt := createdAt

def commandRefund (a : PrepareRefundArgs) : Service (PaymentRefund × Bool) := do
  let found ← Tx.select fun d => (d.orders.get? a.orderId).filter fun o => o.status = .paid
  let order ← Tx.orRaise found (.paymentDomain "订单当前不可退款" 409)
  let amount ← Tx.orRaise order.paymentAmountMinor (.paymentDomain "订单缺少现金报价快照" 409)
  let currency ← Tx.orRaise order.paymentCurrency (.paymentDomain "订单缺少现金报价快照" 409)
  Tx.add (DB.insertRefund (newRefund a.refundId order none a.idempotencyKey amount
    currency a.createdAt))
  let changed ← Tx.execute (DB.updateOrders
    (fun o => decide (o.id = order.id) && decide (o.status = .paid))
    fun o => { o with status := .refunding })
  Tx.rollbackIf (changed ≠ 1) (.paymentDomain "退款命令已被并发处理" 409)
  conflictsAs (.paymentDomain "退款命令并发冲突" 409) Tx.commit
  return (newRefund a.refundId order none a.idempotencyKey amount currency a.createdAt, true)

/-- Whether the caller may ask the provider for the refund. -/
def prepareRefund (a : PrepareRefundArgs) : Service (PaymentRefund × Bool) := do
  Tx.raiseIf (a.idempotencyKey = "") (.paymentDomain "退款幂等键不能为空" 422)
  let existing ← Tx.select (refundWithKey a.orderId a.idempotencyKey)
  match existing with
  | some existing => reclaimRefund existing a.now a.lease
  | none => commandRefund a

/-! ## The reversal -/

structure ApplyRefundArgs where
  orderId : Id
  idempotencyKey : String
  providerRefundId : String
  now : Time
  /-- What `uuid4` draws, and the clock at the insert. -/
  refundId : Id
  outboxId : Id
  createdAt : Time

def setRefund (refundId : Id) (f : PaymentRefund → PaymentRefund)
    (hf : ∀ r, (f r).id = r.id := by intros; rfl) :
    Service Unit :=
  Tx.add (DB.flushing (DB.updateRefunds (fun r => r.id = refundId) f hf))

def setOrder (orderId : Id) (f : PaymentOrder → PaymentOrder)
    (hf : ∀ o, (f o).id = o.id := by intros; rfl) :
    Service Unit :=
  Tx.add (DB.flushing (DB.updateOrders (fun o => o.id = orderId) f hf))

/-- The balance that an object loaded under the row lock is set to. -/
def setBalance (userId : Id) (balance : Int) : Service Unit :=
  Tx.add (DB.flushing (DB.updateWallets (fun w => w.userId = userId) fun w =>
    { w with balanceMicrousd := balance }))

/-- The refund to complete: a new row, or the open command. -/
def openRefund (a : ApplyRefundArgs) (order : PaymentOrder)
    (existing : Option PaymentRefund) (amount : Int)
    (currency : String) : Service PaymentRefund :=
  match existing with
  | none => do
    Tx.add (DB.insertRefund
      (newRefund a.refundId order (some a.providerRefundId) a.idempotencyKey amount
        currency a.createdAt))
    conflictsAs (.paymentDomain "退款并发冲突" 409) Tx.flush
    return newRefund a.refundId order (some a.providerRefundId) a.idempotencyKey amount
      currency a.createdAt
  | some refund => do
    Tx.raiseIf (refund.status.isActive = false) (.paymentDomain "退款状态不允许完成" 409)
    Tx.raiseIf (refund.providerRefundId ≠ none ∧ refund.providerRefundId ≠ some a.providerRefundId)
      (.paymentDomain "供应商退款标识不一致" 409)
    setRefund refund.id fun r => { r with providerRefundId := some a.providerRefundId }
    return { refund with providerRefundId := some a.providerRefundId }

def refundPayload (orderId : Id) (status : RefundStatus) : Json :=
  .obj [(py "order_id", .str (py orderId)), (py "status", .str (py status.text))]

def finishRefund (a : ApplyRefundArgs) (order : PaymentOrder) (refund : PaymentRefund) :
    Service PaymentRefund := do
  setOrder order.id fun o => { o with status := .refunded, reconciliationClaimStartedAt := none }
  Tx.add (DB.insertOutbox
    ⟨a.outboxId, "payment.refund.completed", order.id, refundPayload order.id refund.status⟩)
  conflictsAs (.paymentDomain "退款并发冲突" 409) Tx.commit
  return refund

/-- The balance covers the credit. -/
def reverseInFull (a : ApplyRefundArgs) (order : PaymentOrder)
    (refund : PaymentRefund) (wallet : Wallet) :
    Service PaymentRefund := do
  setBalance order.userId (wallet.balanceMicrousd - order.creditAmountMicrousd)
  setRefund refund.id fun r => { r with status := .refunded }
  postTransaction order.userId .paymentRefund order.id ("refund:" ++ refund.id)
    [(.customerAvailable, -order.creditAmountMicrousd),
      (.platformClearing, order.creditAmountMicrousd)]
  finishRefund a order { refund with status := .refunded }

/-- The balance falls short: what is there is taken, the rest is at risk and the account freezes. -/
def reverseAtRisk (a : ApplyRefundArgs) (order : PaymentOrder)
    (refund : PaymentRefund) (wallet : Wallet) :
    Service PaymentRefund := do
  let recovered := max 0 (min wallet.balanceMicrousd order.creditAmountMicrousd)
  let shortfall := order.creditAmountMicrousd - recovered
  setBalance order.userId (wallet.balanceMicrousd - recovered)
  let _ ← applyUserFreeze order.userId a.now
  setOrder order.id fun o => { o with riskReason := some "refund_balance_insufficient" }
  setRefund refund.id fun r =>
    { r with status := .risk, riskReason := some "refund_balance_insufficient" }
  postTransaction order.userId .paymentRefundRisk order.id ("refund-risk:" ++ refund.id)
    [(.customerAvailable, -recovered), (.platformRisk, -shortfall),
      (.platformClearing, order.creditAmountMicrousd)]
  finishRefund a order { refund with status := .risk, riskReason := some "refund_balance_insufficient" }

def reverseCredit (a : ApplyRefundArgs) (order : PaymentOrder) (refund : PaymentRefund) :
    Service PaymentRefund := do
  let found ← Tx.select fun d => d.wallets.get? order.userId
  let wallet ← Tx.orRaise found (.paymentDomain "用户钱包不存在" 500)
  if order.creditAmountMicrousd ≤ wallet.balanceMicrousd then reverseInFull a order refund wallet
  else reverseAtRisk a order refund wallet

def applyRefund (a : ApplyRefundArgs) : Service PaymentRefund := do
  let found ← Tx.select fun d => d.orders.get? a.orderId
  let _ ← Tx.orRaise found (.paymentDomain "订单当前不可退款" 409)
  let found ← Tx.select fun d => d.orders.get? a.orderId
  let existing ← Tx.select (refundWithKey a.orderId a.idempotencyKey)
  match existing.filter fun r => r.status = .refunded ∨ r.status = .risk with
  | some refund => do
    Tx.raiseIf (refund.providerRefundId ≠ some a.providerRefundId)
      (.paymentDomain "供应商退款标识与已完成退款不一致" 409)
    return refund
  | none => do
    let order ← Tx.orRaise
      (found.filter fun o => o.status = .paid ∨ o.status = .refunding ∨ o.status = .refunded)
      (.paymentDomain "订单当前不可退款" 409)
    Tx.raiseIf (order.status = .refunded) (.paymentDomain "订单已完成退款" 409)
    let amount ← Tx.orRaise order.paymentAmountMinor (.paymentDomain "订单缺少现金报价快照" 409)
    let currency ← Tx.orRaise order.paymentCurrency (.paymentDomain "订单缺少现金报价快照" 409)
    let refund ← openRefund a order existing amount currency
    reverseCredit a order refund

/-! ## The shortfall -/

structure ResolveArgs where
  refundId : Id
  action : String
  idempotencyKey : String
  outboxId : Id

structure RiskResolution where
  refund : PaymentRefund
  duplicate : Bool
  outstanding : Int
  recovered : Int
  writtenOff : Int
  deriving DecidableEq

def dispositionKind (action : String) : LedgerKind :=
  if action = "recover_available" then .refundRiskRecover else .refundRiskWriteOff

/-- `risk_net`: what the reversals and dispositions of an order left on the risk account. -/
def riskNet (orderId : Id) (d : DB) : Int :=
  d.ledger.sum fun t =>
    if t.reference = orderId ∧
        (t.kind = .paymentRefundRisk ∨ t.kind = .refundRiskRecover ∨ t.kind = .refundRiskWriteOff)
    then t.total .platformRisk else 0

def dispositionEntries (outstanding recovered : Int) : List (Account × Int) :=
  [(.platformRisk, outstanding)] ++
    (if recovered ≠ 0 then [(.customerAvailable, -recovered)] else []) ++
    (if outstanding - recovered ≠ 0 then [(.platformLoss, -(outstanding - recovered))] else [])

def dispositionPayload (refundId : Id) (recovered writtenOff : Int) : Json :=
  .obj [(py "refund_id", .str (py refundId)), (py "recovered_microusd", .int recovered),
    (py "written_off_microusd", .int writtenOff)]

/-- Moves the shortfall of a refund off the risk account. -/
def disposeShortfall (a : ResolveArgs) (refund : PaymentRefund)
    (order : PaymentOrder) (wallet : Wallet)
    (outstanding : Int) : Service RiskResolution := do
  let recovered := if a.action = "recover_available" then outstanding
    else min wallet.balanceMicrousd outstanding
  let writtenOff := outstanding - recovered
  let reason := if writtenOff = 0 then "resolved_recovered" else "resolved_written_off"
  setBalance refund.userId (wallet.balanceMicrousd - recovered)
  postTransaction refund.userId (dispositionKind a.action) refund.orderId
    ("refund-risk-disposition:" ++ refund.id ++ ":" ++ a.idempotencyKey)
      (dispositionEntries outstanding recovered)
  setRefund refund.id fun r => { r with status := .resolved, riskReason := some reason }
  setOrder order.id fun o =>
    { o with riskReason := if order.riskReason = some "refund_balance_insufficient" then none
      else o.riskReason }
  Tx.add (DB.insertOutbox
    ⟨a.outboxId, "payment.refund.risk_resolved", refund.id,
      dispositionPayload refund.id recovered writtenOff⟩)
  return ⟨{ refund with status := .resolved, riskReason := some reason }, false, outstanding,
    recovered, writtenOff⟩

/-- Commits nothing: its route adds the audit and commits. -/
def resolveRefundRisk (a : ResolveArgs) : Service RiskResolution := do
  Tx.raiseIf (a.action ≠ "recover_available" ∧ a.action ≠ "write_off")
    (.paymentDomain "退款风险处置动作无效" 422)
  let found ← Tx.select fun d => d.refunds.get? a.refundId
  let refund ← Tx.orRaise found (.paymentDomain "退款风险记录不存在" 404)
  let existing ← Tx.select fun d =>
    d.ledger.get? ("refund-risk-disposition:" ++ refund.id ++ ":" ++ a.idempotencyKey)
  match existing with
  | some existing => do
    Tx.raiseIf (existing.kind ≠ dispositionKind a.action)
      (.paymentDomain "同一幂等键已用于不同风险处置动作" 409)
    let recovered := -existing.total .customerAvailable
    let writtenOff := -existing.total .platformLoss
    return ⟨refund, true, recovered + writtenOff, recovered, writtenOff⟩
  | none => do
    Tx.raiseIf (refund.status ≠ .risk) (.paymentDomain "退款记录不处于待处置风险状态" 409)
    let found ← Tx.select fun d => (d.orders.get? refund.orderId).filter fun o =>
      o.status = .refunded
    let order ← Tx.orRaise found (.paymentDomain "退款订单状态异常" 409)
    let net ← Tx.select (riskNet refund.orderId)
    Tx.raiseIf (-net ≤ 0) (.paymentDomain "退款风险差额已结清或账本状态异常" 409)
    let found ← Tx.select fun d => d.wallets.get? refund.userId
    let wallet ← Tx.orRaise found (.paymentDomain "用户钱包不存在" 500)
    Tx.raiseIf (wallet.reservedMicrousd ≠ 0) (.paymentDomain "仍有在途预授权，必须先完成结算或释放" 409)
    Tx.raiseIf (a.action = "recover_available" ∧ wallet.balanceMicrousd < -net)
      (.paymentDomain "当前可用额度不足以全额追回风险差额" 409)
    disposeShortfall a refund order wallet (-net)

end Kunlun
