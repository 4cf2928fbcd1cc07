import Kunlun.Billing
import Kunlun.Webhook

/-!
# Routes (`app/__init__.py`)

Each definition is one database session of a handler. What a handler does between two
sessions, a call to a bridge or a provider, is not here.
-/

namespace Kunlun

/-! ## Errors and audit -/

/-- The answer to a domain error. -/
def Exc.http? : Exc → Option Exc
  | .billing message statusCode | .budget message statusCode => some (.http message statusCode)
  | .payment message statusCode | .paymentDomain message statusCode =>
    some (.http message statusCode)
  | _ => none

def Exc.isIdentity : Exc → Bool
  | .identity _ => true
  | _ => false

/-- `str(exc)` of an error with a text. -/
def Exc.message : Exc → String
  | .billing message _ | .budget message _ | .payment message _ | .paymentDomain message _ =>
    message
  | .identity message | .http message _ | .runtimeError message | .valueError message => message
  | _ => ""

/-- `except …Error as exc: session.rollback(); raise HTTPException(…)`. -/
def answering {α : Type} (x : Service α) : Service α :=
  Tx.tryExcept x (fun e => e.http?.isSome) fun e => do
    Tx.rollback
    Tx.raise (e.http?.getD e)

@[simp]
theorem answering_ok {α : Type} (x : Service α) (s t : Session DB) (a : α) :
    answering x s = (.ok a, t) ↔ x s = (.ok a, t) := by
  simp [answering]

structure Operator where
  subject : String
  /-- The scopes, sorted and joined. -/
  scopes : String
  tokenId : String
  sourceIpDigest : Option String
  reason : String

def operatorAction (op : Operator) (operationId : String) (requestId : Option Id)
    (targetType targetId action : String) (beforeStatus afterStatus : String) : OperatorAction where
  requestId := requestId
  targetType := targetType
  targetId := targetId
  action := action
  reason := op.reason
  actor := op.subject
  scopes := op.scopes
  tokenId := op.tokenId
  operationId := operationId
  sourceIpDigest := op.sourceIpDigest
  beforeStatus := some beforeStatus
  afterStatus := some afterStatus

/-! ## Registration -/

/-- A new account, with its wallet. -/
def registerIdentity (user : User) : Service Unit := do
  Tx.add (DB.insertUser user)
  Tx.add (DB.insertWallet ⟨user.id, 0, 0⟩)
  Tx.commit

/-! ## Sessions and keys -/

structure LoginArgs where
  email : String
  /-- What `verify_password` says of the password in the request and a stored hash. -/
  verify : String → Bool
  requireEmailVerification : Bool
  /-- What `uuid4` and `token_digest` of the new token give. -/
  sessionId : Id
  digest : String
  now : Time

/-- The unlocked read of the user, with the checks of its status and of the password. -/
def authenticate (a : LoginArgs) (d : DB) : Option User :=
  (userWithEmail a.email d).filter fun u =>
    decide (u.status = .active) && (!a.requireEmailVerification || u.emailVerifiedAt.isSome) &&
      a.verify u.passwordHash

def sessionLifetime : Time := 12 * 60 * minute

def newSession (a : LoginArgs) (user : User) : AccessSession :=
  ⟨a.sessionId, user.id, a.digest, a.now + sessionLifetime, false⟩

def issueSession (a : LoginArgs) (user : User) : Service Unit := do
  Tx.add (DB.insertAccessSession (newSession a user))
  Tx.commit

def login (a : LoginArgs) : Service Unit := do
  let found ← Tx.select (authenticate a)
  let user ← Tx.orRaise found (.http "邮箱或密码错误" 401)
  issueSession a user

def logoutAll (userId : Id) : Service Unit := do
  let _ ← Tx.execute (DB.updateAccessSessions (fun x => decide (x.userId = userId) && !x.revoked)
    (fun x => { x with revoked := true }) DB.id_revokedSession)
  Tx.commit

structure KeyArgs where
  userId : Id
  name : String
  maxActiveKeys : Int
  /-- What `issue_api_key` draws. -/
  keyId : Id
  secretDigest : String
  lastFour : String

/-- The session of `require_session` is another transaction. -/
def createKey (a : KeyArgs) : Service Unit := do
  Tx.tryExcept (enforceKeyLimit a.userId a.maxActiveKeys) Exc.isIdentity fun e =>
    Tx.raise (.http e.message 409)
  Tx.add (DB.insertApiKey ⟨a.keyId, a.userId, a.name, a.secretDigest, a.lastFour, .active⟩)
  Tx.commit

def revokeKey (userId keyId : Id) : Service Unit := do
  let revoked ← Tx.execute (DB.updateApiKeys
    (fun k => decide (k.id = keyId) && (decide (k.userId = userId) && decide (k.status = .active)))
    (fun k => { k with status := .revoked }) DB.id_revokedKey)
  Tx.rollbackIf (revoked ≠ 1) (.http "API Key 不存在或已吊销" 404)
  Tx.commit

/-! ## `create_live_checkout` -/

/-- What the bridge answers to a checkout. Its transaction id has passed a format that is not
empty. -/
structure CheckoutResult where
  status : String
  checkoutUrl : String
  providerTransactionId : String

/-- The bridge failed: the provider may know the order. -/
def checkoutFailed (orderId : Id) (code : String) : Service Unit := do
  let _ ← Tx.execute (DB.updateOrders
    (fun o => decide (o.id = orderId) && decide (o.status = .checkoutRequesting))
    fun o => { o with
      status := .pendingReconciliation
      riskReason := some code
      checkoutClaimStartedAt := none })
  Tx.commit

/-- The order after the bridge answered. -/
def checkedOutOrder (checkout : CheckoutResult) (o : PaymentOrder) : PaymentOrder := { o with
  status := if checkout.status = "pending" then .pending else .pendingReconciliation
  providerTransactionId := some checkout.providerTransactionId
  checkoutUrl := some checkout.checkoutUrl
  checkoutClaimStartedAt := none
  riskReason :=
    if checkout.status = "pending" then none
    else some ("checkout_provider_status:" ++ checkout.status) }

/-- Both answers are written under one condition, and differ in the status and its reason. -/
def checkoutAnswered (orderId : Id) (checkout : CheckoutResult) : Service Unit := do
  let changed ← Tx.execute (DB.updateOrders
    (fun o => decide (o.id = orderId) &&
      (decide (o.status = .checkoutRequesting) && decide (o.providerTransactionId = none)))
    (checkedOutOrder checkout))
  Tx.rollbackIf (changed ≠ 1) (.http "订单状态已变化，请查询订单" 409)
  Tx.commit

/-! ## `reconcile_live_payment` -/

structure ReconcileArgs where
  orderId : Id
  operator : Operator
  operationId : String
  now : Time

def reconcileLease : Time := 5 * minute

/-- The order under a new reconciliation claim. -/
def reconcilingOrder (now : Time) (expired : Bool) (o : PaymentOrder) : PaymentOrder := { o with
  status := .pendingReconciliation
  checkoutClaimStartedAt := if expired then none else o.checkoutClaimStartedAt
  reconciliationClaimStartedAt := some now
  riskReason :=
    if expired then some "checkout_claim_expired"
    else if truthy o.riskReason then o.riskReason else some "operator_reconciliation" }

/-- Takes the reconciliation claim of an order. -/
def claimReconciliation (a : ReconcileArgs) : Service PaymentOrder := do
  let found ← Tx.select fun d =>
    (d.orders.get? a.orderId).filter fun o => o.paymentAmountMinor ≠ none ∧ o.paymentCurrency ≠ none
  let order ← Tx.orRaise found (.http "支付订单不存在或报价不完整" 404)
  Tx.rollbackIf (order.status = .checkoutRequesting ∧ claimLive order.checkoutClaimStartedAt
    a.now (5 * minute)) (.http "收银台创建租约仍有效，请稍后再对账" 409)
  Tx.raiseIf (order.status.isOpen = false) (.http "订单状态不允许进入支付对账" 409)
  Tx.rollbackIf (claimLive order.reconciliationClaimStartedAt a.now reconcileLease)
    (.http "支付订单已由其他操作员取得对账租约" 409)
  setOrder order.id (reconcilingOrder a.now (order.status = .checkoutRequesting))
  Tx.add (DB.insertAction (operatorAction a.operator a.operationId none "payment_order" a.orderId
    "payment_reconcile_claim" order.status.text "pending_reconciliation"))
  Tx.commit
  return order

/-- The query failed, or its answer needs a person. -/
def keepReconciling (orderId : Id) (reason : String) : Service Unit := do
  let _ ← Tx.execute (DB.updateOrders
    (fun o => decide (o.id = orderId) &&
      decide (o.status = .pending ∨ o.status = .pendingReconciliation))
    fun o => { o with status := .pendingReconciliation, riskReason := some reason })
  Tx.commit

def reconcileFailed (orderId : Id) (code : String) : Service Unit :=
  keepReconciling orderId ("reconcile:" ++ code)

def reconcileManual (orderId : Id) (providerStatus : String) : Service Unit :=
  keepReconciling orderId ("reconcile_status:" ++ providerStatus)

/-- The answer of the query, applied as an event of its own. -/
structure ReconcileAnswer where
  claim : ReconcileArgs
  beforeStatus : String
  /-- The event that the route makes of the answer. -/
  event : WebhookArgs
  duplicateOperationId : String

def reconcileAction (a : ReconcileAnswer) (operationId : String) : OperatorAction :=
  operatorAction a.claim.operator operationId none "payment_order" a.claim.orderId
    "payment_reconcile"
    a.beforeStatus a.event.status

/-- The duplicate paths of `applyWebhook` have rolled the staged audit back. -/
def auditDuplicate (a : ReconcileAnswer) (duplicate : Bool) : Service Unit :=
  if duplicate then Tx.add (DB.insertAction (reconcileAction a a.duplicateOperationId)) else pure ()

def applyReconciliation (a : ReconcileAnswer) : Service Bool := do
  -- Staged first: the commit inside `applyWebhook` cannot land without the audit.
  Tx.add (DB.insertAction (reconcileAction a a.claim.operationId))
  let duplicate ← answering (applyWebhook a.event)
  auditDuplicate a duplicate
  let _ ← Tx.execute (DB.updateOrders (fun o => o.id = a.claim.orderId)
    fun o => { o with reconciliationClaimStartedAt := none })
  Tx.commit
  return duplicate

/-- What follows the inner commit. -/
def closeReconciliation (a : ReconcileAnswer) (duplicate : Bool) : Service Bool := do
  auditDuplicate a duplicate
  let _ ← Tx.execute (DB.updateOrders (fun o => o.id = a.claim.orderId)
    fun o => { o with reconciliationClaimStartedAt := none })
  Tx.commit
  return duplicate

/-- Up to the inner commit. -/
def answerReconciliation (a : ReconcileAnswer) : Service Bool := do
  Tx.add (DB.insertAction (reconcileAction a a.claim.operationId))
  answering (applyWebhook a.event)

theorem applyReconciliation_halves (a : ReconcileAnswer) : applyReconciliation a = (do
    let duplicate ← answerReconciliation a
    closeReconciliation a duplicate) := by
  funext s
  simp only [answerReconciliation, applyReconciliation, closeReconciliation, Bind.bind, Tx.add]

theorem applyReconciliation_eq (a : ReconcileAnswer) : applyReconciliation a = (do
    Tx.add (DB.insertAction (reconcileAction a a.claim.operationId))
    let duplicate ← answering (applyWebhook a.event)
    closeReconciliation a duplicate) := rfl

/-! ## `refund_live_payment` -/

def refundGranted (a : PrepareRefundArgs) : Service (PaymentRefund × Bool) := do
  let found ← Tx.select fun d => (d.orders.get? a.orderId).filter fun o =>
    o.paymentAmountMinor ≠ none ∧ o.paymentCurrency ≠ none ∧ o.providerTransactionId ≠ none
  let _ ← Tx.orRaise found (.http "订单当前不可退款" 409)
  answering (prepareRefund a)

/-- The provider's answer is missing or is not a refund. -/
def refundUncertain (orderId refundId : Id) (orderReason refundReason : String) : Service Unit := do
  let _ ← Tx.execute (DB.updateOrders (fun o => o.id = orderId) fun o =>
    { o with riskReason := some orderReason })
  let _ ← Tx.execute (DB.updateRefunds
    (fun r => decide (r.id = refundId) && decide (r.status = .requesting ∨ r.status = .retrying))
    fun r => { r with status := .pendingReconciliation, riskReason := some refundReason })
  Tx.commit

def refundFailed (orderId refundId : Id) (code : String) : Service Unit :=
  refundUncertain orderId refundId ("refund:" ++ code) code

def refundUnconfirmed (orderId refundId : Id) (providerStatus : String) : Service Unit :=
  refundUncertain orderId refundId ("refund_status:" ++ providerStatus)
    ("provider_status:" ++ providerStatus)

def refundConfirmed (a : ApplyRefundArgs) (op : Operator) (operationId : String) (refundId : Id) :
    Service PaymentRefund := do
  Tx.add (DB.insertAction (operatorAction op operationId none "payment_refund"
    refundId "payment_refund"
    "refunding" "refunded"))
  answering do
    let refund ← applyRefund a
    Tx.commit
    return refund

/-! ## `dispose_refund_risk` -/

def disposeRefundRisk (a : ResolveArgs) (op : Operator) (operationId : String) :
    Service RiskResolution :=
  conflictsAs (.http "退款风险处置并发冲突" 409) (answering do
    let resolution ← resolveRefundRisk a
    Tx.add (DB.insertAction (operatorAction op operationId none "payment_refund" a.refundId
      (if a.action = "recover_available" then "refund_risk_recover" else "refund_risk_write_off")
      (if resolution.duplicate then "resolved" else "risk") "resolved"))
    Tx.commit
    return resolution)

/-! ## `reconcile_request` -/

/-- What the operator decides of a request in reconciliation. -/
inductive RequestDecision where
  | release
  | settle (inputTokens outputTokens upstreamCost : Int)
  deriving DecidableEq

structure DecideArgs where
  requestId : Id
  decision : RequestDecision
  operator : Operator
  operationId : String

def RequestDecision.action : RequestDecision → String
  | .release => "release"
  | .settle .. => "settle"

def RequestDecision.afterStatus : RequestDecision → String
  | .release => "reconciled_released"
  | .settle .. => "settled"

def operatorRelease (a : DecideArgs) : ReleaseArgs where
  requestId := a.requestId
  failureCategory := "operator_release:" ++ String.ofList (a.operator.reason.toList.take 48)
  allowedStatuses := [.pendingReconciliation]
  finalStatus := .reconciledReleased
  ledgerKind := .operatorRelease

def settlementResponse (model : String) (inputTokens outputTokens : Int) : Json :=
  .obj [(py "model", .str (py model)), (py "choices", .arr []),
    (py "usage", .obj [(py "prompt_tokens", .int inputTokens),
      (py "completion_tokens", .int outputTokens),
      (py "total_tokens", .int (inputTokens + outputTokens))])]

def operatorSettle (a : DecideArgs) (record : ModelRequest)
    (inputTokens outputTokens upstreamCost : Int) :
    SettleArgs where
  requestId := a.requestId
  response := settlementResponse record.requestedModel inputTokens outputTokens
  provider := (record.finalProvider.filter (· ≠ "")).getD "operator-reconciled"
  fallbackCount := record.fallbackCount
  forceUsageEstimated := false
  upstreamInputPrice := none
  upstreamOutputPrice := none
  upstreamCostOverride := some upstreamCost
  allowedStatuses := [.pendingReconciliation]
  -- the model of this response is a text
  text := Json.dumps

def reconcileRequest (a : DecideArgs) : Service Unit := do
  let found ← Tx.select fun d => (d.requests.get? a.requestId).filter fun r =>
    r.status = .pendingReconciliation
  let record ← Tx.orRaise found (.http "待对账请求不存在" 404)
  Tx.add (DB.insertAction (operatorAction a.operator a.operationId (some a.requestId)
    "model_request" a.requestId a.decision.action record.status.text a.decision.afterStatus))
  match a.decision with
  | .release => answering (releaseModelRequest (operatorRelease a))
  | .settle inputTokens outputTokens upstreamCost => do
    let _ ← answering (settleModelRequest
      (operatorSettle a record inputTokens outputTokens upstreamCost))

/-! ## `update_account_status` -/

structure AccountStatusArgs where
  userId : Id
  freeze : Bool
  operator : Operator
  operationId : String
  now : Time

def unfreeze (userId : Id) (user : User) : Service Unit := do
  Tx.raiseIf (user.status ≠ .frozen) (.http "只有冻结账户可以解除冻结" 409)
  Tx.raiseIf (user.emailVerifiedAt = none) (.http "邮箱尚未验证，禁止解除为活动账户" 409)
  let risk ← Tx.select fun d => d.refunds.rows.any fun r => decide (r.userId = userId) &&
    decide (r.status = .risk)
  Tx.raiseIf (risk = true) (.http "退款风险债务尚未处置，禁止解除冻结" 409)
  Tx.add (DB.flushing (DB.updateUsers (fun u => u.id = userId) fun u =>
    { u with status := .active }))

def changeStatus (a : AccountStatusArgs) (user : User) : Service Unit :=
  if a.freeze then
    if user.status = .frozen then pure ()
    else do
      let _ ← applyUserFreeze a.userId a.now
  else unfreeze a.userId user

def updateAccountStatus (a : AccountStatusArgs) : Service Unit := do
  let found ← Tx.select fun d => d.users.get? a.userId
  let user ← Tx.orRaise found (.http "账户不存在" 404)
  changeStatus a user
  Tx.add (DB.insertAction (operatorAction a.operator a.operationId none "user" a.userId
    (if a.freeze then "account_freeze" else "account_unfreeze") user.status.text
    (if a.freeze then "frozen" else "active")))
  Tx.commit

end Kunlun
