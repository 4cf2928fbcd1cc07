import Kunlun.Json
import Kunlun.Lib.Table
import Kunlun.Lib.Tx

/-!
# The persistence models

One structure per table of `models.py`, with the columns that some function reads. A
`CHECK` that every write of the row can see to is a field.
-/

namespace Kunlun

abbrev Id := String

/-- Microseconds since the epoch, in UTC. -/
abbrev Time := Int

def second : Time := 1000000
def minute : Time := 60 * second

/-! ## Identity -/

inductive UserStatus where
  | pendingEmail | active | frozen
  deriving DecidableEq

def UserStatus.text : UserStatus → String
  | .pendingEmail => "pending_email"
  | .active => "active"
  | .frozen => "frozen"

structure User where
  id : Id
  email : String
  passwordHash : String
  status : UserStatus
  emailVerifiedAt : Option Time
  deriving DecidableEq

structure AccessSession where
  id : Id
  userId : Id
  tokenDigest : String
  expiresAt : Time
  revoked : Bool
  deriving DecidableEq

/-- A row of `email_verification_tokens` or of `password_reset_tokens`. -/
structure OneTimeToken where
  id : Id
  userId : Id
  tokenDigest : String
  expiresAt : Time
  consumedAt : Option Time
  deriving DecidableEq

inductive KeyStatus where
  | active | revoked
  deriving DecidableEq

def KeyStatus.text : KeyStatus → String
  | .active => "active"
  | .revoked => "revoked"

structure ApiKey where
  id : Id
  userId : Id
  name : String
  secretDigest : String
  lastFour : String
  status : KeyStatus
  deriving DecidableEq

/-! ## Wallet and ledger -/

structure Wallet where
  userId : Id
  balanceMicrousd : Int
  reservedMicrousd : Int
  deriving DecidableEq

inductive Account where
  | customerAvailable | customerReserved
  | platformClearing | platformRevenue | platformRisk | platformLoss
  | platformProviderExpense | platformProviderPayable
  deriving DecidableEq

def Account.text : Account → String
  | .customerAvailable => "customer_available"
  | .customerReserved => "customer_reserved"
  | .platformClearing => "platform_clearing"
  | .platformRevenue => "platform_revenue"
  | .platformRisk => "platform_risk"
  | .platformLoss => "platform_loss"
  | .platformProviderExpense => "platform_provider_expense"
  | .platformProviderPayable => "platform_provider_payable"

inductive LedgerKind where
  | reserve | settle | release | operatorRelease
  | credit | paymentCredit | paymentRefund | paymentRefundRisk
  | refundRiskRecover | refundRiskWriteOff
  deriving DecidableEq

def LedgerKind.text : LedgerKind → String
  | .reserve => "reserve"
  | .settle => "settle"
  | .release => "release"
  | .operatorRelease => "operator_release"
  | .credit => "credit"
  | .paymentCredit => "payment_credit"
  | .paymentRefund => "payment_refund"
  | .paymentRefundRisk => "payment_refund_risk"
  | .refundRiskRecover => "refund_risk_recover"
  | .refundRiskWriteOff => "refund_risk_write_off"

structure LedgerEntry where
  userId : Id
  account : Account
  amountMicrousd : Int
  deriving DecidableEq

/-- A journal with its entries. It is built by `postTransaction` only, which checks that it
balances and drops the zero entries. -/
structure LedgerTransaction where
  userId : Id
  kind : LedgerKind
  reference : String
  idempotencyKey : String
  entries : List LedgerEntry
  owned : ∀ e ∈ entries, e.userId = userId
  nonzero : ∀ e ∈ entries, e.amountMicrousd ≠ 0
  balanced : (entries.map LedgerEntry.amountMicrousd).sum = 0
  deriving DecidableEq

/-! ## Payments -/

inductive OrderStatus where
  | pending | checkoutRequesting | pendingReconciliation
  | paid | failed | closed | refunding | refunded
  deriving DecidableEq

def OrderStatus.text : OrderStatus → String
  | .pending => "pending"
  | .checkoutRequesting => "checkout_requesting"
  | .pendingReconciliation => "pending_reconciliation"
  | .paid => "paid"
  | .failed => "failed"
  | .closed => "closed"
  | .refunding => "refunding"
  | .refunded => "refunded"

structure PaymentOrder where
  id : Id
  userId : Id
  provider : String
  creditAmountMicrousd : Int
  paymentAmountMinor : Option Int
  paymentCurrency : Option String
  quoteNumerator : Int
  quoteDenominator : Int
  quoteId : Option String
  clientIdempotencyKey : Option String
  status : OrderStatus
  providerTransactionId : Option String
  checkoutUrl : Option String
  checkoutClaimStartedAt : Option Time
  reconciliationClaimStartedAt : Option Time
  riskReason : Option String
  creditPositive : 0 < creditAmountMicrousd
  deriving DecidableEq

inductive WebhookStatus where
  | processed | processedDuplicate
  deriving DecidableEq

def WebhookStatus.text : WebhookStatus → String
  | .processed => "processed"
  | .processedDuplicate => "processed_duplicate"

structure PaymentWebhookEvent where
  id : Id
  provider : String
  eventId : String
  nonce : String
  orderId : Id
  rawDigest : String
  eventType : String
  status : WebhookStatus
  deriving DecidableEq

inductive RefundStatus where
  | requesting | retrying | pendingReconciliation | refunded | risk | resolved
  deriving DecidableEq

def RefundStatus.text : RefundStatus → String
  | .requesting => "requesting"
  | .retrying => "retrying"
  | .pendingReconciliation => "pending_reconciliation"
  | .refunded => "refunded"
  | .risk => "risk"
  | .resolved => "resolved"

structure PaymentRefund where
  id : Id
  orderId : Id
  userId : Id
  providerRefundId : Option String
  idempotencyKey : String
  paymentAmountMinor : Int
  paymentCurrency : String
  creditAmountMicrousd : Int
  status : RefundStatus
  riskReason : Option String
  claimStartedAt : Time
  deriving DecidableEq

/-! ## Model requests -/

inductive BudgetStatus where
  | active | superseded
  deriving DecidableEq

structure Budget where
  id : Id
  userId : Id
  limitMicrousd : Int
  reservedMicrousd : Int
  spentMicrousd : Int
  status : BudgetStatus
  periodStart : Time
  periodEnd : Time
  createdAt : Time
  deriving DecidableEq

structure ModelPrice where
  id : Id
  model : String
  version : Nat
  inputMicrousdPerMillion : Int
  outputMicrousdPerMillion : Int
  maxOutputTokens : Int
  active : Bool
  deriving DecidableEq

inductive RequestStatus where
  | reserved | settled | underReserved | failed | reconciledReleased | pendingReconciliation
  deriving DecidableEq

def RequestStatus.text : RequestStatus → String
  | .reserved => "reserved"
  | .settled => "settled"
  | .underReserved => "under_reserved"
  | .failed => "failed"
  | .reconciledReleased => "reconciled_released"
  | .pendingReconciliation => "pending_reconciliation"

structure ModelRequest where
  id : Id
  userId : Id
  apiKeyId : Id
  budgetId : Option Id
  idempotencyKey : Option String
  requestedModel : String
  finalModel : Option PyStr
  finalProvider : Option String
  status : RequestStatus
  priceVersion : Nat
  inputPrice : Int
  outputPrice : Int
  reservedMicrousd : Int
  chargedMicrousd : Int
  upstreamCostMicrousd : Int
  inputTokens : Int
  outputTokens : Int
  usageEstimated : Bool
  fallbackCount : Nat
  failureCategory : Option String
  createdAt : Time
  deriving DecidableEq

structure ProviderAttempt where
  id : Id
  requestId : Id
  ordinal : Nat
  provider : String
  model : String
  status : String
  statusCode : Option Int
  failureCategory : Option String
  deriving DecidableEq

/-! ## Outbox and audit -/

structure OutboxEvent where
  id : Id
  topic : String
  reference : String
  payload : Json

structure OperatorAction where
  requestId : Option Id
  targetType : String
  targetId : String
  action : String
  reason : String
  actor : String
  scopes : String
  tokenId : String
  operationId : String
  sourceIpDigest : Option String
  beforeStatus : Option String
  afterStatus : Option String
  deriving DecidableEq

/-! ## The database -/

structure DB where
  users : Table User User.id
  accessSessions : Table AccessSession AccessSession.id
  emailTokens : Table OneTimeToken OneTimeToken.id
  resetTokens : Table OneTimeToken OneTimeToken.id
  apiKeys : Table ApiKey ApiKey.id
  wallets : Table Wallet Wallet.userId
  ledger : Table LedgerTransaction LedgerTransaction.idempotencyKey
  orders : Table PaymentOrder PaymentOrder.id
  events : Table PaymentWebhookEvent PaymentWebhookEvent.id
  refunds : Table PaymentRefund PaymentRefund.id
  budgets : Table Budget Budget.id
  prices : Table ModelPrice ModelPrice.id
  requests : Table ModelRequest ModelRequest.id
  attempts : Table ProviderAttempt ProviderAttempt.id
  outbox : List OutboxEvent
  actions : List OperatorAction

def DB.empty : DB where
  users := .empty
  accessSessions := .empty
  emailTokens := .empty
  resetTokens := .empty
  apiKeys := .empty
  wallets := .empty
  ledger := .empty
  orders := .empty
  events := .empty
  refunds := .empty
  budgets := .empty
  prices := .empty
  requests := .empty
  attempts := .empty
  outbox := []
  actions := []

end Kunlun
