import Kunlun.Budget
import Kunlun.Lib.Binary64
import Kunlun.Lib.Except

/-!
# Model requests (`services/gateway_billing.py`, `services/reconciliation_maintenance.py`)

Admission takes a hold on the wallet, and settlement or release takes it out again.
-/

namespace Kunlun

/-! ## Tokens and cost -/

/-- `math.ceil(n / d)`: the division goes through a float. -/
def ceilDiv (n d : Nat) : Except Exc Int :=
  match Binary64.quotient? n d with
  | some q => .ok ⌈q⌉
  | none => .error .overflowError

def estimateTokens (value : Json) : Except Exc Int := do
  return max 1 (← ceilDiv value.dumps.length 4)

def protocolItems (value : Json) (field : String) : Nat :=
  match value.get? (py field) with
  | some (.arr items) => items.length
  | _ => 0

def inputTokenReservationUpperBound (value : Json) : Except Exc Int :=
  match utf8Length? value.dumps with
  | some bytes =>
    .ok (max 1 (bytes + 4096 + 32 * (protocolItems value "messages" + protocolItems value "tools")))
  | none => .error .unicodeEncodeError

def tokenCost (tokens pricePerMillion : Int) : Except Exc Int :=
  if tokens ≤ 0 ∨ pricePerMillion ≤ 0 then .ok 0
  else ceilDiv (tokens * pricePerMillion).toNat 1000000

theorem ceilDiv_nonneg {n d : Nat} {c : Int} (h : ceilDiv n d = .ok c) : 0 ≤ c := by
  unfold ceilDiv at h
  split at h
  · rename_i q hq
    rw [← Except.ok.inj h]
    exact Int.ceil_nonneg (Binary64.quotient?_nonneg hq)
  · cases h

theorem tokenCost_nonneg {tokens price c : Int} (h : tokenCost tokens price = .ok c) : 0 ≤ c := by
  unfold tokenCost at h
  split at h
  · exact (Except.ok.inj h).le
  · exact ceilDiv_nonneg h

/-- `usage`: input tokens, output tokens, and whether they are an estimate. -/
def usageFromResponse (response : Json) (fallbackInput : Int) : Except Exc (Int × Int × Bool) := do
  let estimated : Except Exc (Int × Int × Bool) := do
    let output := match response.get? (py "choices") with
      | some (.arr choices) => .arr choices
      | _ => .str []
    return (fallbackInput, ← estimateTokens output, true)
  match response.get? (py "usage") with
  | some (.obj usage) =>
    let count (name other : String) := ((Json.obj usage).get? (py name)).orElse fun _ =>
      (Json.obj usage).get? (py other)
    match (count "prompt_tokens" "input_tokens").bind Json.asInt?,
        (count "completion_tokens" "output_tokens").bind Json.asInt? with
    | some prompt, some completion =>
      if 0 ≤ prompt ∧ 0 ≤ completion then return (prompt, completion, false) else estimated
    | _, _ => estimated
  | _ => estimated

/-- `ORDER BY version DESC`, the first row. -/
def getPrice (model : String) (d : DB) : Option ModelPrice :=
  Table.firstDesc (fun p => (p.version : Int))
    (d.prices.rows.filter fun p => p.model = model ∧ p.active)

/-! ## Admission -/

structure Reservation where
  requestId : Id
  amount : Int
  estimatedInputTokens : Int
  inputPrice : Int
  outputPrice : Int
  deriving DecidableEq

structure ReserveArgs where
  userId : Id
  apiKeyId : Id
  model : String
  billablePayload : Json
  maxOutputTokens : Int
  idempotencyKey : Option String
  /-- What `uuid4` draws. -/
  requestId : Id
  /-- What the clock says at the two readings of the budget, and at the insert. -/
  selectNow : Time
  updateNow : Time
  createdAt : Time

def requestWithKey (userId : Id) (key : Option String) (d : DB) : Option ModelRequest :=
  match key with
  | none => none
  | some k =>
    if k = "" then none else d.requests.rows.find? fun r => r.userId = userId ∧
      r.idempotencyKey = some k

def reservedRequest (a : ReserveArgs) (price : ModelPrice) (amount estimatedInput : Int)
    (budgetId : Option Id) :
    ModelRequest where
  id := a.requestId
  userId := a.userId
  apiKeyId := a.apiKeyId
  budgetId := budgetId
  idempotencyKey := a.idempotencyKey
  requestedModel := a.model
  finalModel := none
  finalProvider := none
  status := .reserved
  priceVersion := price.version
  inputPrice := price.inputMicrousdPerMillion
  outputPrice := price.outputMicrousdPerMillion
  reservedMicrousd := amount
  chargedMicrousd := 0
  upstreamCostMicrousd := 0
  inputTokens := estimatedInput
  outputTokens := 0
  usageEstimated := true
  fallbackCount := 0
  failureCategory := none
  createdAt := a.createdAt

def insertReserved (a : ReserveArgs) (price : ModelPrice) (amount estimatedInput : Int)
    (budgetId : Option Id) :
    Service Unit := do
  Tx.add (DB.insertRequest (reservedRequest a price amount estimatedInput budgetId))
  postTransaction a.userId .reserve a.requestId ("model:" ++ a.requestId ++ ":reserve")
    [(.customerAvailable, -amount), (.customerReserved, amount)]
  Tx.commit

/-- The transaction of an admission, from the lock on the user row to the commit. -/
def admission (a : ReserveArgs) (price : ModelPrice) (amount estimatedInput : Int) : Service Unit :=
  do
  let found ← Tx.select fun d => d.users.get? a.userId
  let user ← Tx.orRollback found (.billing "账户不可用" 403)
  Tx.rollbackIf (user.status ≠ .active) (.billing "账户不可用" 403)
  let found ← Tx.select fun d => (d.apiKeys.get? a.apiKeyId).filter fun k => k.userId = a.userId
  let key ← Tx.orRollback found (.billing "API Key 已失效" 401)
  Tx.rollbackIf (key.status ≠ .active) (.billing "API Key 已失效" 401)
  let locked ← Tx.execute (DB.updateWallets (fun w => w.userId = a.userId) fun w => w)
  Tx.rollbackIf (locked ≠ 1) (.billing "钱包不存在" 402)
  let budget ← Tx.select (activeBudget a.userId a.selectNow)
  let held ← Tx.execute (DB.updateWallets
    (fun w => decide (w.userId = a.userId) && decide (amount ≤ w.balanceMicrousd))
    fun w => { w with
      balanceMicrousd := w.balanceMicrousd - amount
      reservedMicrousd := w.reservedMicrousd + amount })
  Tx.rollbackIf (held ≠ 1) (.billing "余额不足" 402)
  match budget with
  | none => insertReserved a price amount estimatedInput none
  | some b => do
    Tx.rollbackIf (b.limitMicrousd - b.spentMicrousd - b.reservedMicrousd < amount)
      (.billing "预算不足" 402)
    let taken ← Tx.execute (DB.updateBudgets
      (fun x => decide (x.id = b.id) &&
        (decide (x.userId = a.userId) && decide (x.status = .active) &&
        decide (x.periodStart ≤ a.updateNow) && decide (a.updateNow < x.periodEnd) &&
        decide (amount ≤ x.limitMicrousd - x.spentMicrousd - x.reservedMicrousd)))
      fun x => { x with reservedMicrousd := x.reservedMicrousd + amount })
    Tx.rollbackIf (taken ≠ 1) (.billing "预算已更新或并发占用，请重试" 409)
    insertReserved a price amount estimatedInput (some b.id)

def reserveModelRequest (a : ReserveArgs) : Service Reservation := do
  let found ← Tx.select (getPrice a.model)
  let price ← Tx.orRaise found (.billing "模型不存在或未定价" 404)
  Tx.raiseIf (price.maxOutputTokens < a.maxOutputTokens) (.billing "请求输出上限超过模型策略" 422)
  let estimatedInput ← Tx.lift (estimateTokens a.billablePayload)
  let reservedInput ← Tx.lift (inputTokenReservationUpperBound a.billablePayload)
  let inputCost ← Tx.lift (tokenCost reservedInput price.inputMicrousdPerMillion)
  let outputCost ← Tx.lift (tokenCost a.maxOutputTokens price.outputMicrousdPerMillion)
  let amount := max 1 (inputCost + outputCost)
  let existing ← Tx.select (requestWithKey a.userId a.idempotencyKey)
  Tx.raiseIf (existing.isSome) (.billing "幂等键已用于其他请求" 409)
  conflictsAs (.billing "并发请求冲突，请使用新的幂等键重试" 409) (admission a price amount estimatedInput)
  return ⟨a.requestId, amount, estimatedInput, price.inputMicrousdPerMillion,
    price.outputMicrousdPerMillion⟩

structure AttemptArgs where
  requestId : Id
  ordinal : Nat
  provider : String
  model : String
  status : String
  statusCode : Option Int
  failureCategory : Option String
  /-- What `uuid4` draws. -/
  id : Id

def recordAttempt (a : AttemptArgs) : Service Unit := do
  Tx.add (DB.insertAttempt
    ⟨a.id, a.requestId, a.ordinal, a.provider, a.model, a.status, a.statusCode, a.failureCategory⟩)
  Tx.commit

/-! ## The end of a hold -/

/-- The unit of work writes a column only where the object differs from the row it loaded. -/
def changed {α : Type} [DecidableEq α] (loaded set current : α) : α :=
  if set = loaded then current else set

/-- The row after the flush of an object that was loaded as `loaded` and set to `set`. -/
def ModelRequest.flush (loaded set current : ModelRequest) : ModelRequest := { current with
  finalModel := changed loaded.finalModel set.finalModel current.finalModel
  finalProvider := changed loaded.finalProvider set.finalProvider current.finalProvider
  status := changed loaded.status set.status current.status
  chargedMicrousd := changed loaded.chargedMicrousd set.chargedMicrousd current.chargedMicrousd
  upstreamCostMicrousd :=
    changed loaded.upstreamCostMicrousd set.upstreamCostMicrousd current.upstreamCostMicrousd
  inputTokens := changed loaded.inputTokens set.inputTokens current.inputTokens
  outputTokens := changed loaded.outputTokens set.outputTokens current.outputTokens
  usageEstimated := changed loaded.usageEstimated set.usageEstimated current.usageEstimated
  fallbackCount := changed loaded.fallbackCount set.fallbackCount current.fallbackCount
  failureCategory := changed loaded.failureCategory set.failureCategory current.failureCategory }

def DB.flushRequest (loaded set : ModelRequest) : DB → Option DB :=
  DB.flushing (DB.updateRequests (fun r => r.id = loaded.id) (ModelRequest.flush loaded set))

/-- Takes the hold out of the wallet and out of the budget it was admitted under. -/
def takeHold (request : ModelRequest) (back charged : Int) : Service Unit := do
  let taken ← Tx.execute (DB.updateWallets
    (fun w => decide (w.userId = request.userId) && decide
      (request.reservedMicrousd ≤ w.reservedMicrousd))
    fun w => { w with
      reservedMicrousd := w.reservedMicrousd - request.reservedMicrousd
      balanceMicrousd := w.balanceMicrousd + back })
  Tx.rollbackIf (taken ≠ 1) (.billing "钱包预授权状态异常" 409)
  match request.budgetId with
  | none => return ()
  | some budgetId => do
    let taken ← Tx.execute (DB.updateBudgets
      (fun b => decide (b.id = budgetId) && decide (request.reservedMicrousd ≤ b.reservedMicrousd))
      fun b => { b with
        reservedMicrousd := b.reservedMicrousd - request.reservedMicrousd
        spentMicrousd := b.spentMicrousd + charged })
    Tx.rollbackIf (taken ≠ 1) (.billing "预算预授权状态异常" 409)

/-- The end of a settlement and of a release: the hold, the journal, the row and the commit, whose
flush fails where a column does not hold what is `written`. -/
def finishHold (request set : ModelRequest) (back charged : Int) (kind : LedgerKind)
    (idempotencyKey : String) (entries : List (Account × Int)) (written : Bool) : Service Unit := do
  takeHold request back charged
  postTransaction request.userId kind request.id idempotencyKey entries
  Tx.raiseIf (written = false) .dataError
  Tx.add (DB.flushRequest request set)
  Tx.commit

structure SettleArgs where
  requestId : Id
  response : Json
  provider : String
  fallbackCount : Nat
  forceUsageEstimated : Bool
  upstreamInputPrice : Option Int
  upstreamOutputPrice : Option Int
  upstreamCostOverride : Option Int
  allowedStatuses : List RequestStatus
  /-- `str` of a value that is no text. -/
  text : Json → PyStr

/-- `str(response.get("model") or request.requested_model)` -/
def finalModel (a : SettleArgs) (request : ModelRequest) : PyStr :=
  match (a.response.get? (py "model")).filter Json.truthy with
  | some (.str model) => model
  | some v => a.text v
  | none => py request.requestedModel

/-- A text column of that length holds the text, in PostgreSQL. -/
def fitsText (length : Nat) (s : PyStr) : Bool :=
  s.length ≤ length ∧ ∀ c ∈ s, c ≠ 0 ∧ ¬ (0xD800 ≤ c ∧ c ≤ 0xDFFF)

/-- A `BIGINT` holds the number. -/
def fitsBigint (n : Int) : Bool := -2 ^ 63 ≤ n ∧ n < 2 ^ 63

/-- What a settlement writes of the answer fits its columns: the row, and the legs of the
journal. -/
def fitsColumns (a : SettleArgs) (request : ModelRequest)
    (inputTokens outputTokens customerCost upstream : Int) : Bool :=
  fitsText 120 (finalModel a request) &&
    [inputTokens, outputTokens, customerCost, upstream].all fitsBigint

/-- The legs of a settlement, in the order in which the source appends them. -/
def settleEntries (reserved customerCost upstreamCost : Int) : List (Account × Int) :=
  let charged := min customerCost reserved
  [(.customerReserved, -reserved)] ++
    (if reserved - charged ≠ 0 then [(.customerAvailable, reserved - charged)] else []) ++
    (if customerCost ≠ 0 then [(.platformRevenue, customerCost)] else []) ++
    (if charged < customerCost then [(.platformRisk, -(customerCost - charged))] else []) ++
    (if upstreamCost ≠ 0 then
      [(.platformProviderExpense, upstreamCost), (.platformProviderPayable, -upstreamCost)] else [])

def upstreamCost (a : SettleArgs) (request : ModelRequest)
    (inputTokens outputTokens : Int) : Except Exc Int :=
  match a.upstreamCostOverride with
  | some cost => .ok cost
  | none => do
    let input ← tokenCost inputTokens (a.upstreamInputPrice.getD request.inputPrice)
    let output ← tokenCost outputTokens (a.upstreamOutputPrice.getD request.outputPrice)
    return input + output

/-- The object after a settlement. -/
def settledRequest (a : SettleArgs) (request : ModelRequest) (inputTokens outputTokens : Int)
    (usageEstimated : Bool) (customerCost upstream : Int) : ModelRequest := { request with
  status := if customerCost ≤ request.reservedMicrousd then .settled else .underReserved
  finalModel := some (finalModel a request)
  finalProvider := some a.provider
  chargedMicrousd := min customerCost request.reservedMicrousd
  upstreamCostMicrousd := upstream
  inputTokens := inputTokens
  outputTokens := outputTokens
  usageEstimated := usageEstimated
  fallbackCount := a.fallbackCount }

/-- The status check of a settlement, on an unlocked row. -/
def settleable (requestId : Id) (allowedStatuses : List RequestStatus) : Service ModelRequest := do
  let found ← Tx.select fun d => d.requests.get? requestId
  let request ← Tx.orRaise found (.billing "请求不处于可结算状态" 409)
  Tx.raiseIf (request.status ∉ allowedStatuses) (.billing "请求不处于可结算状态" 409)
  return request

/-- What follows the check, with the row that the check loaded. -/
def settleAdmitted (a : SettleArgs) (request : ModelRequest) : Service (Int × Bool) := do
  let (inputTokens, outputTokens, estimated) ← Tx.lift
    (usageFromResponse a.response request.inputTokens)
  let usageEstimated := estimated || a.forceUsageEstimated
  let inputCost ← Tx.lift (tokenCost inputTokens request.inputPrice)
  let outputCost ← Tx.lift (tokenCost outputTokens request.outputPrice)
  let customerCost := inputCost + outputCost
  let upstream ← Tx.lift (upstreamCost a request inputTokens outputTokens)
  Tx.raiseIf (upstream < 0) (.billing "上游成本不能为负数" 422)
  let charged := min customerCost request.reservedMicrousd
  finishHold request (settledRequest a request inputTokens outputTokens usageEstimated
    customerCost upstream)
    (request.reservedMicrousd - charged) charged .settle ("model:" ++ request.id ++ ":settle")
    (settleEntries request.reservedMicrousd customerCost upstream)
    (fitsColumns a request inputTokens outputTokens customerCost upstream)
  return (charged, usageEstimated)

def settleModelRequest (a : SettleArgs) : Service (Int × Bool) := do
  let request ← settleable a.requestId a.allowedStatuses
  settleAdmitted a request

structure ReleaseArgs where
  requestId : Id
  failureCategory : String
  allowedStatuses : List RequestStatus
  finalStatus : RequestStatus
  ledgerKind : LedgerKind

def releasedRequest (a : ReleaseArgs) (request : ModelRequest) : ModelRequest := { request with
  status := a.finalStatus
  failureCategory := some a.failureCategory }

/-- The status check of a release, on an unlocked row. It is not an error to fail it. -/
def releasable (requestId : Id) (allowedStatuses : List RequestStatus) (d : DB) :
    Option ModelRequest :=
  (d.requests.get? requestId).filter fun r => r.status ∈ allowedStatuses

def releaseAdmitted (a : ReleaseArgs) (request : ModelRequest) : Service Unit :=
  finishHold request (releasedRequest a request) request.reservedMicrousd 0 a.ledgerKind
    ("model:" ++ request.id ++ ":release")
    [(.customerReserved, -request.reservedMicrousd), (.customerAvailable, request.reservedMicrousd)]
      true

def releaseModelRequest (a : ReleaseArgs) : Service Unit := do
  let found ← Tx.select (releasable a.requestId a.allowedStatuses)
  match found with
  | none => return ()
  | some request => releaseAdmitted a request

structure MarkArgs where
  requestId : Id
  failureCategory : String
  provider : Option String
  fallbackCount : Option Nat

def pendingRequest (a : MarkArgs) (request : ModelRequest) : ModelRequest := { request with
  status := .pendingReconciliation
  failureCategory := some a.failureCategory
  finalProvider := a.provider.or request.finalProvider
  fallbackCount := a.fallbackCount.getD request.fallbackCount }

def markAdmitted (a : MarkArgs) (request : ModelRequest) : Service Unit := do
  Tx.add (DB.flushRequest request (pendingRequest a request))
  Tx.commit

def markPendingReconciliation (a : MarkArgs) : Service Unit := do
  let found ← Tx.select (releasable a.requestId [.reserved])
  match found with
  | none => return ()
  | some request => markAdmitted a request

/-- The sweeper. Its caller commits, with nothing else on these tables. -/
def recoverStaleModelReservations (leaseSeconds : Int) (now : Time) : Service Nat := do
  Tx.raiseIf (¬ (60 ≤ leaseSeconds ∧ leaseSeconds ≤ 86400))
    (.valueError "lease_seconds must be between 60 and 86400")
  let swept ← Tx.execute (DB.updateRequests
    (fun r => decide (r.status = .reserved) && decide (r.createdAt ≤ now - leaseSeconds * second))
    fun r => { r with
      status := .pendingReconciliation
      failureCategory := some "reservation_lease_expired" })
  Tx.commit
  return swept

end Kunlun
