import Kunlun.Gateway
import Kunlun.Lib.Handlers
import Kunlun.Synthesis

/-!
# Chat completions (`app/__init__.py`, `gateway.py`)

The handler admits a request, tries the eligible clients one after the other and ends the
hold. What the clients and the safety service answer, and what the network does, are fields
of the values that stand for them. Each session is one atomic step: what may happen inside a
session of billing is the subject of `Kunlun.Finalizers`.
-/

namespace Kunlun.Completions

/-! ## Failures -/

structure ProviderError where
  statusCode : Int
  category : String
  safeToFailover : Bool
  requestMayBeBillable : Bool
  deriving DecidableEq

/-- `ProviderError.__init__` -/
def providerError (statusCode : Int) (category : Option String)
    (safeToFailover requestMayBeBillable : Option Bool) :
    ProviderError where
  statusCode := statusCode
  category := (category.filter (· ≠ "")).getD ("provider_http_" ++ toString statusCode)
  safeToFailover := safeToFailover.getD (statusCode = 429)
  requestMayBeBillable := requestMayBeBillable.getD (500 ≤ statusCode)

/-- What is raised in the handler. -/
inductive Failure where
  | provider (e : ProviderError)
  | cancelled
  /-- By one of its sessions. -/
  | raised (e : Exc)
  | other
  deriving DecidableEq

/-- What an awaited call raises that raises no error of a provider. -/
inductive Interrupt where
  | cancelled | other
  deriving DecidableEq

def Interrupt.failure : Interrupt → Failure
  | .cancelled => .cancelled
  | .other => .other

/-! ## Clients -/

/-- An open stream: the chunks that arrive, how their iterator ends, and how `close` does. -/
structure UpstreamStream where
  chunks : List Bytes
  ending : Except Failure Unit
  close : Except Interrupt Unit

/-- A client, and what awaiting it gives. -/
structure Client where
  providerName : Option String
  supportsModel : Option (String → Bool)
  upstreamPrices : Option (String → Int → Int → Int × Int)
  call : Json → Except Failure Json
  openStream : Option (Json → Except Failure UpstreamStream)
  /-- What `uuid4` draws for the record of its attempt. -/
  attemptId : Id

def Client.name (client : Client) (index : Nat) : String :=
  (client.providerName.filter (· ≠ "")).getD ("provider-" ++ toString (index + 1))

def Client.supports (client : Client) (model : String) : Bool :=
  match client.supportsModel with
  | some predicate => predicate model
  | none => true

/-- The dictionary that the call gives. -/
def Client.completion (client : Client) (payload : Json) : Except Failure Json := do
  let result ← client.call payload
  if result.isObj then return result
  else throw (.provider (providerError 502 (some "provider_invalid_payload")
    (some false) (some true)))

def Client.prices (client : Client) (model : String)
    (fallbackInput fallbackOutput : Int) : Int × Int :=
  match client.upstreamPrices with
  | some resolver => resolver model fallbackInput fallbackOutput
  | none => (fallbackInput, fallbackOutput)

/-! ## Content safety -/

structure SafetyDecision where
  allowed : Bool
  reasonCode : String
  decisionId : Option String

/-- What awaiting a check gives. -/
inductive SafetyAnswer where
  | decision (d : SafetyDecision)
  /-- `ContentSafetyError` -/
  | unavailable
  | interrupted (i : Interrupt)

structure SafetyAudit where
  id : Id
  userId : Id
  apiKeyId : Id
  requestId : Option Id
  phase : String
  outcome : String
  reasonCode : String
  decisionId : Option String
  policyVersion : Option String

/-! ## Requests and responses -/

structure ChatCompletionRequest where
  model : String
  messages : List Json
  maxTokens : Option Int
  maxCompletionTokens : Option Int
  stream : Bool
  /-- `model_dump(exclude_none=True)` -/
  dump : List (PyStr × Json)

structure Settings where
  defaultOutputTokens : Int
  maxOutputTokens : Int
  contentSafetyPolicyVersion : String

structure ChatArgs where
  payload : ChatCompletionRequest
  userId : Id
  apiKeyId : Id
  idempotencyKey : Option String
  orderedClients : List Client
  settings : Settings
  /-- The kind, the model and the content of a check. -/
  contentSafety : Option (String → String → Json → SafetyAnswer)
  /-- What `uuid4` draws. -/
  requestId : Id
  inputAuditId : Id
  outputAuditId : Id
  /-- What the clock says in `reserve_model_request`. -/
  selectNow : Time
  updateNow : Time
  createdAt : Time
  /-- `int(time.time())` -/
  now : Int
  /-- `str` of a value that is no text. -/
  text : Json → PyStr

/-- What a forwarded stream needs to know. -/
structure Forwarding where
  reservation : Reservation
  index : Nat
  provider : String
  upstreamPrices : Int × Int
  stream : UpstreamStream

inductive Response where
  | error (statusCode : Int) (message code : String) (requestId : Option Id)
  | completion (content : Json) (requestId : Id) (provider : String)
  | synthesized (a : SynthesizeArgs) (requestId : Id) (provider : String)
  | forwarded (f : Forwarding) (requestId : Id)

/-! ## Scenes -/

/-- What sessions of others do: a call of the gateway, or a record of another request. -/
inductive Neighbour where
  | op (op : Op)
  | attempt (a : AttemptArgs)

def Neighbour.act : Neighbour → DB → DB
  | .op call, d => exec call d
  | .attempt a, d => (Tx.run (recordAttempt a) d).2

/-- The clients that have been called, by index and with the payload, and the audits. -/
structure Own where
  called : List (Nat × Json)
  audits : Table SafetyAudit SafetyAudit.id

abbrev Chat (α : Type) := Handler DB Neighbour Own Failure α

def session {α : Type} (x : Service α) : Chat α := Handler.session Neighbour.act Failure.raised x

def noteCall (index : Nat) (payload : Json) : Chat Unit :=
  Handler.note fun g => .ok ((), { g with called := g.called ++ [(index, payload)] })

/-- A session that adds an audit and commits. -/
def addAudit (audit : SafetyAudit) : Chat Unit :=
  Handler.note fun g =>
    match g.audits.insert? audit with
    | some audits => .ok ((), { g with audits := audits })
    | none => .error (.raised Violation.violation)

theorem id_bound (requestId : Id) (x : SafetyAudit) :
    ({ x with requestId := some requestId } : SafetyAudit).id = x.id :=
  rfl

/-- The audit of the input is given its request. -/
def bindAudit (auditId requestId : Id) : Chat Unit :=
  Handler.note fun g => .ok ((), { g with
    audits := g.audits.update (fun x => x.id = auditId)
      (fun x => { x with requestId := some requestId })
      (id_bound requestId) })

/-! ## The payload -/

/-- `d[key] = value` -/
def setItem (items : List (PyStr × Json)) (key : String) (value : Json) : List (PyStr × Json) :=
  if items.any fun p => p.1 = py key then items.map fun p => if p.1 = py key then
  (p.1, value) else p
  else items ++ [(py key, value)]

/-- `d.pop(key, None)` -/
def popItem (items : List (PyStr × Json)) (key : String) : List (PyStr × Json) :=
  items.filter fun p => p.1 ≠ py key

/-- `d.setdefault(key, value)` -/
def setDefault (items : List (PyStr × Json)) (key : String) (value : Json) : List (PyStr × Json) :=
  if items.any fun p => p.1 = py key then items else items ++ [(py key, value)]

namespace ChatArgs

/-- `payload.max_completion_tokens or payload.max_tokens or settings.default_output_tokens` -/
def maxOutput (a : ChatArgs) : Int :=
  ((a.payload.maxCompletionTokens.filter (· ≠ 0)).or (a.payload.maxTokens.filter (· ≠ 0))).getD
    a.settings.defaultOutputTokens

def directUpstreamStream (a : ChatArgs) : Bool := a.payload.stream && a.contentSafety.isNone

def upstreamItems (a : ChatArgs) : List (PyStr × Json) :=
  let items := setItem a.payload.dump "messages" (.arr a.payload.messages)
  let items := setItem items "stream" (.bool a.directUpstreamStream)
  let items := popItem items "max_completion_tokens"
  let items := setItem items "max_tokens" (.int a.maxOutput)
  if a.directUpstreamStream then
  setItem items "stream_options" (.obj [(py "include_usage", .bool true)])
  else popItem items "stream_options"

def upstreamPayload (a : ChatArgs) : Json := .obj a.upstreamItems

def billablePayload (a : ChatArgs) : Json :=
  .obj (a.upstreamItems.filter fun p => p.1 ≠ py "stream" ∧ p.1 ≠ py "stream_options")

/-- `open_stream`, if the response is forwarded and the client has it. -/
def openStream (a : ChatArgs) (client : Client) : Option (Json → Except Failure UpstreamStream) :=
  client.openStream.filter fun _ => a.directUpstreamStream

def eligible (a : ChatArgs) : List Client := a.orderedClients.filter fun client =>
    client.supports a.payload.model

def reserveArgs (a : ChatArgs) : ReserveArgs where
  userId := a.userId
  apiKeyId := a.apiKeyId
  model := a.payload.model
  billablePayload := a.billablePayload
  maxOutputTokens := a.maxOutput
  idempotencyKey := a.idempotencyKey
  requestId := a.requestId
  selectNow := a.selectNow
  updateNow := a.updateNow
  createdAt := a.createdAt

end ChatArgs

/-- `[A-Za-z0-9][A-Za-z0-9._:-]{0,119}` -/
def validIdempotencyKey (key : String) : Bool :=
  let alphanumeric (c : Char) : Bool := c.toNat < 128 && c.isAlphanum
  match key.toList with
  | [] => false
  | c :: rest => alphanumeric c && (rest.all fun c => alphanumeric c || c ∈ ['.', '_', ':', '-']) &&
      decide (rest.length ≤ 119)

/-! ## What a response can be made of -/

mutual

/-- No float in it is infinite, or no number. -/
def compliant : Json → Bool
  | .float r => r ∉ [py "NaN", py "Infinity", py "-Infinity"]
  | .arr items => compliantItems items
  | .obj items => compliantPairs items
  | _ => true

def compliantItems : List Json → Bool
  | [] => true
  | x :: xs => compliant x && compliantItems xs

def compliantPairs : List (PyStr × Json) → Bool
  | [] => true
  | p :: ps => compliant p.2 && compliantPairs ps

end

/-- `JSONResponse` raises on a number that JSON has not, and on a lone surrogate. -/
def renders (content : Json) : Bool := compliant content && (utf8? content.dumps).isSome

/-- A header is encoded as Latin-1. -/
def latin1 (header : String) : Bool := header.toList.all fun c => c.toNat < 256

/-! ## The end of a hold -/

def isBillingError : Exc → Bool
  | .billing .. => true
  | _ => false

/-- A request that has been admitted. -/
structure Admitted where
  args : ChatArgs
  reservation : Reservation

namespace Admitted

variable (c : Admitted) (index : Nat) (client : Client)

def prices : Int × Int :=
  client.prices c.args.payload.model c.reservation.inputPrice c.reservation.outputPrice

def attempt (status : String) (statusCode : Option Int)
    (failureCategory : Option String) : AttemptArgs where
  requestId := c.reservation.requestId
  ordinal := index + 1
  provider := client.name index
  model := c.args.payload.model
  status := status
  statusCode := statusCode
  failureCategory := failureCategory
  id := client.attemptId

def mark (failureCategory provider : String) : MarkArgs :=
  ⟨c.reservation.requestId, failureCategory, some provider, some index⟩

def release (failureCategory : String) : ReleaseArgs :=
  ⟨c.reservation.requestId, failureCategory, [.reserved], .failed, .release⟩

def settle (provider : String) (prices : Int × Int) (response : Json)
    (estimated : Bool) : SettleArgs where
  requestId := c.reservation.requestId
  response := response
  provider := provider
  fallbackCount := index
  forceUsageEstimated := estimated
  upstreamInputPrice := some prices.1
  upstreamOutputPrice := some prices.2
  upstreamCostOverride := none
  allowedStatuses := [.reserved]
  text := c.args.text

/-- The settlement, or the mark after its `BillingError`, and whether it is the settlement. -/
def settleOrMark (provider : String) (prices : Int × Int) (response : Json)
    (estimated : Bool) : Service Bool :=
  Tx.tryExcept
    (do
      let _ ← settleModelRequest (c.settle index provider prices response estimated)
      return true)
    isBillingError fun _ => do
      markPendingReconciliation (c.mark index "settlement_failed" provider)
      return false

def refuse (statusCode : Int) (message code : String) : Response :=
  .error statusCode message code (some c.reservation.requestId)

end Admitted

/-! ## The check of the input -/

/-- The outcome of a check, its reason and the id of its decision. -/
structure SafetyOutcome where
  outcome : String
  reasonCode : String
  decisionId : Option String

def SafetyAnswer.outcome : SafetyAnswer → Except Failure SafetyOutcome
  | .decision d => .ok ⟨if d.allowed then "allowed" else "blocked", d.reasonCode, d.decisionId⟩
  | .unavailable => .ok ⟨"unavailable", "service_unavailable", none⟩
  | .interrupted i => .error i.failure

def ChatArgs.audit (a : ChatArgs) (id : Id) (requestId : Option Id) (phase : String)
    (o : SafetyOutcome) : SafetyAudit where
  id := id
  userId := a.userId
  apiKeyId := a.apiKeyId
  requestId := requestId
  phase := phase
  outcome := o.outcome
  reasonCode := o.reasonCode
  decisionId := o.decisionId
  policyVersion := if a.settings.contentSafetyPolicyVersion = "" then none
    else some a.settings.contentSafetyPolicyVersion

/-- The response to a request that its check stops. -/
def checkInput (a : ChatArgs) : Chat (Option Response) :=
  match a.contentSafety with
  | none => return none
  | some check => do
    let o ← Handler.lift (check "input" a.payload.model a.upstreamPayload).outcome
    addAudit (a.audit a.inputAuditId none "input" o)
    if o.outcome = "unavailable" then
      return some (.error 503 "内容安全服务不可用，已拒绝本次请求" "safety_unavailable" none)
    else if o.outcome = "blocked" then
      return some (.error 403 "请求未通过内容安全策略" "content_policy_rejected" none)
    else return none

/-! ## One client -/

section Client

variable (c : Admitted) (index : Nat) (client : Client)

/-- `upstream_stream.close()` before the exception goes on. -/
def closeAndRaise {α : Type} (stream : UpstreamStream) (f : Failure) : Chat α :=
  match stream.close with
  | .error .cancelled => Handler.raise .cancelled
  | _ => Handler.raise f

def forward (openStream : Json → Except Failure UpstreamStream) : Chat Response := do
  let stream ← Handler.lift (openStream c.args.upstreamPayload)
  Handler.tryExcept (session
    (recordAttempt (c.attempt index client "stream_opened" (some 200) none)))
    (closeAndRaise stream)
  Handler.lift (if latin1 (client.name index) then
    .ok (.forwarded ⟨c.reservation, index, client.name index, c.prices client, stream⟩
      c.reservation.requestId) else .error .other)

def checkOutput (result : Json) : Chat (Option String) :=
  match c.args.contentSafety with
  | none => return none
  | some check => do
    let o ← Handler.lift
      (check "output" c.args.payload.model ((result.get? (py "choices")).getD (.arr []))).outcome
    addAudit (c.args.audit c.args.outputAuditId (some c.reservation.requestId) "output" o)
    return some o.outcome

/-- The result with the items that a completion has. -/
def completed (result : Json) : Json :=
  match result with
  | .obj items =>
    let items := setDefault items "id"
      (.str (py "chatcmpl_" ++ (py c.reservation.requestId).filter (· ≠ 45)))
    let items := setDefault items "object" (.str (py "chat.completion"))
    let items := setDefault items "created" (.int c.args.now)
    .obj (setDefault items "model" (.str (py c.args.payload.model)))
  | v => v

def respond (result : Json) : Except Failure Response :=
  if latin1 (client.name index) then
    if c.args.payload.stream then .ok (.synthesized
      ⟨completed c result, py c.reservation.requestId, py c.args.payload.model, c.args.now⟩
        c.reservation.requestId
      (client.name index))
    else if renders (completed c result) then
      .ok (.completion (completed c result) c.reservation.requestId (client.name index))
    else .error .other
  else .error .other

/-- What the caller is told after a settlement. -/
def answer (result : Json) (outcome : Option String) : Except Failure Response :=
  if outcome = some "unavailable" then
    .ok (c.refuse 503 "模型已完成并结算，但内容安全服务不可用，响应未返回" "safety_unavailable")
  else if outcome = some "blocked" then
    .ok (c.refuse 403 "模型响应未通过内容安全策略" "content_policy_rejected")
  else respond c index client result

def buffer : Chat Response := do
  let result ← Handler.lift (client.completion c.args.upstreamPayload)
  session (recordAttempt (c.attempt index client "succeeded" (some 200) none))
  let outcome ← checkOutput c result
  let settled ← session (c.settleOrMark index (client.name index) (c.prices client) result false)
  if settled then Handler.lift (answer c index client result outcome)
  else return c.refuse 503 "调用成功但结算待人工对账" "settlement_pending"

/-- The body of the `try`. -/
def serve : Chat Response := do
  noteCall index c.args.upstreamPayload
  match c.args.openStream client with
  | some openStream => forward c index client openStream
  | none => buffer c index client

/-- The `except` clauses: a response, or the error after which the next client is tried. -/
def handle (last : Bool) : Failure → Chat (Except ProviderError Response)
  | .provider e => do
    session (recordAttempt (c.attempt index client "failed" (some e.statusCode) (some e.category)))
    if e.requestMayBeBillable then do
      session (markPendingReconciliation (c.mark index e.category (client.name index)))
      return .ok (c.refuse 502 "上游状态不确定，已转人工对账且未自动切换" "reconciliation_pending")
    else if e.safeToFailover && !last then return .error e
    else do
      session (releaseModelRequest (c.release e.category))
      return .ok (c.refuse e.statusCode "模型供应商拒绝或不可用" e.category)
  | .cancelled => do
    session (markPendingReconciliation (c.mark index "client_disconnected" (client.name index)))
    Handler.raise .cancelled
  | _ => do
    session (markPendingReconciliation
      (c.mark index "unexpected_provider_failure" (client.name index)))
    return .ok (c.refuse 502 "上游状态不确定，已转人工对账" "reconciliation_pending")

end Client

/-! ## The handler -/

/-- The loop over the eligible clients, from an index on. -/
def tryClients (c : Admitted) : Option ProviderError → Nat → List Client → Chat Response
  | lastError, _, [] => do
    session (releaseModelRequest
      (c.release ((lastError.map ProviderError.category).getD "no_provider")))
    return c.refuse 503 "所有允许的供应商均不可用" "all_providers_failed"
  | _, index, client :: rest => do
    let served ← Handler.tryExcept (do return .ok (← serve c index client))
      (handle c index client rest.isEmpty)
    match served with
    | .ok response => return response
    | .error e => tryClients c (some e) (index + 1) rest

/-- `except BillingError` around the admission. -/
def reserveOrRefuse (a : ChatArgs) : Chat (Except Response Reservation) :=
  Handler.tryExcept (do return .ok (← session (reserveModelRequest a.reserveArgs))) fun
    | .raised (.billing message statusCode) =>
      return .error (.error statusCode message "billing_rejected" none)
    | f => Handler.raise f

def bindInputAudit (a : ChatArgs) (requestId : Id) : Chat Unit :=
  if a.contentSafety.isSome then bindAudit a.inputAuditId requestId else return ()

def chatCompletions (a : ChatArgs) : Chat Response :=
  if ∃ key ∈ a.idempotencyKey, validIdempotencyKey key = false then
    return .error 422 "Idempotency-Key 格式无效" "invalid_idempotency_key" none
  else if a.settings.maxOutputTokens < a.maxOutput then
    return .error 422 "输出 Token 上限超过平台策略" "max_output_tokens_exceeded" none
  else if a.eligible = [] then return .error 503 "当前没有可用且符合策略的模型供应商" "no_provider" none
  else do
    match ← checkInput a with
    | some response => return response
    | none =>
      match ← reserveOrRefuse a with
      | .error response => return response
      | .ok reservation => do
        bindInputAudit a reservation.requestId
        tryClients ⟨a, reservation⟩ none 0 a.eligible

end Kunlun.Completions
