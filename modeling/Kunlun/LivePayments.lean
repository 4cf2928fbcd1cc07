import Kunlun.Json
import Mathlib.Data.List.Lex

/-!
# The payment bridge (`services/live_payments.py`)

The sidecar answers with JSON of any shape, which is read field by field. What Python raises
on its own, and no handler catches, is an outcome as well.
-/

namespace Kunlun.LivePayments

abbrev Octets := List Nat

inductive BridgeExc where
  | paymentBridge (message code : String) (safeToRetry : Bool)
  | typeError
  | valueError
  | unicodeEncodeError
  deriving DecidableEq

/-- `PaymentBridgeError`, which the routes catch. -/
def BridgeExc.own : BridgeExc → Bool
  | .paymentBridge .. => true
  | _ => false

def bridgeError (message code : String) : BridgeExc := .paymentBridge message code false

/-! ## The formats -/

def isDigit (c : Nat) : Bool := 48 ≤ c && c ≤ 57

def isUpper (c : Nat) : Bool := 65 ≤ c && c ≤ 90

def isAlnum (c : Nat) : Bool := isDigit c || isUpper c || (97 ≤ c && c ≤ 122)

/-- One of `._:-`, or alphanumeric. -/
def isIdChar (c : Nat) : Bool := isAlnum c || c = 46 || c = 95 || c = 58 || c = 45

/-- `_ID` -/
def isId : PyStr → Bool
  | [] => false
  | c :: cs => isAlnum c && decide (cs.length ≤ 119) && cs.all isIdChar

/-- `_TIMESTAMP` -/
def isTimestamp (s : PyStr) : Bool :=
  decide (1 ≤ s.length) && decide (s.length ≤ 20) && s.all isDigit

/-- `_SIGNATURE` -/
def isSignature (s : PyStr) : Bool :=
  decide (s.length = 64) && s.all fun c => isDigit c || (65 ≤ c && c ≤ 70) || (97 ≤ c && c ≤ 102)

/-- `_CURRENCY` -/
def isCurrency (s : PyStr) : Bool := decide (s.length = 3) && s.all isUpper

/-- `_STATUSES` -/
def statuses : List PyStr :=
  [py "pending", py "paid", py "failed", py "refunded", py "refunding", py "closed"]

def eventTypes : List PyStr :=
  [py "payment.succeeded", py "payment.failed", py "payment.refunded", py "payment.pending",
    py "payment.closed"]

def isAmount (n : Int) : Bool := 1 ≤ n && n ≤ 100000000000000

/-! ## The validators -/

/-- `data.get(field, default)` -/
def getD (data : Json) (field : String) (default : Json) : Json :=
  (data.get? (py field)).getD default

/-- `isinstance(x, str)`, and the format. -/
def validateText (format : PyStr → Bool) (e : BridgeExc) (x : Json) : Except BridgeExc PyStr :=
  match x with
  | .str s => if format s then .ok s else .error e
  | _ => .error e

def validateOrder : Json → Except BridgeExc PyStr :=
  validateText isId (bridgeError "订单号格式无效" "invalid_order")

def validateCurrency : Json → Except BridgeExc PyStr :=
  validateText isCurrency (bridgeError "币种必须是三位大写代码" "invalid_currency")

def validateTxn : Json → Except BridgeExc PyStr :=
  validateText isId (bridgeError "供应商交易号格式无效" "invalid_provider_transaction")

/-- A truth value is an `int` to `isinstance`, and is refused first. -/
def validateAmount (x : Json) : Except BridgeExc Int :=
  match x with
  | .int n => if isAmount n then .ok n else .error (bridgeError "金额必须是允许范围内的整数" "invalid_amount")
  | _ => .error (bridgeError "金额必须是允许范围内的整数" "invalid_amount")

/-- `x not in {…}` hashes `x`, which a list or a dictionary does not survive. -/
def hashable : Json → Bool
  | .arr _ | .obj _ => false
  | _ => true

def memberOf (names : List PyStr) (e : BridgeExc) (x : Json) : Except BridgeExc PyStr :=
  match x with
  | .str s => if s ∈ names then .ok s else .error e
  | .arr _ | .obj _ => .error .typeError
  | _ => .error e

def validateStatus : Json → Except BridgeExc PyStr :=
  memberOf statuses (bridgeError "支付状态无效" "invalid_status")

def validateType : Json → Except BridgeExc PyStr :=
  memberOf eventTypes (bridgeError "支付事件类型无效" "invalid_webhook_type")

/-! ## The bridge -/

structure Url where
  scheme : PyStr
  hostname : Option PyStr

/-- What the bridge calls of the standard library. `none` is a `ValueError`. -/
structure Library where
  casefold : PyStr → PyStr
  /-- `hmac.new(key, message, sha256).hexdigest()`, which is ASCII. -/
  hmacHex : Octets → Octets → PyStr
  sha256Hex : Octets → PyStr
  loads : Octets → Option Json
  urlparse : PyStr → Option Url

structure Bridge where
  merchantId : PyStr
  secret : PyStr
  /-- `normalized_hosts` -/
  allowedHosts : List PyStr
  timestampWindowSeconds : Nat

abbrev Headers := List (PyStr × PyStr)

/-- The UTF-8 of a code point that is no surrogate. -/
def utf8Char (c : Nat) : Octets :=
  if c < 0x80 then [c]
  else if c < 0x800 then [0xC0 + c / 64, 0x80 + c % 64]
  else if c < 0x10000 then [0xE0 + c / 4096, 0x80 + c / 64 % 64, 0x80 + c % 64]
  else [0xF0 + c / 262144, 0x80 + c / 4096 % 64, 0x80 + c / 64 % 64, 0x80 + c % 64]

/-- `s.encode("utf-8")`, which refuses a lone surrogate. -/
def encode? (s : PyStr) : Option Octets :=
  if s.any fun c => 0xD800 ≤ c && c ≤ 0xDFFF then none else some (s.flatMap utf8Char)

variable (L : Library) (b : Bridge)

/-- `normalized.get(name, "")`: of two headers that fold alike, the later one counts. -/
def header (headers : Headers) (name : String) : PyStr :=
  ((headers.reverse.find? fun p => L.casefold p.1 = py name).map (·.2)).getD []

/-- An empty text when it cannot be signed. -/
def signBridgeBody (body : Octets) (timestamp nonce secret : PyStr) : PyStr :=
  if secret = [] ∨ ¬ isId nonce ∨ ¬ isTimestamp timestamp then []
  else match encode? secret with
    | some key => L.hmacHex key (timestamp ++ [46] ++ nonce ++ [46] ++ body)
    | none => []

def intOfDigits (s : PyStr) : Nat := s.foldl (fun n c => 10 * n + (c - 48)) 0

/-- `clock` is what `int(self._clock())` gives, unless it raises. -/
def checkSignedHeaders (clock : Option Int) (headers : Headers) (body : Octets) :
    Except BridgeExc Unit := do
  let timestamp := header L headers "x-kunlun-timestamp"
  let nonce := header L headers "x-kunlun-nonce"
  let signature := header L headers "x-kunlun-signature"
  if timestamp = [] ∨ nonce = [] ∨ signature = [] then
    throw (bridgeError "支付桥接响应签名缺失" "response_signature_invalid")
  if ¬ isTimestamp timestamp then throw (bridgeError "支付桥接响应时间戳无效" "response_timestamp_invalid")
  if ¬ isId nonce then throw (bridgeError "支付桥接响应 nonce 无效" "response_signature_invalid")
  if ¬ isSignature signature then throw (bridgeError "支付桥接响应签名缺失" "response_signature_invalid")
  match clock with
  | none => throw (bridgeError "支付桥接响应时间戳无效" "response_timestamp_invalid")
  | some now =>
    if b.timestampWindowSeconds < (now - intOfDigits timestamp).natAbs then
      throw (bridgeError "支付桥接响应超出时间窗口" "response_timestamp_invalid")
    if signBridgeBody L body timestamp nonce b.secret ≠ signature then
      throw (bridgeError "支付桥接响应签名无效" "response_signature_invalid")

/-! ## Requests to the sidecar -/

structure Response where
  statusCode : Nat
  headers : Headers
  chunks : List Octets

/-- The headers of a request that its result repeats. -/
structure RequestMeta where
  timestamp : PyStr
  nonce : PyStr

def sortKeys (payload : List (PyStr × Json)) : Json :=
  .obj (payload.mergeSort fun p q => decide (p.1 ≤ q.1))

def requestHeaders (body : Octets) (m : RequestMeta) : Headers :=
  [(py "Content-Type", py "application/json"), (py "X-Kunlun-Merchant", b.merchantId),
    (py "X-Kunlun-Timestamp", m.timestamp), (py "X-Kunlun-Nonce", m.nonce),
    (py "X-Kunlun-Signature", signBridgeBody L body m.timestamp m.nonce b.secret)]

/-- `_post`. The network, `send`, gives no response on an `HTTPError` or a `TimeoutError`. The
merchant id is a setting that a header can carry. -/
def post (send : PyStr → Octets → Headers → Option Response) (m : RequestMeta)
    (clock : Option Int) (path : String)
    (payload : List (PyStr × Json)) : Except BridgeExc (Json × RequestMeta) := do
  match encode? (sortKeys payload).dumps with
  | none => throw .unicodeEncodeError
  | some body =>
    match send (py path) body (requestHeaders L b body m) with
    | none => throw (bridgeError "支付桥接网络请求失败" "network_failure")
    | some response =>
      if 256 * 1024 < response.chunks.flatten.length then
        throw (bridgeError "支付桥接响应过大" "response_too_large")
      if 400 ≤ response.statusCode then throw (bridgeError "支付桥接返回失败状态" "provider_http_error")
      checkSignedHeaders L b clock response.headers response.chunks.flatten
      match L.loads response.chunks.flatten with
      | none => throw (bridgeError "支付桥接响应不是有效 JSON" "invalid_response_json")
      | some (.obj items) => return (.obj items, m)
      | some _ => throw (bridgeError "支付桥接响应结构无效" "invalid_response")

structure PaymentStatus where
  orderId : PyStr
  paymentAmountMinor : Int
  currency : PyStr
  status : PyStr
  providerTransactionId : PyStr
  deriving DecidableEq

/-- `_status` -/
def statusOf (data : Json) (orderId : PyStr) (amount : Int) (currency : PyStr)
    (transaction : Option PyStr) :
    Except BridgeExc PaymentStatus := do
  let actualOrder ← validateOrder (getD data "order_id" (.str []))
  let actualAmount ← validateAmount (getD data "payment_amount_minor" .null)
  let actualCurrency ← validateCurrency (getD data "currency" (.str []))
  let actualTxn ← validateTxn (getD data "provider_transaction_id" (.str []))
  let status ← validateStatus (getD data "status" .null)
  if (actualOrder, actualAmount, actualCurrency) ≠ (orderId, amount, currency) then
    throw (bridgeError "支付响应与订单不一致" "payment_mismatch")
  if transaction ≠ none ∧ transaction ≠ some actualTxn then
    throw (bridgeError "支付响应与订单不一致" "payment_mismatch")
  return ⟨actualOrder, actualAmount, actualCurrency, status, actualTxn⟩

/-- `self._post`, with the network and the clocks at hand. -/
abbrev Post := String → List (PyStr × Json) → Except BridgeExc (Json × RequestMeta)

structure CheckoutArgs where
  orderId : PyStr
  paymentAmountMinor : Int
  idempotencyKey : PyStr
  currency : PyStr
  returnUrl : Option PyStr

structure Checkout where
  status : PaymentStatus
  checkoutUrl : PyStr
  request : RequestMeta

def rstripDots (s : PyStr) : PyStr := (s.reverse.dropWhile (· = 46)).reverse

/-- `checkout_url` is on an allowed host. `urlparse` may raise. -/
def validateCheckoutUrl (x : Json) : Except BridgeExc PyStr :=
  match x with
  | .str url =>
    match L.urlparse url with
    | none => .error .valueError
    | some parsed =>
      if parsed.scheme = py "https" ∧
          parsed.hostname.any fun h =>
            decide (h ≠ []) && decide (rstripDots (L.casefold h) ∈ b.allowedHosts) then
        .ok url
      else .error (bridgeError "支付跳转地址无效" "invalid_checkout_url")
  | _ => .error (bridgeError "支付跳转地址无效" "invalid_checkout_url")

def checkoutPayload (a : CheckoutArgs) : List (PyStr × Json) :=
  [(py "merchant_id", .str b.merchantId), (py "order_id", .str a.orderId),
    (py "payment_amount_minor", .int a.paymentAmountMinor), (py "currency", .str a.currency),
    (py "idempotency_key", .str a.idempotencyKey)] ++
  match a.returnUrl with
  | some url => [(py "return_url", .str url)]
  | none => []

/-- The checks of `create_checkout` before its request. -/
def checkCheckout (a : CheckoutArgs) : Except BridgeExc Unit := do
  let _ ← validateOrder (.str a.orderId)
  let _ ← validateAmount (.int a.paymentAmountMinor)
  let _ ← validateCurrency (.str a.currency)
  if ¬ isId a.idempotencyKey then throw (bridgeError "支付幂等键格式无效" "invalid_idempotency_key")
  if a.returnUrl.any fun url => ¬ (py "https://").isPrefixOf url then
    throw (bridgeError "回跳地址必须使用 HTTPS" "invalid_return_url")

def createCheckout (post : Post) (a : CheckoutArgs) : Except BridgeExc Checkout := do
  checkCheckout a
  let (data, request) ← post "/v1/payments/checkout" (checkoutPayload b a)
  let transaction ← validateTxn (getD data "provider_transaction_id" (.str []))
  let status ← statusOf data a.orderId a.paymentAmountMinor a.currency (some transaction)
  let url ← validateCheckoutUrl L b (getD data "checkout_url" .null)
  return ⟨status, url, request⟩

structure StatusArgs where
  orderId : PyStr
  paymentAmountMinor : Int
  currency : PyStr
  providerTransactionId : PyStr

def checkStatusArgs (a : StatusArgs) : Except BridgeExc Unit := do
  let _ ← validateOrder (.str a.orderId)
  let _ ← validateAmount (.int a.paymentAmountMinor)
  let _ ← validateCurrency (.str a.currency)
  let _ ← validateTxn (.str a.providerTransactionId)

def statusPayload (a : StatusArgs) (extra : List (PyStr × Json)) : List (PyStr × Json) :=
  [(py "merchant_id", .str b.merchantId), (py "order_id", .str a.orderId),
    (py "payment_amount_minor", .int a.paymentAmountMinor), (py "currency", .str a.currency),
    (py "provider_transaction_id", .str a.providerTransactionId)] ++ extra

/-- `_status_call_data` -/
def statusCallData (post : Post) (path : String) (a : StatusArgs) (extra : List (PyStr × Json)) :
    Except BridgeExc (Json × PaymentStatus) := do
  checkStatusArgs a
  let (data, _) ← post path (statusPayload b a extra)
  let status ← statusOf data a.orderId a.paymentAmountMinor a.currency
    (some a.providerTransactionId)
  return (data, status)

def queryPayment (post : Post) (a : StatusArgs) : Except BridgeExc PaymentStatus := do
  let (_, status) ← statusCallData b post "/v1/payments/query" a []
  return status

structure RefundResult where
  status : PaymentStatus
  providerRefundId : PyStr

def refundPayment (post : Post) (a : StatusArgs) (idempotencyKey : PyStr) :
    Except BridgeExc RefundResult := do
  if ¬ isId idempotencyKey then throw (bridgeError "退款幂等键格式无效" "invalid_idempotency_key")
  let (data, status) ← statusCallData b post "/v1/payments/refund" a
    [(py "idempotency_key", .str idempotencyKey)]
  let providerRefundId ← validateTxn (getD data "provider_refund_id" (.str []))
  return ⟨status, providerRefundId⟩

structure ReconcilePaymentArgs where
  orderId : PyStr
  paymentAmountMinor : Int
  currency : PyStr
  providerTransactionId : Option PyStr

def reconcilePayload (a : ReconcilePaymentArgs) : List (PyStr × Json) :=
  [(py "merchant_id", .str b.merchantId), (py "order_id", .str a.orderId),
    (py "payment_amount_minor", .int a.paymentAmountMinor), (py "currency", .str a.currency)] ++
  match a.providerTransactionId with
  | some transaction => [(py "provider_transaction_id", .str transaction)]
  | none => []

def checkReconcile (a : ReconcilePaymentArgs) : Except BridgeExc Unit := do
  let _ ← validateOrder (.str a.orderId)
  let _ ← validateAmount (.int a.paymentAmountMinor)
  let _ ← validateCurrency (.str a.currency)
  match a.providerTransactionId with
  | some transaction =>
    let _ ← validateTxn (.str transaction)
  | none => return ()

def reconcilePayment (post : Post) (a : ReconcilePaymentArgs) : Except BridgeExc PaymentStatus := do
  checkReconcile a
  let (data, _) ← post "/v1/payments/reconcile" (reconcilePayload b a)
  statusOf data a.orderId a.paymentAmountMinor a.currency a.providerTransactionId

/-! ## Webhooks -/

structure WebhookResult where
  orderId : PyStr
  paymentAmountMinor : Int
  currency : PyStr
  status : PyStr
  providerTransactionId : PyStr
  eventId : PyStr
  eventType : PyStr
  nonce : PyStr
  idempotencyKey : PyStr
  duplicate : Bool
  providerRefundId : Option PyStr
  deriving DecidableEq

/-- `_seen_nonces` and `_seen_events`, in the order of their insertion. -/
structure Seen where
  nonces : List (PyStr × PyStr)
  events : List (PyStr × (PyStr × PyStr))

section Maps

variable {α : Type}

def lookup (m : List (PyStr × α)) (k : PyStr) : Option α := (m.find? fun p => p.1 = k).map (·.2)

/-- `m[k] = v`: a key that is there keeps its place. -/
def insert (m : List (PyStr × α)) (k : PyStr) (v : α) : List (PyStr × α) :=
  if m.any fun p => p.1 = k then m.map fun p => if p.1 = k then (k, v) else p else m ++ [(k, v)]

/-- The oldest keys go when there are more than 10000. -/
def bounded (m : List (PyStr × α)) : List (PyStr × α) := m.drop (m.length - 10000)

end Maps

def Seen.record (seen : Seen) (nonce digest eventId : PyStr) : Seen where
  nonces := bounded (insert seen.nonces nonce digest)
  events := bounded (insert seen.events eventId (digest, nonce))

/-- `provider_refund_id`, which a refund has and nothing else. -/
def refundIdOf (event : Json) (eventType : PyStr) : Except BridgeExc (Option PyStr) :=
  if eventType = py "payment.refunded" then
    match validateTxn (getD event "provider_refund_id" (.str [])) with
    | .ok refundId => .ok (some refundId)
    | .error _ => .error (bridgeError "支付退款号格式无效" "invalid_provider_refund")
  else match getD event "provider_refund_id" .null with
    | .null => .ok none
    | _ => .error (bridgeError "非退款事件不得携带退款号" "invalid_provider_refund")

/-- The event, against what has been seen. -/
def readEvent (seen : Seen) (nonce digest : PyStr) (duplicate : Bool) (event : Json) :
    Except BridgeExc WebhookResult := do
  let eventId ← validateOrder (getD event "event_id" (.str []))
  let orderId ← validateOrder (getD event "order_id" (.str []))
  let amount ← validateAmount (getD event "payment_amount_minor" .null)
  let currency ← validateCurrency (getD event "currency" (.str []))
  let txn ← validateTxn (getD event "provider_transaction_id" (.str []))
  let eventType ← validateType (getD event "type" .null)
  let status ← validateStatus (getD event "status" .null)
  let refundId ← refundIdOf event eventType
  let old := lookup seen.events eventId
  if old ≠ none ∧ old ≠ some (digest, nonce) then
    throw (bridgeError "同一事件编号的回调正文不一致" "webhook_replay_conflict")
  return ⟨orderId, amount, currency, status, txn, eventId, eventType, nonce,
    py "payment:" ++ eventId, duplicate || old.isSome, refundId⟩

/-- The event of a signed body. -/
def parseWebhook (seen : Seen) (clock : Option Int) (body : Octets) (headers : Headers) :
    Except BridgeExc WebhookResult := do
  checkSignedHeaders L b clock headers body
  let nonce := header L headers "x-kunlun-nonce"
  let digest := L.sha256Hex body
  let known := lookup seen.nonces nonce
  if known ≠ none ∧ known ≠ some digest then
    throw (bridgeError "同一 nonce 的回调正文不一致" "webhook_replay_conflict")
  match L.loads body with
  | none => throw (bridgeError "支付回调不是有效 JSON" "invalid_webhook_json")
  | some (.obj items) => readEvent seen nonce digest known.isSome (.obj items)
  | some _ => throw (bridgeError "支付回调结构无效" "invalid_webhook")

/-- The maps are written under the lock, when nothing can raise any more. -/
def verifyWebhook (seen : Seen) (clock : Option Int) (body : Octets) (headers : Headers) :
    Except BridgeExc WebhookResult × Seen :=
  match parseWebhook L b seen clock body headers with
  | .ok r => (.ok r, seen.record r.nonce (L.sha256Hex body) r.eventId)
  | .error e => (.error e, seen)

end Kunlun.LivePayments
