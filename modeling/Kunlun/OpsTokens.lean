import Kunlun.ApiKeys
import Kunlun.Synthesis
import Mathlib.Algebra.Order.BigOperators.Group.Finset
import Mathlib.Data.Finset.Sort
import Mathlib.Data.List.Lex

/-!
# Operator tokens (`services/ops_tokens.py`, `auth.py`)

A token is `ops1.payload.signature`, and each of its parts is read in a way of its own. What no
handler catches is an outcome as well.
-/

namespace Kunlun.OpsTokens

inductive OpsExc where
  | opsToken (message : String)
  | unicodeEncodeError
  | typeError
  | loads (e : LoadsExc)
  deriving DecidableEq

/-- How a route ends early: with its own answer, or with what nothing catches. -/
inductive RouteExc where
  | http (status : Nat) (detail : String)
  | escaped (e : OpsExc)
  deriving DecidableEq

structure Digest where
  octets : Bytes
  size : octets.length = 32

/-- What the tokens need of the standard library. -/
structure Library where
  /-- `hmac.new(key, message, sha256).digest()` -/
  hmacSha256 : Bytes → Bytes → Digest
  loads : Bytes → Except LoadsExc Json

/-- `ALLOWED_SCOPES` -/
def allowedScopes : Finset PyStr :=
  {py "reconciliation:read", py "reconciliation:write", py "accounts:read", py "accounts:write",
    py "payments:read", py "payments:write", py "payments:risk:write", py "metrics:read"}

structure OperatorClaims where
  subject : PyStr
  scopes : Finset PyStr
  issuedAt : Int
  expiresAt : Int
  tokenId : PyStr
  deriving DecidableEq

/-! ## Encodings -/

/-- `s.encode("ascii")` -/
def encodeAscii? (s : PyStr) : Option Bytes := if ∀ c ∈ s, c < 128 then
    some (s.map Nat.toUInt8) else none

def orEncodeError (encoded : Option Bytes) : Except OpsExc Bytes :=
  match encoded with
  | some value => .ok value
  | none => .error .unicodeEncodeError

def b64encode (value : Bytes) : PyStr := Base64.encode (value.map UInt8.toNat)

/-- What is not ASCII is not base64 either. -/
def b64decode (value : PyStr) : Except OpsExc Bytes :=
  match Base64.decode (value ++ Base64.padding value.length) with
  | some octets => .ok (octets.map Nat.toUInt8)
  | none => .error (.opsToken "运维凭证编码无效")

/-- With the key that the secret gives. -/
def validateSecret (secret : PyStr) : Except OpsExc Bytes := do
  let key ← orEncodeError (utf8? secret)
  if key.length < 32 then throw (.opsToken "运维签名密钥至少需要 32 字节")
  return key

/-! ## A new token -/

structure MintArgs where
  subject : PyStr
  scopes : Finset PyStr
  ttlSeconds : Int
  now : Int
  /-- Where `secrets.token_urlsafe(18)` comes from. -/
  random : RandomBytes 18

def audience : PyStr := py "kunlun-gateway-ops"

def MintArgs.payload (a : MintArgs) : Json :=
  .obj [(py "aud", .str audience), (py "exp", .int (a.now + a.ttlSeconds)), (py "iat", .int a.now),
    (py "jti", .str (tokenUrlsafe a.random)), (py "scp", .arr (a.scopes.sort.map .str)),
    (py "sub", .str a.subject)]

def signingInput (encoded : PyStr) : PyStr := py "ops1." ++ encoded

variable (L : Library)

def mintOperatorToken (secret : PyStr) (a : MintArgs) : Except OpsExc PyStr := do
  let key ← validateSecret secret
  if a.subject = [] ∨ 200 < a.subject.length then throw (.opsToken "运维主体无效")
  if a.scopes = ∅ ∨ ¬ a.scopes ⊆ allowedScopes then throw (.opsToken "运维权限范围无效")
  if a.ttlSeconds < 30 ∨ 900 < a.ttlSeconds then throw (.opsToken "运维凭证有效期必须位于 30 到 900 秒")
  let payload ← orEncodeError (utf8? a.payload.dumpsAscii)
  let encoded := b64encode payload
  let signed ← orEncodeError (encodeAscii? (signingInput encoded))
  return signingInput encoded ++ py "." ++ b64encode (L.hmacSha256 key signed).octets

/-! ## Verification -/

/-- The second part and the third. -/
def splitToken (token : PyStr) : Except OpsExc (PyStr × PyStr) :=
  match token.splitOn 46 with
  | [head, encoded, signature] =>
    if head = py "ops1" then .ok (encoded, signature) else .error (.opsToken "运维凭证格式无效")
  | _ => .error (.opsToken "运维凭证格式无效")

def loadPayload (encoded : PyStr) : Except OpsExc Json := do
  let payload ← b64decode encoded
  match L.loads payload with
  | .ok data => .ok data
  | .error e => if e.handled then .error (.opsToken "运维凭证载荷无效") else .error (.loads e)

def textOf? : Json → Option PyStr
  | .str s => some s
  | _ => none

def textsOf? : Json → Option (List PyStr)
  | .arr items => items.mapM textOf?
  | _ => none

/-- `not isinstance(x, str) or not x` -/
def nonemptyText? (x : Json) : Option PyStr := (textOf? x).filter (· ≠ [])

def claimsOf? (data : Json) : Option OperatorClaims := do
  let subject ← (data.get? (py "sub")).bind nonemptyText?
  let scopes ← (data.get? (py "scp")).bind textsOf?
  let issuedAt ← (data.get? (py "iat")).bind Json.asInt?
  let expiresAt ← (data.get? (py "exp")).bind Json.asInt?
  let tokenId ← (data.get? (py "jti")).bind nonemptyText?
  return ⟨subject, scopes.toFinset, issuedAt, expiresAt, tokenId⟩

def readClaims (data : Json) : Except OpsExc OperatorClaims :=
  if (data.get? (py "aud")).bind textOf? ≠ some audience then .error (.opsToken "运维凭证受众无效")
  else match claimsOf? data with
    | some claims => .ok claims
    | none => .error (.opsToken "运维凭证声明无效")

def checkClaims (claims : OperatorClaims) (requiredScope : PyStr) (current : Int) :
    Except OpsExc OperatorClaims :=
  if ¬ claims.scopes ⊆ allowedScopes ∨ requiredScope ∉ claims.scopes then
  .error (.opsToken "运维凭证权限不足")
  else if current + 30 < claims.issuedAt ∨ claims.expiresAt ≤ claims.issuedAt ∨
    900 < claims.expiresAt - claims.issuedAt then
    .error (.opsToken "运维凭证时间声明无效")
  else if claims.expiresAt ≤ current then .error (.opsToken "运维凭证已过期")
  else .ok claims

def verifyOperatorToken (token secret requiredScope : PyStr) (current : Int) :
    Except OpsExc OperatorClaims := do
  let key ← validateSecret secret
  if ¬ (1 ≤ token.length ∧ token.length ≤ 4096) then throw (.opsToken "运维凭证格式无效")
  if requiredScope ∉ allowedScopes then throw (.opsToken "请求的运维权限无效")
  let (encoded, signature) ← splitToken token
  let signed ← orEncodeError (encodeAscii? (signingInput encoded))
  let supplied ← b64decode signature
  if (L.hmacSha256 key signed).octets ≠ supplied then throw (.opsToken "运维凭证签名无效")
  let data ← loadPayload L encoded
  let claims ← readClaims data
  checkClaims claims requiredScope current

/-! ## The dependency of the routes -/

structure OpsSettings where
  environment : PyStr
  operatorSigningSecret : PyStr
  operatorToken : PyStr

/-- `hmac.compare_digest` on two texts, which it wants in ASCII. -/
def compareDigest (a b : PyStr) : Except OpsExc Bool :=
  if ∀ c ∈ a ++ b, c < 128 then .ok (decide (a = b)) else .error .typeError

/-- The shared token of local installations. -/
def legacyClaims (s : OpsSettings) (supplied requiredScope : PyStr) (now : Int) :
    Except RouteExc OperatorClaims := do
  if s.environment ∉ [py "development", py "test"] ∨ s.operatorToken.length < 32 then
    throw (.http 404 "运维接口未启用")
  if requiredScope ∉ [py "reconciliation:read", py "reconciliation:write"] then
    throw (.http 404 "运维接口未启用")
  if supplied = [] then throw (.http 401 "运维凭证无效")
  let same ← (compareDigest supplied s.operatorToken).mapError .escaped
  if ¬ same then throw (.http 401 "运维凭证无效")
  return ⟨py "legacy-local-operator", {py "reconciliation:read", py "reconciliation:write"}, now,
    now + 1, py "legacy-local"⟩

def operatorClaims (s : OpsSettings) (supplied requiredScope : PyStr) (now : Int) :
    Except RouteExc OperatorClaims :=
  if 4096 < supplied.length then .error (.http 401 "运维凭证无效或权限不足")
  else if 32 ≤ s.operatorSigningSecret.length then
    match verifyOperatorToken L supplied s.operatorSigningSecret requiredScope now with
    | .ok claims => .ok claims
    | .error (.opsToken _) => .error (.http 401 "运维凭证无效或权限不足")
    | .error e => .error (.escaped e)
  else legacyClaims s supplied requiredScope now

/-! ## What is raised -/

def IsTokenError (e : OpsExc) : Prop := ∃ message, e = .opsToken message

/-- The answer of the routes to a bad token. -/
def IsRefusal (e : RouteExc) : Prop := e = .http 401 "运维凭证无效或权限不足"

theorem onlyRaises_b64decode (value : PyStr) : OnlyRaises IsTokenError (b64decode value) := by
  unfold b64decode
  split
  · exact onlyRaises_ok _
  · exact onlyRaises_error_iff.2 ⟨_, rfl⟩

theorem onlyRaises_splitToken (token : PyStr) : OnlyRaises IsTokenError (splitToken token) := by
  unfold splitToken
  split
  · split_ifs
    · exact onlyRaises_ok _
    · exact onlyRaises_error_iff.2 ⟨_, rfl⟩
  · exact onlyRaises_error_iff.2 ⟨_, rfl⟩

theorem onlyRaises_readClaims (data : Json) : OnlyRaises IsTokenError (readClaims data) := by
  unfold readClaims
  split_ifs
  · exact onlyRaises_error_iff.2 ⟨_, rfl⟩
  · split
    · exact onlyRaises_ok _
    · exact onlyRaises_error_iff.2 ⟨_, rfl⟩

theorem onlyRaises_checkClaims (claims : OperatorClaims) (requiredScope : PyStr) (current : Int) :
    OnlyRaises IsTokenError (checkClaims claims requiredScope current) := by
  unfold checkClaims
  split_ifs
  · exact onlyRaises_error_iff.2 ⟨_, rfl⟩
  · exact onlyRaises_error_iff.2 ⟨_, rfl⟩
  · exact onlyRaises_error_iff.2 ⟨_, rfl⟩
  · exact onlyRaises_ok _

theorem onlyRaises_encodeAscii_iff {s : PyStr} :
    OnlyRaises IsTokenError (orEncodeError (encodeAscii? s)) ↔ ∀ c ∈ s, c < 128 := by
  unfold encodeAscii?
  split_ifs with h
  · exact iff_of_true (onlyRaises_ok _) h
  · refine iff_of_false (fun hraised => ?_) h
    obtain ⟨message, heq⟩ := onlyRaises_error_iff.1 hraised
    cases heq

theorem orEncodeError_ok {encoded : Option Bytes} {value : Bytes} :
    orEncodeError encoded = .ok value ↔ encoded = some value := by
  cases encoded <;> simp [orEncodeError]

theorem encodeAscii?_eq {s : PyStr} (h : ∀ c ∈ s, c < 128) :
    encodeAscii? s = some (s.map Nat.toUInt8) := if_pos h

theorem ascii_signingInput_iff {encoded : PyStr} :
    (∀ c ∈ signingInput encoded, c < 128) ↔ ∀ c ∈ encoded, c < 128 := by
  have hhead : ∀ c ∈ py "ops1.", c < 128 := by decide
  simp only [signingInput, List.mem_append, or_imp, forall_and]
  exact and_iff_right hhead

/-- Where the payload is base64, `json.loads` reads it or raises what is handled. -/
def PayloadReadable (encoded : PyStr) : Prop :=
  ∀ payload e, b64decode encoded = .ok payload → L.loads payload = .error e → e.handled

theorem onlyRaises_loadPayload_iff {encoded : PyStr} :
    OnlyRaises IsTokenError (loadPayload L encoded) ↔ PayloadReadable L encoded := by
  unfold loadPayload PayloadReadable
  rw [onlyRaises_bind_iff, and_iff_right (onlyRaises_b64decode _)]
  refine forall_congr' fun payload => ?_
  rw [forall_comm]
  refine forall_congr' fun hpayload => ?_
  cases hload : L.loads payload with
  | ok data => exact iff_of_true (onlyRaises_ok _) nofun
  | error e =>
    dsimp only
    split_ifs with he
    · refine iff_of_true (onlyRaises_error_iff.2 ⟨_, rfl⟩) fun e' heq => ?_
      rw [← Except.error.inj heq]
      exact he
    · refine iff_of_false (fun hraised => ?_) fun h => he (h e rfl)
      obtain ⟨message, heq⟩ := onlyRaises_error_iff.1 hraised
      cases heq

/-- The payload part is ASCII and, under a right signature, readable. -/
structure PayloadHandled (key : Bytes) (encoded signature : PyStr) : Prop where
  ascii : ∀ c ∈ encoded, c < 128
  readable : b64decode signature =
    .ok (L.hmacSha256 key ((signingInput encoded).map Nat.toUInt8)).octets →
    PayloadReadable L encoded

/-- A token that gets as far as its payload has one that is handled. -/
def TokenHandled (key : Bytes) (token requiredScope : PyStr) : Prop :=
  1 ≤ token.length ∧ token.length ≤ 4096 → requiredScope ∈ allowedScopes →
    ∀ encoded signature, splitToken token = .ok (encoded, signature) →
      PayloadHandled L key encoded signature

section Failures

variable {L} {key : Bytes} {token secret requiredScope : PyStr}

theorem verify_fails_closed_iff (hkey : validateSecret secret = .ok key) (current : Int) :
    OnlyRaises IsTokenError (verifyOperatorToken L token secret requiredScope current) ↔
      TokenHandled L key token requiredScope := by
  unfold verifyOperatorToken TokenHandled
  rw [hkey, onlyRaises_bind_iff, and_iff_right (onlyRaises_ok _)]
  constructor
  · intro h hlength hscope encoded signature hsplit
    have h := (onlyRaises_unless_iff ⟨_, rfl⟩).1 (h key rfl) (not_not.2 hlength)
    have h := (onlyRaises_unless_iff ⟨_, rfl⟩).1 h (not_not.2 hscope)
    have h := (onlyRaises_bind_iff.1 h).2 _ hsplit
    have hascii := ascii_signingInput_iff.1
      (onlyRaises_encodeAscii_iff.1 (onlyRaises_bind_iff.1 h).1)
    have hencoded := encodeAscii?_eq (ascii_signingInput_iff.2 hascii)
    have h := (onlyRaises_bind_iff.1 h).2 _ (orEncodeError_ok.2 hencoded)
    refine ⟨hascii, fun hsignature => ?_⟩
    have h := (onlyRaises_bind_iff.1 h).2 _ hsignature
    have h := (onlyRaises_unless_iff ⟨_, rfl⟩).1 h (not_not.2 rfl)
    exact (onlyRaises_loadPayload_iff L).1 (onlyRaises_bind_iff.1 h).1
  · intro h key' hkey'
    obtain rfl := Except.ok.inj hkey'
    refine (onlyRaises_unless_iff ⟨_, rfl⟩).2 fun hlength => ?_
    refine (onlyRaises_unless_iff ⟨_, rfl⟩).2 fun hscope => ?_
    refine onlyRaises_bind_iff.2 ⟨onlyRaises_splitToken _, fun ⟨encoded, signature⟩ hsplit => ?_⟩
    have hpayload := h (not_not.1 hlength) (not_not.1 hscope) encoded signature hsplit
    have hascii := ascii_signingInput_iff.2 hpayload.ascii
    refine onlyRaises_bind_iff.2 ⟨onlyRaises_encodeAscii_iff.2 hascii, fun signed hsigned => ?_⟩
    obtain rfl := Option.some.inj ((encodeAscii?_eq hascii).symm.trans (orEncodeError_ok.1 hsigned))
    refine onlyRaises_bind_iff.2 ⟨onlyRaises_b64decode _, fun supplied hsupplied => ?_⟩
    refine (onlyRaises_unless_iff ⟨_, rfl⟩).2 fun hsame => ?_
    rw [← not_not.1 hsame] at hsupplied
    refine onlyRaises_bind_iff.2
      ⟨(onlyRaises_loadPayload_iff L).2 (hpayload.readable hsupplied), fun data _ => ?_⟩
    exact onlyRaises_bind_iff.2 ⟨onlyRaises_readClaims _, fun claims _ =>
      onlyRaises_checkClaims claims _ _⟩

theorem routes_fail_closed_iff {s : OpsSettings} (hlength : 32 ≤ s.operatorSigningSecret.length)
    (hkey : validateSecret s.operatorSigningSecret = .ok key) (now : Int) :
    OnlyRaises IsRefusal (operatorClaims L s token requiredScope now) ↔
    TokenHandled L key token requiredScope := by
  rw [← verify_fails_closed_iff hkey now, operatorClaims]
  split_ifs with hlong
  · refine iff_of_true (onlyRaises_error_iff.2 rfl)
      ((verify_fails_closed_iff hkey now).2 fun h => ?_)
    omega
  · cases verifyOperatorToken L token s.operatorSigningSecret requiredScope now with
    | ok claims => exact iff_of_true (onlyRaises_ok _) (onlyRaises_ok _)
    | error e =>
      rw [onlyRaises_error_iff]
      cases e with
      | opsToken message => exact iff_of_true (onlyRaises_error_iff.2 rfl) ⟨message, rfl⟩
      | _ =>
        refine iff_of_false (fun h => ?_) nofun
        cases onlyRaises_error_iff.1 h

/-- Every bad token is refused as one, by the verification and by the routes. -/
structure FailsClosed (L : Library) (token secret requiredScope : PyStr)
    (current : Int) : Prop where
  verify : OnlyRaises IsTokenError (verifyOperatorToken L token secret requiredScope current)
  routes : ∀ s : OpsSettings, s.operatorSigningSecret = secret → 32 ≤ secret.length →
    OnlyRaises IsRefusal (operatorClaims L s token requiredScope current)

/-- A token is refused as a bad one exactly if its payload part is ASCII and `json.loads` does not
fail on it in another way. -/
theorem fails_closed_iff (L : Library) {key : Bytes} {secret : PyStr}
    (hkey : validateSecret secret = .ok key)
    (token requiredScope : PyStr) (current : Int) :
    FailsClosed L token secret requiredScope current ↔ TokenHandled L key token requiredScope := by
  constructor
  · intro h
    exact (verify_fails_closed_iff hkey current).1 h.verify
  · intro h
    refine ⟨(verify_fails_closed_iff hkey current).2 h, ?_⟩
    rintro s rfl hlength
    exact (routes_fail_closed_iff hlength hkey current).2 h

end Failures

/-! ## A token that is no ASCII -/

theorem length_zeros : (List.replicate 32 0).length = 32 := rfl

def zeroDigest : Digest := ⟨List.replicate 32 0, length_zeros⟩

/-- No text is JSON. -/
def blankLibrary : Library := ⟨fun _ _ => zeroDigest, fun _ => .error .jsonDecodeError⟩

def plainSecret : PyStr := List.replicate 32 97

/-- Of `ops1.é.x`, the `é` cannot be encoded for the signature. -/
theorem accented_token_escapes :
    ¬ ∀ (L : Library) (key : Bytes) (secret token requiredScope : PyStr) (current : Int),
    validateSecret secret = .ok key → FailsClosed L token secret requiredScope current := by
  intro h
  have h := (h blankLibrary (List.replicate 32 97) plainSecret (py "ops1.é.x") (py "metrics:read") 0
    (by decide)).verify
  have hraised : verifyOperatorToken blankLibrary (py "ops1.é.x") plainSecret
    (py "metrics:read") 0 =
      .error .unicodeEncodeError := by decide +kernel
  obtain ⟨message, heq⟩ := h _ hraised
  cases heq

theorem fails_closed_plain : FailsClosed blankLibrary (py "ops1.e.x") plainSecret
    (py "metrics:read") 0 ↔
    TokenHandled blankLibrary (List.replicate 32 97) (py "ops1.e.x") (py "metrics:read") :=
  fails_closed_iff blankLibrary (by decide) (py "ops1.e.x") (py "metrics:read") 0

end Kunlun.OpsTokens
