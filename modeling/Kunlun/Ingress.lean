import Kunlun.Paths
import Mathlib.Data.List.DropRight

/-!
# The address of a client (`vercel.py`, `client_ip.py`)

A request passes the adapter of the platform, which hands the address on under a private
header, and then the middleware that believes this header.
-/

namespace Kunlun.Ingress

open LivePayments Paths

/-! ## What is called of the standard library -/

/-- `ipaddress`, where a `ValueError` gives nothing. -/
structure Ipaddress (Address Network : Type) where
  ipAddress : PyStr → Option Address
  /-- `str` of an address. -/
  str : Address → PyStr
  /-- `ip_network(cidr, strict=False)` -/
  ipNetwork : PyStr → Option Network
  contains : Network → Address → Bool

/-- `octets.lower()` -/
def lower (octets : Octets) : Octets := octets.map fun c => if 65 ≤ c ∧ c ≤ 90 then c + 32 else c

/-- Blanks of ASCII text. -/
def isSpace (c : Nat) : Bool := (9 ≤ c && c ≤ 13) || (28 ≤ c && c ≤ 32)

/-- Blanks of octets. -/
def isBlank (c : Nat) : Bool := (9 ≤ c && c ≤ 13) || c = 32

def encodeAscii? (s : PyStr) : Option Octets := if s.all (· < 128) then some s else none

/-! ## Headers -/

abbrev HeaderList := List (Octets × Octets)

def clientIpHeader : Octets := py "x-kunlun-client-ip"

def proxySecretHeader : Octets := py "x-kunlun-proxy-secret"

def vercelClientIpHeader : Octets := py "x-forwarded-for"

def vercelRequestHeader : Octets := py "x-vercel-id"

def removedProxyHeaders : List Octets :=
  [py "forwarded", vercelClientIpHeader, py "x-forwarded-host", py "x-forwarded-port",
    py "x-forwarded-proto", py "x-real-ip", py "x-vercel-forwarded-for", clientIpHeader,
    proxySecretHeader]

/-- The values of a header, in order, however its name is written. -/
def valuesOf (name : Octets) (headers : HeaderList) : List Octets :=
  (headers.filter fun h => lower h.1 = name).map Prod.snd

/-- The headers of no such name. -/
def without (names : List Octets) (headers : HeaderList) : HeaderList :=
  headers.filter fun h => lower h.1 ∉ names

inductive ScopeType where
  | http | websocket | lifespan
  deriving DecidableEq

structure Scope where
  type : ScopeType
  path : PyStr
  rawPath : Option Octets
  client : Option (PyStr × Int)
  headers : HeaderList
  deriving DecidableEq

section Middleware

variable {Address Network : Type} (L : Ipaddress Address Network)

/-- An address, and nothing else. -/
def addressOf (value : Octets) : Option Address := do
  let raw ← (decodeAscii? value).map fun s => (s.dropWhile isSpace).rdropWhile isSpace
  if raw = [] ∨ 44 ∈ raw then none else L.ipAddress raw

/-! ## `VercelIngressMiddleware` -/

def singleIp (values : List Octets) : Option Octets :=
  match values with
  | [value] => (addressOf L value).bind fun address => encodeAscii? (L.str address)
  | _ => none

/-- `scope.get("raw_path") or scope.get("path") or "/"` -/
def requestedPath (s : Scope) : Octets ⊕ PyStr :=
  match s.rawPath with
  | some (c :: rest) => .inl (c :: rest)
  | _ => .inr (if s.path = [] then py "/" else s.path)

/-- The requests that the platform has stamped. -/
def vercelRequests (headers : HeaderList) : List Octets :=
  (valuesOf vercelRequestHeader headers).filter fun value => value.any fun c => !isBlank c

/-- The headers as the adapter hands them on. -/
def translate (proxySecret : Octets) (headers : HeaderList) : HeaderList :=
  match singleIp L (valuesOf vercelClientIpHeader headers) with
  | some clientIp =>
    if (vercelRequests headers).length = 1 then
      without removedProxyHeaders headers ++
        [(clientIpHeader, clientIp), (proxySecretHeader, proxySecret)]
    else without removedProxyHeaders headers
  | none => without removedProxyHeaders headers

/-- Nothing is handed on of a request that is answered here, with status 404. -/
def vercelIngress (casefold : PyStr → PyStr) (proxySecret : Octets) (s : Scope) : Option Scope :=
  if s.type ≠ .http then some s
  else if ¬ publicRouteAllowed casefold (requestedPath s) then none
  else some { s with headers := translate L proxySecret s.headers }

/-! ## `TrustedProxyClientIPMiddleware` -/

/-- The secret of the proxy, given once. -/
def secretAuthenticated (trustedProxySecret : PyStr) (values : List Octets) : Bool :=
  match values with
  | [value] =>
    let expected := (encodeAscii? trustedProxySecret).getD []
    decide (expected ≠ []) && decide (value = expected)
  | _ => false

def resolveClientIp (peerHost : PyStr) (forwardedValues : List Octets)
    (trustedProxyCidrs : List PyStr)
    (proxySecretValues : List Octets) (trustedProxySecret : PyStr) : PyStr :=
  match L.ipAddress peerHost, trustedProxyCidrs.mapM L.ipNetwork with
  | some peer, some trusted =>
    if trusted.any (L.contains · peer) || secretAuthenticated trustedProxySecret
      proxySecretValues then
      match forwardedValues with
      | [value] => ((addressOf L value).map L.str).getD (L.str peer)
      | _ => L.str peer
    else L.str peer
  | _, _ => peerHost

def trustedProxyClientIp (trustedProxyCidrs : List PyStr) (trustedProxySecret : PyStr)
    (s : Scope) : Scope :=
  match s.client with
  | some (peerHost, peerPort) =>
    if s.type = .lifespan then s
    else { s with
      client := some (resolveClientIp L peerHost
        (valuesOf clientIpHeader s.headers) trustedProxyCidrs
        (valuesOf proxySecretHeader s.headers) trustedProxySecret, peerPort)
      headers := without [clientIpHeader, proxySecretHeader] s.headers }
  | none => s

/-! ## The two of them -/

/-- The middlewares, once they are built: the secret is ASCII, and the networks can be read. -/
structure Chain where
  trustedProxyCidrs : List PyStr
  trustedProxySecret : PyStr
  networks : List Network
  parsed : trustedProxyCidrs.mapM L.ipNetwork = some networks
  proxySecret : Octets
  encoded : encodeAscii? trustedProxySecret = some proxySecret

/-- What the application sees of a request, if it sees it. -/
def Chain.pass {L : Ipaddress Address Network} (m : Chain L) (casefold : PyStr → PyStr)
    (s : Scope) : Option Scope :=
  (vercelIngress L casefold m.proxySecret s).map
    (trustedProxyClientIp L m.trustedProxyCidrs m.trustedProxySecret)

end Middleware

/-! ## What the private headers say -/

section Headers

variable {name : Octets} {names : List Octets} {headers headers' : HeaderList}

theorem valuesOf_append : valuesOf name (headers ++ headers') = valuesOf name headers ++
    valuesOf name headers' := by
  rw [valuesOf, List.filter_append, List.map_append]
  rfl

theorem valuesOf_without (h : name ∈ names) : valuesOf name (without names headers) = [] := by
  rw [valuesOf, without, List.filter_filter, List.map_eq_nil_iff, List.filter_eq_nil_iff]
  intro x _ hx
  rw [Bool.and_eq_true, decide_eq_true_eq, decide_eq_true_eq] at hx
  rw [← hx.1] at h
  exact hx.2 h

theorem mem_without {h : Octets × Octets} : h ∈ without names headers ↔
    h ∈ headers ∧ lower h.1 ∉ names := by
  rw [without, List.mem_filter, decide_eq_true_eq]

end Headers

section Chain

variable {Address Network : Type} {L : Ipaddress Address Network}

/-- The address that the platform vouches for: one, in a request that it has stamped once. -/
def vouched (L : Ipaddress Address Network) (headers : HeaderList) : Option Octets :=
  if (vercelRequests headers).length = 1 then
  singleIp L (valuesOf vercelClientIpHeader headers) else none

theorem translate_eq (proxySecret : Octets) (headers : HeaderList) :
    translate L proxySecret headers = without removedProxyHeaders headers ++
      ((vouched L headers).map fun clientIp =>
        [(clientIpHeader, clientIp), (proxySecretHeader, proxySecret)]).getD [] := by
  unfold translate vouched
  cases singleIp L (valuesOf vercelClientIpHeader headers) with
  | none =>
    dsimp only
    rw [ite_self, Option.map_none, Option.getD_none, List.append_nil]
  | some clientIp =>
    dsimp only
    split_ifs
    · rfl
    · rw [Option.map_none, Option.getD_none, List.append_nil]

/-- The two headers are in lower case, they are two, and both are removed. -/
theorem privateHeaders : lower clientIpHeader = clientIpHeader ∧
    lower proxySecretHeader = proxySecretHeader ∧ clientIpHeader ≠ proxySecretHeader ∧
    clientIpHeader ∈ removedProxyHeaders ∧ proxySecretHeader ∈ removedProxyHeaders := by
  decide +kernel

theorem valuesOf_clientIp (proxySecret : Octets) (headers : HeaderList) :
    valuesOf clientIpHeader (translate L proxySecret headers) = (vouched L headers).toList := by
  obtain ⟨hclientIp, hproxySecret, hne, hremoved, -⟩ := privateHeaders
  rw [translate_eq, valuesOf_append, valuesOf_without hremoved, List.nil_append]
  cases vouched L headers with
  | none => rfl
  | some clientIp =>
    rw [Option.map_some, Option.getD_some, valuesOf, List.filter_cons_of_pos,
      List.filter_cons_of_neg]
    · rfl
    · rw [decide_eq_true_eq, hproxySecret]
      exact hne.symm
    · exact decide_eq_true hclientIp

theorem valuesOf_proxySecret (proxySecret : Octets) (headers : HeaderList) :
    valuesOf proxySecretHeader (translate L proxySecret headers) =
      ((vouched L headers).map fun _ => proxySecret).toList := by
  obtain ⟨hclientIp, hproxySecret, hne, -, hremoved⟩ := privateHeaders
  rw [translate_eq, valuesOf_append, valuesOf_without hremoved, List.nil_append]
  cases vouched L headers with
  | none => rfl
  | some clientIp =>
    rw [Option.map_some, Option.getD_some, valuesOf, List.filter_cons_of_neg,
      List.filter_cons_of_pos]
    · rfl
    · exact decide_eq_true hproxySecret
    · rw [decide_eq_true_eq, hclientIp]
      exact hne

theorem lower_not_removed {proxySecret : Octets} {headers : HeaderList} {h : Octets × Octets}
    (hh : h ∈ without [clientIpHeader, proxySecretHeader] (translate L proxySecret headers)) :
    lower h.1 ∉ removedProxyHeaders := by
  rw [mem_without, translate_eq, List.mem_append] at hh
  obtain ⟨hkept | hadded, hprivate⟩ := hh
  · exact (mem_without.1 hkept).2
  · exfalso
    cases hvouched : vouched L headers with
    | none =>
      rw [hvouched] at hadded
      cases hadded
    | some clientIp =>
      rw [hvouched, Option.map_some, Option.getD_some, List.mem_pair] at hadded
      apply hprivate
      rw [List.mem_pair]
      rcases hadded with rfl | rfl
      · exact .inl privateHeaders.1
      · exact .inr privateHeaders.2.1

/-! ## What the application sees -/

variable {m : Chain L} {casefold : PyStr → PyStr} {s t : Scope} {peerHost : PyStr} {peerPort : Int}

/-- The peer, as `ipaddress` writes its address. -/
def canonicalHost (L : Ipaddress Address Network) (peerHost : PyStr) : PyStr :=
  ((L.ipAddress peerHost).map L.str).getD peerHost

/-- The host of a request, as a function of what the platform vouches for. -/
def Chain.hostOf (m : Chain L) (peerHost : PyStr) (clientIp : Option Octets) : PyStr :=
  resolveClientIp L peerHost clientIp.toList m.trustedProxyCidrs
    (clientIp.map fun _ => m.proxySecret).toList m.trustedProxySecret

theorem Chain.hostOf_none (m : Chain L) (peerHost : PyStr) :
    m.hostOf peerHost none = canonicalHost L peerHost := by
  unfold Chain.hostOf resolveClientIp canonicalHost
  rw [m.parsed]
  cases L.ipAddress peerHost with
  | none => rfl
  | some peer =>
    dsimp only
    split_ifs <;> rfl

theorem Chain.pass_http (hhttp : s.type = .http) (hpeer : s.client = some (peerHost, peerPort))
    (hpass : m.pass casefold s = some t) :
    t.client = some (m.hostOf peerHost (vouched L s.headers), peerPort) ∧ ∀ h ∈ t.headers,
    lower h.1 ∉ removedProxyHeaders := by
  unfold Chain.pass vercelIngress at hpass
  rw [if_neg (not_not.2 hhttp)] at hpass
  split_ifs at hpass with hpublic
  · obtain rfl := Option.some.inj hpass
    unfold trustedProxyClientIp
    dsimp only
    rw [hpeer]
    dsimp only
    rw [if_neg (by rw [hhttp]; decide), valuesOf_clientIp, valuesOf_proxySecret]
    exact ⟨rfl, fun h hh => lower_not_removed hh⟩
  · cases hpass

/-- An address that the platform vouches for is the only one, and the request is stamped once. -/
theorem vouched_eq_some {headers : HeaderList} {clientIp : Octets}
    (h : vouched L headers = some clientIp) :
    (∃ value address, valuesOf vercelClientIpHeader headers = [value] ∧
      addressOf L value = some address) ∧
      ∃ id, vercelRequests headers = [id] := by
  unfold vouched at h
  split_ifs at h with hstamped
  refine ⟨?_, List.length_eq_one_iff.1 hstamped⟩
  unfold singleIp at h
  split at h
  · rename_i value hvalue
    obtain ⟨address, haddress, -⟩ := Option.bind_eq_some_iff.1 h
    exact ⟨value, address, hvalue, haddress⟩
  · cases h

theorem vouched_congr {headers headers' : HeaderList}
    (hforwarded : valuesOf vercelClientIpHeader headers = valuesOf vercelClientIpHeader headers')
    (hstamped : valuesOf vercelRequestHeader headers = valuesOf vercelRequestHeader headers') :
    vouched L headers = vouched L headers' := by
  unfold vouched vercelRequests
  rw [hforwarded, hstamped]

/-- Two requests that the platform has marked alike come from one host, whatever else they say. -/
theorem spoofed_headers_ignored {s s' t t' : Scope} (hhttp : s.type = .http)
    (hhttp' : s'.type = .http)
    (hpeer : s.client = some (peerHost, peerPort)) (hpeer' : s'.client = some (peerHost, peerPort))
    (hforwarded : valuesOf vercelClientIpHeader s.headers = valuesOf
      vercelClientIpHeader s'.headers)
    (hstamped : valuesOf vercelRequestHeader s.headers = valuesOf vercelRequestHeader s'.headers)
    (hpass : m.pass casefold s = some t) (hpass' : m.pass casefold s' = some t') :
    ∃ host, t.client = some (host, peerPort) ∧ t'.client = some (host, peerPort) ∧
      (∀ h ∈ t.headers, lower h.1 ∉ removedProxyHeaders) ∧
      (∀ h ∈ t'.headers, lower h.1 ∉ removedProxyHeaders) ∧
      (host ≠ canonicalHost L peerHost →
        (∃ value address, valuesOf vercelClientIpHeader s.headers = [value] ∧
          addressOf L value = some address) ∧
          ∃ id, vercelRequests s.headers = [id]) := by
  obtain ⟨hclient, hheaders⟩ := Chain.pass_http hhttp hpeer hpass
  obtain ⟨hclient', hheaders'⟩ := Chain.pass_http hhttp' hpeer' hpass'
  rw [← vouched_congr hforwarded hstamped] at hclient'
  refine ⟨_, hclient, hclient', hheaders, hheaders', fun hmoved => ?_⟩
  cases hvouched : vouched L s.headers with
  | none =>
    rw [hvouched, Chain.hostOf_none] at hmoved
    exact absurd rfl hmoved
  | some clientIp => exact vouched_eq_some hvouched

end Chain

/-! ## Two addresses -/

/-- `ipaddress` on two addresses. It spells a mapped one in hexadecimal digits. -/
def twoAddresses : Ipaddress PyStr Empty where
  ipAddress s := if s = py "::ffff:10.0.0.5" then some (py "::ffff:a00:5")
    else if s = py "203.0.113.9" then some s else none
  str := id
  ipNetwork _ := none
  contains := nofun

def secretChain : Chain twoAddresses where
  trustedProxyCidrs := []
  trustedProxySecret := List.replicate 32 112
  networks := []
  parsed := rfl
  proxySecret := List.replicate 32 112
  encoded := by decide +kernel

def mappedPeer : Option (PyStr × Int) := some (py "::ffff:10.0.0.5", 50000)

def requestWith (headers : HeaderList) : Scope :=
  ⟨.http, py "/readyz", some (py "/readyz"), mappedPeer, headers⟩

def platformHeaders : HeaderList :=
  [(py "X-Forwarded-For", py "203.0.113.9"), (vercelRequestHeader, py "sfo1::request-id")]

def spoofedHeaders : HeaderList :=
  [(clientIpHeader, py "198.51.100.100"), (py "X-Real-IP", py "198.51.100.99")]

def seenFrom (host : PyStr) (headers : HeaderList) : Scope :=
  ⟨.http, py "/readyz", some (py "/readyz"), some (host, 50000), headers⟩

/-- The platform's address is seen, and not the spoofed ones. -/
theorem spoofed_request_ignored :
    ∃ host t, secretChain.pass id (requestWith (spoofedHeaders ++ platformHeaders)) = some t ∧
    t.client = some (host, 50000) ∧ ∀ h ∈ t.headers, lower h.1 ∉ removedProxyHeaders := by
  have hpass : secretChain.pass id (requestWith platformHeaders) =
      some (seenFrom (py "203.0.113.9")
        [(vercelRequestHeader, py "sfo1::request-id")]) := by decide +kernel
  have hpass' : secretChain.pass id (requestWith (spoofedHeaders ++ platformHeaders)) =
      some (seenFrom (py "203.0.113.9")
        [(vercelRequestHeader, py "sfo1::request-id")]) := by decide +kernel
  have hpeer (headers : HeaderList) : (requestWith headers).client =
      some (py "::ffff:10.0.0.5", 50000) := rfl
  obtain ⟨host, -, hclient, -, hheaders, -⟩ :=
    spoofed_headers_ignored rfl rfl (hpeer _) (hpeer _) (by decide +kernel)
      (by decide +kernel) hpass hpass'
  exact ⟨host, _, hpass', hclient, hheaders⟩

/-- The peer is spelled as `ipaddress` spells it, also without any header. -/
theorem mapped_peer_respelled :
    ¬ ∀ (Address Network : Type) (L : Ipaddress Address Network) (m : Chain L)
    (casefold : PyStr → PyStr) (s t : Scope) (peerHost host : PyStr) (peerPort : Int),
    s.type = .http → s.client = some (peerHost, peerPort) → m.pass casefold s = some t →
    t.client = some (host, peerPort) →
      host ≠ peerHost → ∃ value address, valuesOf vercelClientIpHeader s.headers = [value] ∧
      addressOf L value = some address := by
  intro hclaim
  have hpass : secretChain.pass id (requestWith []) =
      some (seenFrom (py "::ffff:a00:5") []) := by decide +kernel
  obtain ⟨value, address, hvalues, -⟩ := hclaim _ _ _ secretChain id _ _ (py "::ffff:10.0.0.5")
    (py "::ffff:a00:5") 50000 rfl rfl
    hpass rfl (by decide +kernel)
  cases hvalues

end Kunlun.Ingress
