import Kunlun.Completions.ForwardStream
import Kunlun.OpsTokens
import Kunlun.Routing

/-!
# Providers (`providers.py`)

What a provider makes of its HTTP exchange. A prompt is posted to the next one only if this
one was not connected to, or answered with status 429.
-/

namespace Kunlun.Completions

/-! ## Exchanges -/

/-- What httpx raises. -/
inductive TransportError where
  | connectError | connectTimeout | readTimeout | writeTimeout | poolTimeout
  /-- Another of its errors. -/
  | other
  | cancelled
  deriving DecidableEq

/-- What httpx raises while a body is read, when the connection is there. -/
inductive BodyError where
  | readTimeout | other | cancelled
  deriving DecidableEq

/-- What becomes of a request. -/
inductive Exchange where
  | failed (e : TransportError)
  /-- The status, and the chunks of the body before its iterator ends or raises. -/
  | answered (statusCode : Int) (chunks : List Bytes) (ending : Except BodyError Unit)

/-- A request and the end of its connection. -/
structure Network where
  post : Json → Exchange
  close : Except Interrupt Unit

/-! ## The provider -/

structure OpenAICompatibleProvider where
  config : Routing.Client
  providerName : String
  named : config.providerName = py providerName
  maxResponseBytes : Nat

def connectFailure : ProviderError := providerError 503 (some "provider_connect_failure")
    (some true) (some false)

def ambiguousTimeout : ProviderError := providerError 504 (some "provider_ambiguous_timeout")
    (some false) (some true)

def responseTooLarge : ProviderError := providerError 502 (some "provider_response_too_large")
    (some false) (some true)

def invalidJson : ProviderError := providerError 502 (some "provider_invalid_json")
    (some false) (some true)

def invalidPayload : ProviderError := providerError 502 (some "provider_invalid_payload")
    (some false) (some true)

def statusError (statusCode : Int) : ProviderError :=
  providerError statusCode none (some (statusCode = 429)) (some (500 ≤ statusCode))

/-- What the `except` clauses make of an error; only a timeout of the pool they take differently. -/
def TransportError.failure (pool : ProviderError) : TransportError → Failure
  | .connectError | .connectTimeout => .provider connectFailure
  | .readTimeout | .writeTimeout => .provider ambiguousTimeout
  | .poolTimeout => .provider pool
  | .other => .other
  | .cancelled => .cancelled

def BodyError.failure : BodyError → Failure
  | .readTimeout => .provider ambiguousTimeout
  | .other => .other
  | .cancelled => .cancelled

/-- What iterating an open stream raises, which no clause of the provider takes. -/
def BodyError.streamFailure : BodyError → Failure
  | .cancelled => .cancelled
  | _ => .other

/-- What leaving the connection raises takes the place of the outcome. -/
def leaving {α : Type} (close : Except Interrupt Unit) (r : Except Failure α) : Except Failure α :=
  match close with
  | .ok () => r
  | .error i => .error i.failure

/-- The loop over the chunks of a response. -/
def readBody (maxBytes : Nat) : Bytes → List Bytes → Except ProviderError Bytes
  | content, [] => .ok content
  | content, chunk :: rest =>
    if maxBytes < content.length + chunk.length then .error responseTooLarge
      else readBody maxBytes (content ++ chunk) rest

namespace OpenAICompatibleProvider

variable (p : OpenAICompatibleProvider) (network : Network)

/-- The content of a response. -/
def receive : Exchange → Except Failure Bytes
  | .failed e => .error (e.failure ambiguousTimeout)
  | .answered statusCode chunks ending =>
    if 400 ≤ statusCode then .error (.provider (statusError statusCode))
    else do
      let content ← (readBody p.maxResponseBytes [] chunks).mapError .provider
      ending.mapError BodyError.failure
      return content

def decode (loads : Bytes → Except LoadsExc Json) (content : Bytes) : Except Failure Json :=
  match loads content with
  | .error e => .error (if e.handled then .provider invalidJson else .other)
  | .ok data => if data.isObj then .ok data else .error (.provider invalidPayload)

/-- `__call__` -/
def call (loads : Bytes → Except LoadsExc Json) (payload : Json) : Except Failure Json := do
  let content ← leaving network.close (p.receive (network.post payload))
  decode loads content

/-- `open_stream` -/
def openStream (payload : Json) : Except Failure UpstreamStream :=
  match network.post payload with
  | .failed e =>
    match e with
    | .other | .cancelled => .error (e.failure connectFailure)
    | _ => leaving network.close (.error (e.failure connectFailure))
  | .answered statusCode chunks ending =>
    if 400 ≤ statusCode then leaving network.close (.error (.provider (statusError statusCode)))
    else .ok ⟨chunks, ending.mapError BodyError.streamFailure, network.close⟩

def client (loads : Bytes → Except LoadsExc Json) (attemptId : Id) : Client where
  providerName := some p.providerName
  supportsModel := some fun model => p.config.supportsModel (py model)
  upstreamPrices := some fun model => p.config.upstreamPrices (py model)
  call := p.call network loads
  openStream := some (openStream network)
  attemptId := attemptId

end OpenAICompatibleProvider

/-! ## What an error tells of its exchange -/

/-- The provider has not been reached, or wants none of it. A stream that waits for its connection
has not reached it. -/
def Exchange.Refuses (streaming : Bool) : Exchange → Prop
  | .failed e => e = .connectError ∨ e = .connectTimeout ∨ e = .poolTimeout ∧ streaming
  | .answered statusCode _ _ => statusCode = 429

/-- The provider has not been reached, or has found fault with the request. -/
def Exchange.Unbilled (streaming : Bool) : Exchange → Prop
  | .failed e => e = .connectError ∨ e = .connectTimeout ∨ e = .poolTimeout ∧ streaming
  | .answered statusCode _ _ => 400 ≤ statusCode ∧ statusCode < 500

section Errors

variable {p : OpenAICompatibleProvider} {network : Network} {loads : Bytes → Except LoadsExc Json}
  {e : ProviderError}

theorem statusError_unbilled {statusCode : Int} (h400 : 400 ≤ statusCode)
    (h : (statusError statusCode).requestMayBeBillable = false) :
    400 ≤ statusCode ∧ statusCode < 500 := by
  refine ⟨h400, ?_⟩
  simpa [statusError, providerError] using h

theorem statusError_safe {statusCode : Int}
    (h : (statusError statusCode).safeToFailover) : statusCode = 429 := by
  simpa [statusError, providerError] using h

/-- What an unbilled error of a provider says of the exchange. -/
def ToldBy (x : Exchange) (streaming : Bool) (e : ProviderError) : Prop :=
  e.requestMayBeBillable = false → x.Unbilled streaming ∧ (e.safeToFailover → x.Refuses streaming)

theorem toldBy_failed {t : TransportError} {streaming : Bool} {pool : ProviderError}
    (hpool : pool.requestMayBeBillable = false → streaming) (h : t.failure pool = .provider e) :
    ToldBy (.failed t) streaming e := by
  intro hbill
  cases t with
  | connectError => exact ⟨.inl rfl, fun _ => .inl rfl⟩
  | connectTimeout => exact ⟨.inr (.inl rfl), fun _ => .inr (.inl rfl)⟩
  | poolTimeout =>
    cases h
    exact ⟨.inr (.inr ⟨rfl, hpool hbill⟩), fun _ => .inr (.inr ⟨rfl, hpool hbill⟩)⟩
  | readTimeout | writeTimeout =>
    cases h
    cases hbill
  | other | cancelled => cases h

theorem toldBy_status {statusCode : Int} {chunks : List Bytes}
    {ending : Except BodyError Unit} {streaming : Bool}
    (h400 : 400 ≤ statusCode) : ToldBy (.answered statusCode chunks ending) streaming
      (statusError statusCode) :=
  fun hbill => ⟨statusError_unbilled h400 hbill, statusError_safe⟩

theorem leaving_provider {α : Type} {close : Except Interrupt Unit} {r : Except Failure α}
    (h : leaving close r = .error (.provider e)) : r = .error (.provider e) := by
  unfold leaving at h
  split at h
  · exact h
  · rename_i i
    cases i <;> cases h

theorem leaving_ok {α : Type} {close : Except Interrupt Unit} {r : Except Failure α} {a : α}
    (h : leaving close r = .ok a) :
    r = .ok a := by
  unfold leaving at h
  split at h
  · exact h
  · cases h

theorem readBody_error {maxBytes : Nat} {content : Bytes} {chunks : List Bytes}
    (h : readBody maxBytes content chunks = .error e) : e = responseTooLarge := by
  induction chunks generalizing content with
  | nil => cases h
  | cons chunk chunks ih =>
    unfold readBody at h
    split_ifs at h
    · exact (Except.error.inj h).symm
    · exact ih h

theorem readBody_ok {maxBytes : Nat} {content body : Bytes} {chunks : List Bytes}
    (hcontent : content.length ≤ maxBytes)
    (h : readBody maxBytes content chunks = .ok body) : body = content ++ chunks.flatten ∧
    body.length ≤ maxBytes := by
  induction chunks generalizing content with
  | nil =>
    obtain rfl := Except.ok.inj h
    exact ⟨by simp, hcontent⟩
  | cons chunk chunks ih =>
    unfold readBody at h
    split_ifs at h with hlong
    obtain ⟨hbody, hlength⟩ := ih (by rw [List.length_append]; omega) h
    exact ⟨by rw [hbody, List.flatten_cons, List.append_assoc], hlength⟩

theorem toldBy_billable {x : Exchange} {streaming : Bool} (h : e.requestMayBeBillable) :
    ToldBy x streaming e := by
  intro hbill
  rw [h] at hbill
  cases hbill

theorem receive_toldBy {x : Exchange}
    (h : p.receive x = .error (.provider e)) : ToldBy x false e := by
  cases x with
  | failed t => exact toldBy_failed (fun hbill => by cases hbill) (Except.error.inj h)
  | answered statusCode chunks ending =>
    unfold OpenAICompatibleProvider.receive at h
    dsimp only at h
    split_ifs at h with h400
    · obtain rfl := Failure.provider.inj (Except.error.inj h)
      exact toldBy_status h400
    · cases hbody : readBody p.maxResponseBytes [] chunks with
      | error e' =>
        obtain rfl := readBody_error hbody
        rw [hbody] at h
        obtain rfl := Failure.provider.inj (Except.error.inj h)
        exact toldBy_billable rfl
      | ok body =>
        rw [hbody] at h
        cases ending with
        | ok u => cases h
        | error t =>
          have h := Except.error.inj h
          cases t with
          | readTimeout =>
            cases h
            exact toldBy_billable rfl
          | other | cancelled => cases h

theorem call_toldBy {payload : Json} (h : p.call network loads payload = .error (.provider e)) :
    ToldBy (network.post payload) false e := by
  unfold OpenAICompatibleProvider.call at h
  cases hreceive : leaving network.close (p.receive (network.post payload)) with
  | error f =>
    rw [hreceive] at h
    obtain rfl := Except.error.inj h
    exact receive_toldBy (leaving_provider hreceive)
  | ok content =>
    rw [hreceive] at h
    have h : OpenAICompatibleProvider.decode loads content = .error (.provider e) := h
    unfold OpenAICompatibleProvider.decode at h
    split at h
    · split_ifs at h
      · cases h
        exact toldBy_billable rfl
      · cases h
    · split_ifs at h
      cases h
      exact toldBy_billable rfl

/-- The handler takes what is no dictionary for billable as well. -/
theorem completion_toldBy {attemptId : Id} {payload : Json}
    (h : (p.client network loads attemptId).completion payload = .error (.provider e)) :
    ToldBy (network.post payload) false e := by
  unfold Client.completion at h
  cases hcall : (p.client network loads attemptId).call payload with
  | error f =>
    rw [hcall] at h
    obtain rfl := Except.error.inj h
    exact call_toldBy hcall
  | ok result =>
    rw [hcall] at h
    have h : (if result.isObj = true then Except.ok result
      else Except.error (Failure.provider invalidPayload)) =
      .error (.provider e) := h
    split_ifs at h
    cases h
    exact toldBy_billable rfl

theorem openStream_toldBy {payload : Json}
    (h : OpenAICompatibleProvider.openStream network payload = .error (.provider e)) :
    ToldBy (network.post payload) true e := by
  unfold OpenAICompatibleProvider.openStream at h
  split at h
  · rename_i t hpost
    rw [hpost]
    have hpool : connectFailure.requestMayBeBillable = false → true := fun _ => rfl
    refine toldBy_failed hpool ?_
    split at h
    · exact Except.error.inj h
    · exact Except.error.inj h
    · exact Except.error.inj (leaving_provider h)
  · rename_i statusCode chunks ending hpost
    rw [hpost]
    split_ifs at h with h400
    cases leaving_provider h
    exact toldBy_status h400

theorem awaited_toldBy {a : ChatArgs} {attemptId : Id}
    (h : awaited a (p.client network loads attemptId) = .error (.provider e)) :
    ToldBy (network.post a.upstreamPayload) a.directUpstreamStream e := by
  have hopen : a.openStream (p.client network loads attemptId) =
      if a.directUpstreamStream then
      some (OpenAICompatibleProvider.openStream network) else none := by
    simp [ChatArgs.openStream, OpenAICompatibleProvider.client, Option.filter]
  unfold awaited at h
  rw [hopen] at h
  cases hdirect : a.directUpstreamStream with
  | true =>
    rw [hdirect] at h
    cases hstream : OpenAICompatibleProvider.openStream network a.upstreamPayload with
    | error f =>
      simp only [if_true, hstream, Except.map] at h
      obtain rfl := Except.error.inj h
      exact openStream_toldBy hstream
    | ok stream => simp [hstream, Except.map] at h
  | false =>
    rw [hdirect] at h
    cases hresult : (p.client network loads attemptId).completion a.upstreamPayload with
    | error f =>
      simp only [Bool.false_eq_true, if_false, hresult, Except.map] at h
      obtain rfl := Except.error.inj h
      exact completion_toldBy hresult
    | ok result => simp [hresult, Except.map] at h

theorem completion_ok {attemptId : Id} {payload result : Json}
    (h : (p.client network loads attemptId).completion payload = .ok result) :
    ∃ statusCode chunks, network.post payload = .answered statusCode chunks
      (.ok ()) ∧ statusCode < 400 ∧
      chunks.flatten.length ≤ p.maxResponseBytes ∧ loads chunks.flatten = .ok result := by
  have hcall : p.call network loads payload = .ok result := by
    unfold Client.completion at h
    cases hcall : (p.client network loads attemptId).call payload with
    | error f =>
      rw [hcall] at h
      cases h
    | ok data =>
      rw [hcall] at h
      have h : (if data.isObj = true then Except.ok data
        else Except.error (Failure.provider invalidPayload)) = .ok result := h
      split_ifs at h
      exact hcall.trans h
  unfold OpenAICompatibleProvider.call at hcall
  obtain ⟨content, hreceive, hdecode⟩ := except_bind_ok.1 hcall
  have hreceive := leaving_ok hreceive
  have hloads : loads content = .ok result := by
    unfold OpenAICompatibleProvider.decode at hdecode
    split at hdecode
    · cases hdecode
    · split_ifs at hdecode
      obtain rfl := Except.ok.inj hdecode
      assumption
  cases hpost : network.post payload with
  | failed t =>
    rw [hpost] at hreceive
    cases hreceive
  | answered statusCode chunks ending =>
    rw [hpost] at hreceive
    unfold OpenAICompatibleProvider.receive at hreceive
    dsimp only at hreceive
    split_ifs at hreceive with h400
    obtain ⟨body, hbody, hreceive⟩ := except_bind_ok.1 hreceive
    obtain ⟨u, hending, hreceive⟩ := except_bind_ok.1 hreceive
    obtain rfl := Except.ok.inj hreceive
    have hread : readBody p.maxResponseBytes [] chunks = .ok body := by
      cases hread : readBody p.maxResponseBytes [] chunks with
      | error e => simp [hread, Except.mapError] at hbody
      | ok b => simpa [hread, Except.mapError] using hbody
    have hend : ending = .ok () := by
      cases ending with
      | error e => simp [Except.mapError] at hending
      | ok u => rfl
    obtain ⟨hflatten, hlength⟩ := readBody_ok (Nat.zero_le _) hread
    rw [List.nil_append] at hflatten
    subst hflatten
    exact ⟨statusCode, chunks, by rw [hend], not_le.1 h400, hlength, hloads⟩

end Errors

/-! ## Prompts -/

section Prompts

variable (a : ChatArgs) {d : DB} {past : List Neighbour} {turns : List (List Neighbour)}
  {result : Except Failure Response}
  {w : Scene DB Neighbour Own}

theorem awaited_result {a : ChatArgs} {client : Client} {json : Json}
    (h : awaited a client = .ok (.inr json)) :
    client.completion a.upstreamPayload = .ok json := by
  unfold awaited at h
  split at h
  · rename_i openStream _
    cases hstream : openStream a.upstreamPayload <;> simp [hstream, Except.map] at h
  · cases hresult : client.completion a.upstreamPayload with
    | error f => simp [hresult, Except.map] at h
    | ok data =>
      simp only [hresult, Except.map, Except.ok.injEq, Sum.inr.injEq] at h
      rw [h]

/-- What the row says of the exchange of the client that was called last. -/
structure LastExchange (loads : Bytes → Except LoadsExc Json) (p : OpenAICompatibleProvider)
    (x : Exchange) (streaming : Bool)
    (r : ModelRequest) : Prop where
  released : r.status = .failed → x.Unbilled streaming
  settled : r.Settled → ∃ statusCode chunks items, x = .answered statusCode chunks
    (.ok ()) ∧ statusCode < 400 ∧
    chunks.flatten.length ≤ p.maxResponseBytes ∧ loads chunks.flatten = .ok (.obj items)

theorem Ending.exchange {c : Admitted} {r₀ r : ModelRequest} {index : Nat} {last : Bool}
    {loads : Bytes → Except LoadsExc Json}
    {p : OpenAICompatibleProvider} {network : Network} {attemptId : Id}
    (hr₀ : r₀.status = .reserved)
    (h : Ending c r₀ index (p.client network loads attemptId) last result r) :
    LastExchange loads p (network.post c.args.upstreamPayload) c.args.directUpstreamStream r := by
  have pending {category : MarkArgs} : LastExchange loads p (network.post c.args.upstreamPayload)
    c.args.directUpstreamStream (pendingRequest category r₀) :=
    ⟨by simp [pendingRequest], by simp [ModelRequest.Settled, pendingRequest]⟩
  have completes {json : Json} {outcome : Option String} {t : SettlementTerms}
      (h : Completes c r₀ index (p.client network loads attemptId) json outcome t) :
      LastExchange loads p (network.post c.args.upstreamPayload) c.args.directUpstreamStream
        (t.row (c.settlement index (p.client network loads attemptId) json) r₀) := by
    refine ⟨fun hs => ?_, fun _ => ?_⟩
    · rcases settled_row t (c.settlement index (p.client network loads attemptId) json) r₀ with
        h | h <;>
        rw [h] at hs <;> cases hs
    · have hresult := awaited_result h.awaits
      obtain ⟨statusCode, chunks, hpost, hstatus, hlength, hloads⟩ := completion_ok hresult
      obtain ⟨items, rfl⟩ : ∃ items, json = .obj items := by
        unfold Client.completion at hresult
        obtain ⟨data, -, hdata⟩ := except_bind_ok.1 hresult
        split_ifs at hdata with hobj
        · obtain rfl := Except.ok.inj hdata
          cases data <;> simp [Json.isObj] at hobj
          exact ⟨_, rfl⟩
      exact ⟨statusCode, chunks, items, hpost, hstatus, hlength, hloads⟩
  cases h with
  | refused e awaits unbilled stays =>
    exact ⟨fun _ => (awaited_toldBy awaits unbilled).1, by simp [ModelRequest.Settled,
      releasedRequest, Admitted.release]⟩
  | billable e awaits billable => exact pending
  | cancelled breaks => exact pending
  | broken f breaks going => exact pending
  | settled json outcome t response h answers => exact completes h
  | unanswered json outcome t h answers => exact completes h
  | forwarded stream awaits name => exact ⟨by simp [hr₀], by simp [ModelRequest.Settled, hr₀]⟩

/-- With providers for clients, a prompt is posted to the next one only if this one was not
reached or answered 429; the hold is released only if the last one was not reached or found fault
with the request, and settled only from its whole answer. -/
theorem prompt_posted (loads : Bytes → Except LoadsExc Json)
    (hproviders : ∀ client ∈ a.orderedClients,
      ∃ (p : OpenAICompatibleProvider) (network : Network) (i : Id),
        client = p.client network loads i)
    (hnodup : (a.eligible.map Client.attemptId).Nodup) (hd : d.Opened)
    (hattempts : d.attempts.rows = [])
    (hpast : ∀ n ∈ past, n.Apart a.requestId (a.eligible.map Client.attemptId))
    (hturns : ∀ turn ∈ turns, ∀ n ∈ turn,
      n.Apart a.requestId (a.eligible.map Client.attemptId) ∧ n.Spares a.requestId)
    (audits : Table SafetyAudit SafetyAudit.id)
    (hrun : chatCompletions a ⟨Run.after Neighbour.act d past, turns, ⟨[], audits⟩⟩ = (result, w)) :
    (w.own.called = [] ∧ w.db.requests.get? a.requestId = none) ∨
      ∃ (n : Nat) (r : ModelRequest), w.own.called = calls a (n + 1) ∧
        w.db.requests.get? a.requestId = some r ∧
        (∀ k < n, ∃ (p : OpenAICompatibleProvider) (network : Network) (i : Id),
          a.eligible[k]? = some (p.client network loads i) ∧
          (network.post a.upstreamPayload).Refuses a.directUpstreamStream) ∧
        ∃ (p : OpenAICompatibleProvider) (network : Network) (i : Id),
          a.eligible[n]? = some (p.client network loads i) ∧
          LastExchange loads p (network.post a.upstreamPayload) a.directUpstreamStream r := by
  have provider {k : Nat} {client : Client} (hk : a.eligible[k]? = some client) :
      ∃ (p : OpenAICompatibleProvider) (network : Network) (i : Id),
        client = p.client network loads i :=
    hproviders client (List.mem_of_mem_filter (List.mem_of_getElem? hk))
  refine (finished_of_run a around_spared hnodup hd hattempts hpast hturns audits
    hrun).2.ended.imp_right ?_
  rintro ⟨v, r₀, r, n, client, hended⟩
  refine ⟨n, r, hended.called, hended.row, fun k hk => ?_, ?_⟩
  · obtain ⟨client, e, hget, hpasses⟩ := hended.failedOver k hk
    obtain ⟨p, network, i, rfl⟩ := provider hget
    exact ⟨p, network, i, hget, (awaited_toldBy hpasses.awaits hpasses.unbilled).2 hpasses.safe⟩
  · obtain ⟨p, network, i, rfl⟩ := provider hended.last
    exact ⟨p, network, i, hended.last, hended.ending.exchange hended.admits.reserved⟩

/-- What a run has called and how it leaves the hold, where the client at index `n` is the last that
was called and `r` is the row of the request. -/
structure BilledOnce (result : Except Failure Response) (w : Scene DB Neighbour Own) (n : Nat)
    (client : Client) (r : ModelRequest) : Prop where
  last : a.eligible[n]? = some client
  called : w.own.called = calls a (n + 1)
  row : w.db.requests.get? a.requestId = some r
  intact : Intact w.db
  before : FailedOver a a.eligible n
  /-- No client is called after a stream was opened. -/
  opened : ∀ k ≤ n, ∀ other stream, a.eligible[k]? = some other →
    awaited a other = .ok (.inl stream) → k = n
  released : r.status = .failed → ∀ k ≤ n, ∃ other e, a.eligible[k]? = some other ∧
    awaited a other = .error (.provider e) ∧ e.requestMayBeBillable = false
  settled : r.Settled → ∃ json v r₀ t, awaited a client = .ok (.inr json) ∧
    Admits a.reserveArgs v r₀ ∧
    settlementTerms (Admitted.settlement ⟨a, v⟩ n client json) r₀ = .ok t ∧
    r = t.row (Admitted.settlement ⟨a, v⟩ n client json) r₀
  ended : r.status = .failed ∨ r.Settled ∨ r.status = .pendingReconciliation ∨
    r.status = .reserved ∧ a.directUpstreamStream ∧ ∃ f, result = .ok (.forwarded f a.requestId)
  /-- What the flags of a provider stand for. -/
  refused : ∀ k < n, ∀ (p : OpenAICompatibleProvider) network loads i,
    a.eligible[k]? = some (p.client network loads i) →
    (network.post a.upstreamPayload).Refuses a.directUpstreamStream
  exchange : ∀ (p : OpenAICompatibleProvider) network loads i, client = p.client network loads i →
    LastExchange loads p (network.post a.upstreamPayload) a.directUpstreamStream r
  /-- The generator of a forwarded stream ends the hold in its turn, unless it is dropped. -/
  stream : ∀ f loads consumer ended w', result = .ok (.forwarded f a.requestId) →
    (forwardStream loads ⟨a, f.reservation⟩ f consumer).2 w = (ended, w') →
    ∃ r', w'.db.requests.get? a.requestId = some r' ∧
      ((r'.Settled ∧ ∃ u, track loads streamLimit f.stream.chunks = .ok u ∧ u.done ∧
        trackedRow ⟨a, f.reservation⟩ f r u = .ok r') ∨
      r'.status = .pendingReconciliation ∨ r' = r ∧ ∃ k, consumer = .drops k)

theorem awaited_stream {a : ChatArgs} {client : Client} {stream : UpstreamStream}
    (h : awaited a client = .ok (.inl stream)) : a.directUpstreamStream := by
  unfold awaited at h
  split at h
  · rename_i openStream hopen
    exact (Option.filter_eq_some_iff.1 hopen).2
  · cases hresult : client.completion a.upstreamPayload <;> simp [hresult, Except.map] at h

theorem EndedBy.released {v : Reservation} {r₀ r : ModelRequest} {n : Nat} {client : Client}
    (h : EndedBy a result w v r₀ r n client) (hfailed : r.status = .failed) :
    ∃ e, awaited a client = .error (.provider e) ∧ e.requestMayBeBillable = false := by
  have hreserved := h.admits.reserved
  cases h.ending with
  | refused e awaits unbilled stays => exact ⟨e, awaits, unbilled⟩
  | settled json outcome t response completes answers =>
    rcases settled_row t (Admitted.settlement ⟨a, v⟩ n client json) r₀ with hs | hs <;>
      rw [hs] at hfailed <;> cases hfailed
  | unanswered json outcome t completes answers =>
    rcases settled_row t (Admitted.settlement ⟨a, v⟩ n client json) r₀ with hs | hs <;>
      rw [hs] at hfailed <;> cases hfailed
  | forwarded stream awaits name =>
    rw [hreserved] at hfailed
    cases hfailed
  | _ => cases hfailed

theorem EndedBy.settled {v : Reservation} {r₀ r : ModelRequest} {n : Nat} {client : Client}
    (h : EndedBy a result w v r₀ r n client) (hsettled : r.Settled) :
    ∃ json t, awaited a client = .ok (.inr json) ∧
      settlementTerms (Admitted.settlement ⟨a, v⟩ n client json) r₀ = .ok t ∧
      r = t.row (Admitted.settlement ⟨a, v⟩ n client json) r₀ := by
  have hreserved := h.admits.reserved
  cases h.ending with
  | settled json outcome t response completes answers =>
    exact ⟨json, t, completes.awaits, completes.terms, rfl⟩
  | unanswered json outcome t completes answers =>
    exact ⟨json, t, completes.awaits, completes.terms, rfl⟩
  | forwarded stream awaits name =>
    rcases hsettled with hs | hs <;> rw [hreserved] at hs <;> cases hs
  | refused e awaits unbilled stays => rcases hsettled with hs | hs <;> cases hs
  | _ => rcases hsettled with hs | hs <;> cases hs

theorem EndedBy.ended {v : Reservation} {r₀ r : ModelRequest} {n : Nat} {client : Client}
    (h : EndedBy a result w v r₀ r n client) :
    r.status = .failed ∨ r.Settled ∨ r.status = .pendingReconciliation ∨
      r.status = .reserved ∧ a.directUpstreamStream ∧
        ∃ f, result = .ok (.forwarded f a.requestId) := by
  have hid : (⟨a, v⟩ : Admitted).reservation.requestId = a.requestId := h.admits.id
  have hreserved := h.admits.reserved
  cases h.ending with
  | refused e awaits unbilled stays => exact .inl rfl
  | settled json outcome t response completes answers => exact .inr (.inl (settled_row ..))
  | unanswered json outcome t completes answers => exact .inr (.inl (settled_row ..))
  | forwarded stream awaits name =>
    exact .inr (.inr (.inr ⟨hreserved, awaited_stream awaits, _, by rw [hid]⟩))
  | _ => exact .inr (.inr (.inl rfl))

theorem EndedBy.streamed {v : Reservation} {r₀ r : ModelRequest} {n : Nat} {client : Client}
    {f : Forwarding} (h : EndedBy a (.ok (.forwarded f a.requestId)) w v r₀ r n client)
    (hothers : ∀ turn ∈ w.others, ∀ x ∈ turn,
      x.Apart a.requestId (a.eligible.map Client.attemptId) ∧ x.Spares a.requestId)
    (hclosed : Closed ⟨a, v⟩ r₀ (fun _ => False) n client (n + 1 = a.eligible.length)
      (calls a (n + 1)) (.ok (.forwarded f a.requestId)) w.db w.own)
    {loads : Bytes → Except LoadsExc Json} {consumer : Consumer} {w' : Scene DB Neighbour Own}
    {ended : Except StreamFailure Unit}
    (hgenerator : (forwardStream loads ⟨a, f.reservation⟩ f consumer).2 w = (ended, w')) :
    ∃ r', w'.db.requests.get? a.requestId = some r' ∧
      ((r'.Settled ∧ ∃ u, track loads streamLimit f.stream.chunks = .ok u ∧ u.done ∧
        trackedRow ⟨a, f.reservation⟩ f r u = .ok r') ∨
      r'.status = .pendingReconciliation ∨ r' = r ∧ ∃ k, consumer = .drops k) := by
  obtain rfl : f.reservation = v := hclosed.forwarded.1
  have hreserved := h.admits.reserved
  have hid : (⟨a, f.reservation⟩ : Admitted).reservation.requestId = a.requestId := h.admits.id
  obtain rfl : r = r₀ := by
    have hrow := hclosed.forwarded.2.2.1.resolve_right fun h => h.1
    rw [hid] at hrow
    exact Option.some.inj (h.row.symm.trans hrow)
  have hends := Closed.streamEnds (by rw [hid]; exact around_spared) hreserved ⟨hothers, hclosed⟩
    hgenerator
  rw [hid] at hends
  refine ⟨_, hends.2.resolve_right id, ?_⟩
  refine (streamedRow_cases hreserved).imp_left fun hsettled => ⟨hsettled, ?_⟩
  obtain ⟨u, -, -, htrack, hdone, hrow⟩ := (streamedRow_settled hreserved).1 hsettled
  exact ⟨u, htrack, hdone, hrow⟩

/-- Where others leave the row of the request, one run bills at most once: a client is called only
after all before it have failed safely and unbilled, the hold is released only after unbilled
failures and settled only from the last result, and no row stays reserved but behind a stream. -/
theorem failover_billed_once (hnodup : (a.eligible.map Client.attemptId).Nodup) (hd : d.Opened)
    (hattempts : d.attempts.rows = [])
    (hpast : ∀ n ∈ past, n.Apart a.requestId (a.eligible.map Client.attemptId))
    (hturns : ∀ turn ∈ turns, ∀ n ∈ turn,
      n.Apart a.requestId (a.eligible.map Client.attemptId) ∧ n.Spares a.requestId)
    (audits : Table SafetyAudit SafetyAudit.id)
    (hrun : chatCompletions a ⟨Run.after Neighbour.act d past, turns, ⟨[], audits⟩⟩ = (result, w)) :
    (w.own.called = [] ∧ w.db.requests.get? a.requestId = none) ∨
      ∃ n client r, BilledOnce a result w n client r := by
  obtain ⟨hothers, hfinished⟩ :=
    finished_of_run a around_spared hnodup hd hattempts hpast hturns audits hrun
  rcases hfinished with ⟨-, hcalled, habsent, -⟩ | ⟨v, r₀, hadmits, n, client, hget, hover, hclosed⟩
  · exact .inl ⟨hcalled, habsent⟩
  obtain ⟨r, h⟩ := hclosed.endedBy a hadmits hget hover
  refine .inr ⟨n, client, r, h.last, h.called, h.row, hclosed.1.intact, h.failedOver,
    fun k hk other stream hother hopened => ?_, fun hfailed k hk => ?_, fun hsettled => ?_,
    h.ended, fun k hk p network loads i hget => ?_, ?_, ?_⟩
  · by_contra hne
    obtain ⟨client', e, hget, hpasses⟩ := h.failedOver k (lt_of_le_of_ne hk hne)
    obtain rfl := Option.some.inj (hget.symm.trans hother)
    cases hpasses.awaits.symm.trans hopened
  · rcases lt_or_eq_of_le hk with hlt | rfl
    · obtain ⟨client', e, hget, hpasses⟩ := h.failedOver k hlt
      exact ⟨client', e, hget, hpasses.awaits, hpasses.unbilled⟩
    · obtain ⟨e, hawaits, hunbilled⟩ := h.released a hfailed
      exact ⟨client, e, h.last, hawaits, hunbilled⟩
  · obtain ⟨json, t, hawaits, hterms, hrow⟩ := h.settled a hsettled
    exact ⟨json, v, r₀, t, hawaits, h.admits, hterms, hrow⟩
  · obtain ⟨client', e, hget', hpasses⟩ := h.failedOver k hk
    obtain rfl := Option.some.inj (hget'.symm.trans hget)
    exact (awaited_toldBy hpasses.awaits hpasses.unbilled).2 hpasses.safe
  · rintro p network loads i rfl
    exact h.ending.exchange h.admits.reserved
  · rintro f loads consumer ended w' rfl hgenerator
    exact h.streamed a hothers hclosed hgenerator

end Prompts

/-- A provider of every model, at the prices of the catalogue. -/
def openProvider (name : String) : OpenAICompatibleProvider where
  config := ⟨py name, [], [], [], [], .finite 5, .finite 60⟩
  providerName := name
  named := rfl
  maxResponseBytes := 1000

def answeredNetwork (x : Exchange) : Network := ⟨fun _ => x, .ok ()⟩

def oneSettlement : Json := settlementResponse "m" 20 5

/-- What is read of the text of the settlement. -/
def oneAnswer : Bytes → Except LoadsExc Json := loadsOf [(oneSettlement, oneSettlement.dumps)]

def oneBody : Bytes := (utf8? oneSettlement.dumps).getD []

/-- The first provider cannot be connected to, the second is busy, and the third answers. -/
def thirdAnswers : ChatArgs := { secondAnswers with
  orderedClients := [
    (openProvider "first").client (answeredNetwork (.failed .connectTimeout))
      oneAnswer "first-attempt",
    (openProvider "second").client (answeredNetwork (.answered 429 [] (.ok ())))
      oneAnswer "second-attempt",
    (openProvider "third").client
      (answeredNetwork (.answered 200 [oneBody.take 10, oneBody.drop 10] (.ok ())))
        oneAnswer "third-attempt"] }

theorem prompt_posted_third :
    let run := chatCompletions thirdAnswers
      ⟨Run.after Neighbour.act shop ((chat.take 3).map .op), [], ⟨[], .empty⟩⟩
    run.2.own.called.map Prod.fst = [0, 1, 2] ∧ (run.2.db.requests.get? "q").map
      (·.status) = some .settled ∧
      ∃ n r, run.2.own.called = calls thirdAnswers (n + 1) ∧
        run.2.db.requests.get? "q" = some r := by
  intro run
  have hcalled : run.2.own.called.map Prod.fst = [0, 1, 2] := by decide +kernel
  refine ⟨hcalled, by decide +kernel, ?_⟩
  have hposted := prompt_posted thirdAnswers oneAnswer (fun client hclient => ?_) (by decide)
    opened_shop rfl (fun n hn => ?_) (fun turn hturn => absurd hturn List.not_mem_nil) .empty
      (show chatCompletions thirdAnswers _ = (run.1, run.2) from rfl)
  · obtain ⟨n, r, h, hrow, -⟩ := hposted.resolve_left fun h => by
      rw [h.1] at hcalled
      cases hcalled
    exact ⟨n, r, h, hrow⟩
  · simp only [thirdAnswers, List.mem_cons, List.not_mem_nil, or_false] at hclient
    rcases hclient with rfl | rfl | rfl <;> exact ⟨_, _, _, rfl⟩
  · obtain ⟨op, hop, rfl⟩ := List.mem_map.1 hn
    simp only [chat, List.take_succ_cons, List.take_zero, List.mem_cons, List.not_mem_nil,
      or_false] at hop
    rcases hop with rfl | rfl | rfl <;> exact ⟨trivial, by decide⟩

theorem failover_billed_once_third :
    let run := chatCompletions thirdAnswers
      ⟨Run.after Neighbour.act shop ((chat.take 3).map .op), [], ⟨[], .empty⟩⟩
    run.2.own.called.map Prod.fst = [0, 1, 2] ∧ (run.2.db.requests.get? "q").map
      (·.status) = some .settled ∧
      ∃ n client r, BilledOnce thirdAnswers run.1 run.2 n client r := by
  intro run
  refine ⟨by decide +kernel, by decide +kernel, ?_⟩
  have hbilled := failover_billed_once thirdAnswers (by decide) opened_shop rfl (fun n hn => ?_)
    (fun turn hturn => absurd hturn List.not_mem_nil) .empty
    (show chatCompletions thirdAnswers _ = (run.1, run.2) from rfl)
  · obtain ⟨n, client, r, h⟩ := hbilled.resolve_left fun h => by
      have hrow : run.2.db.requests.get? "q" ≠ none := by decide +kernel
      exact hrow h.2
    exact ⟨n, client, r, h⟩
  · obtain ⟨op, hop, rfl⟩ := List.mem_map.1 hn
    simp only [chat, List.take_succ_cons, List.take_zero, List.mem_cons, List.not_mem_nil,
      or_false] at hop
    rcases hop with rfl | rfl | rfl <;> exact ⟨trivial, by decide⟩

end Kunlun.Completions
