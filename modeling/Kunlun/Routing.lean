import Kunlun.Synthesis
import Mathlib.Data.List.Dedup
import Mathlib.Data.List.Lex

/-!
# Routes and their prices (`config.py`, `providers.py`)

The production gate and the builder of the clients read the same JSON, each in its own way. Of
the settings stand here the models and the providers.
-/

namespace Kunlun.Routing

inductive PyExc where
  | runtimeError (message : PyStr)
  | typeError
  | valueError
  | overflowError
  | attributeError
  deriving DecidableEq

/-- `except (TypeError, ValueError)` -/
def PyExc.unreadable : PyExc → Bool
  | .typeError | .valueError => true
  | _ => false

/-- A float, unless it is infinite or no number. -/
inductive PyFloat where
  | finite (q : ℚ)
  | other
  deriving DecidableEq

def PyFloat.within (low high : ℚ) : PyFloat → Bool
  | .finite q => decide (low ≤ q ∧ q ≤ high)
  | .other => false

structure Url where
  scheme : PyStr
  hostname : Option PyStr
  username : Option PyStr
  password : Option PyStr
  query : PyStr
  fragment : PyStr

/-- What is called of the standard library. -/
structure Library where
  casefold : PyStr → PyStr
  strip : PyStr → PyStr
  /-- `str` of a value that is no text. -/
  text : Json → PyStr
  /-- `int` of a value that is no integer. -/
  int : Json → Except PyExc Int
  float : Json → Except PyExc PyFloat
  urlparse : PyStr → Except PyExc Url
  /-- `os.getenv(name, "")` -/
  getenv : PyStr → PyStr

/-- `d.get(field) or …` -/
def truthyField (d : Json) (field : String) : Option Json := (d.get? (py field)).filter Json.truthy

section Values

variable (L : Library)

def strOf : Json → PyStr
  | .str s => s
  | v => L.text v

def intOf : Json → Except PyExc Int
  | .int n => .ok n
  | v => L.int v

/-- `str(provider.get("name") or f"provider-{index + 1}")` -/
def providerName (index : Nat) (provider : Json) : PyStr :=
  match truthyField provider "name" with
  | some v => strOf L v
  | none => py "provider-" ++ py (toString (index + 1))

/-- `str(provider.get(field) or "")` -/
def textField (provider : Json) (field : String) : PyStr :=
  match truthyField provider field with
  | some v => strOf L v
  | none => []

end Values

/-! ## The settings -/

structure Settings where
  environment : PyStr
  liveUpstream : Bool
  modelCatalogExplicit : Bool
  /-- `models`, a dictionary. -/
  models : List (PyStr × Json)
  maxOutputTokens : Int
  providers : List Json
  providerHostAllowlist : List PyStr

def Settings.catalogue (s : Settings) : List PyStr := s.models.map Prod.fst

def inputPrice : PyStr := py "input_microusd_per_million"

def outputPrice : PyStr := py "output_microusd_per_million"

def priceFields : List PyStr := [inputPrice, outputPrice]

def isPrice (n : Int) : Bool := 0 ≤ n && n ≤ 1000000000000

/-- An integer in range, and no truth value. -/
def priceOf? : Option Json → Option Int
  | some (.int n) => if isPrice n then some n else none
  | _ => none

/-- `set(prices) == price_fields`, and each of them is a price. -/
def completePrices : Option Json → Bool
  | some (.obj items) =>
    (items.map Prod.fst).all (· ∈ priceFields) &&
      priceFields.all fun field => (priceOf? ((Json.obj items).get? field)).isSome
  | _ => false

/-- `d.get(key)`, which hashes the key. -/
def getKey (d : Json) : Json → Except PyExc (Option Json)
  | .str k => .ok (d.get? k)
  | .arr _ | .obj _ => .error .typeError
  | _ => .ok none

/-- `raw_pricing.get(model) if isinstance(raw_pricing, dict) else None` -/
def pricesFor (pricing : Option Json) (model : Json) : Except PyExc (Option Json) :=
  match pricing with
  | some (.obj items) => getKey (.obj items) model
  | _ => .ok none

section Validate

variable (L : Library)

def Settings.isProduction (s : Settings) : Bool :=
  L.casefold (L.strip s.environment) = py "production"

/-- What the gate misses of one model of a provider. -/
def priceGate (name : PyStr) (pricing : Option Json) (model : Json) :
    Except PyExc (List PyStr) := do
  let prices ← pricesFor pricing model
  return if completePrices prices then []
    else [py "Provider " ++ name ++ py " 模型 " ++ strOf L model ++ py " 完整上游价格"]

def catalogueModel? (catalogue : List PyStr) : Json → Option PyStr
  | .str m => if m ∈ catalogue then some m else none
  | _ => none

/-- What the gate misses of a provider, and the models that it routes. -/
def providerGate (catalogue : List PyStr) (index : Nat) (provider : Json) :
    Except PyExc (List PyStr × List PyStr) :=
  match provider with
  | .obj _ =>
    let name := providerName L index provider
    match provider.get? (py "models") with
    | some (.arr (first :: others)) => do
      let rawModels := first :: others
      let normalizedModels := (rawModels.filterMap (catalogueModel? catalogue)).dedup
      let listed := if normalizedModels.length ≠ rawModels.length then
        [py "Provider " ++ name ++ py " 模型必须全部来自 KUNLUN_MODELS_JSON"] else []
      let priced ← rawModels.mapM (priceGate L name (provider.get? (py "pricing")))
      return (listed ++ priced.flatten, normalizedModels)
    | _ => .ok ([py "Provider " ++ name ++ py " 显式模型列表"], [])
  | _ => .ok ([py "Provider " ++ py (toString (index + 1)) ++ py " 显式模型列表与完整上游价格"], [])

/-- What the gate for the live upstream misses. -/
def upstreamGate (s : Settings) : Except PyExc (List PyStr) := do
  let explicit := if s.modelCatalogExplicit then []
    else [py "显式 KUNLUN_MODELS_JSON（禁止生产使用内置 test-model）"]
  let gates ← s.providers.zipIdx.mapM fun p => providerGate L s.catalogue p.2 p.1
  let routed := gates.flatMap Prod.snd
  let unrouted := (s.catalogue.filter (· ∉ routed)).mergeSort fun a b => decide (a ≤ b)
  return explicit ++ gates.flatMap Prod.fst ++
    if unrouted = [] then [] else [py "模型目录存在无供应商路由: " ++ (py ", ").intercalate unrouted]

/-- A catalogue has a price and a limit for each of its models. -/
def checkModel (maxOutputTokens : Int) (p : PyStr × Json) : Except PyExc Unit := do
  if L.strip p.1 = [] ∨ 120 < p.1.length ∨ ¬ p.2.isObj then throw (.runtimeError (py "模型目录格式无效"))
  if ¬ priceFields.all fun field => (priceOf? (p.2.get? field)).isSome then
    throw (.runtimeError (py "模型 " ++ p.1 ++ py " 的价格无效"))
  let limited : Bool := match (p.2.get? (py "max_output_tokens")).getD (.int maxOutputTokens) with
    | .int n => 1 ≤ n && n ≤ maxOutputTokens
    | _ => false
  if ¬ limited then throw (.runtimeError (py "模型 " ++ p.1 ++ py " 的输出上限无效"))

/-- The host of a provider, for the check of the allowlist. -/
def configuredHost (provider : Json) : Except PyExc PyStr :=
  match provider with
  | .obj _ => do
    let parsed ← L.urlparse (textField L provider "base_url")
    return L.casefold (parsed.hostname.getD [])
  | _ => .error .attributeError

def hostsOf (s : Settings) : Except PyExc (List PyStr) :=
  if s.liveUpstream then s.providers.mapM (configuredHost L) else .ok []

def gateOf (s : Settings) : Except PyExc (List PyStr) := if s.liveUpstream then
    upstreamGate L s else .ok []

/-- The checks of the models and the providers. `others` is what the production gate misses of
other settings. -/
def validate (s : Settings) (others : List PyStr) : Except PyExc Unit := do
  if L.casefold (L.strip s.environment) ∉ [py "development", py "test", py "staging",
    py "production"] then
    throw (.runtimeError (py "KUNLUN_ENV 必须是 development、test、staging 或 production"))
  if L.casefold (L.strip s.environment) = py "staging" ∧ s.liveUpstream then
    throw (.runtimeError (py
      "staging 环境禁止开启 public_signup、live_upstream、live_payments 或 enable_test_payments"))
  if ¬ s.isProduction L ∧ s.liveUpstream then
    throw (.runtimeError (py "真实模型上游与真实支付仅允许在 production 环境开启"))
  if s.models = [] ∨ 256 < s.models.length then throw (.runtimeError (py "模型目录必须包含 1 到 256 个模型"))
  let _ ← s.models.mapM (checkModel L s.maxOutputTokens)
  if s.liveUpstream ∧ s.providers = [] then
    throw (.runtimeError (py "真实上游开启时必须配置 KUNLUN_PROVIDERS_JSON"))
  if s.liveUpstream ∧ s.providerHostAllowlist = [] then
    throw (.runtimeError (py "真实上游开启时必须配置 KUNLUN_PROVIDER_HOST_ALLOWLIST"))
  let hosts ← hostsOf L s
  let unexpected := (hosts.filter (· ∉ s.providerHostAllowlist)).dedup.mergeSort
    fun a b => decide (a ≤ b)
  if unexpected ≠ [] then throw (.runtimeError (py "Provider 主机不在允许列表: " ++ (py ", ").intercalate unexpected))
  let gate ← gateOf L s
  if s.isProduction L ∧ others ++ gate ≠ [] then
    throw (.runtimeError (py "生产配置未通过安全门禁: " ++ (py ", ").intercalate (others ++ gate)))

end Validate

/-! ## The clients -/

structure Client where
  providerName : PyStr
  baseUrl : PyStr
  apiKey : PyStr
  models : List PyStr
  pricing : List (PyStr × List (PyStr × Int))
  connectTimeoutSeconds : PyFloat
  readTimeoutSeconds : PyFloat
  deriving DecidableEq

def Client.supportsModel (c : Client) (model : PyStr) : Bool := c.models = [] || model ∈ c.models

def Client.upstreamPrices (c : Client) (model : PyStr)
    (fallbackInput fallbackOutput : Int) : Int × Int :=
  let configured := (c.pricing.lookup model).getD []
  ((configured.lookup inputPrice).getD fallbackInput,
    (configured.lookup outputPrice).getD fallbackOutput)

section Build

variable (L : Library)

def refuse {α : Type} (name : PyStr) (reason : String) : Except PyExc α :=
  .error (.runtimeError (py "Provider " ++ name ++ py reason))

def normalizedPrice (name : PyStr) (p : PyStr × Json) : Except PyExc (PyStr × Int) := do
  match p.2 with
  | .bool _ => refuse name " 的价格必须是非负整数"
  | v =>
    match intOf L v with
    | .error e => if e.unreadable then refuse name " 的价格必须是非负整数" else .error e
    | .ok amount => if isPrice amount then return (p.1, amount) else refuse name " 的价格超出安全范围"

def normalizedPricing (name : PyStr) (p : PyStr × Json) :
    Except PyExc (PyStr × List (PyStr × Int)) :=
  match p.2 with
  | .obj prices =>
    if (prices.map Prod.fst).all (· ∈ priceFields) then do
      let normalized ← prices.mapM (normalizedPrice L name)
      return (p.1, normalized)
    else refuse name " 的价格配置无效"
  | _ => refuse name " 的价格配置无效"

def pricingOf (name : PyStr) (config : Json) : Except PyExc (List (PyStr × List (PyStr × Int))) :=
  match (truthyField config "pricing").getD (.obj []) with
  | .obj items =>
    if 256 < items.length then refuse name " 的价格配置无效" else items.mapM (normalizedPricing L name)
  | _ => refuse name " 的价格配置无效"

/-- A text of 1 to 120 characters. -/
def modelName? : Json → Option PyStr
  | .str m => if m ≠ [] ∧ m.length ≤ 120 then some m else none
  | _ => none

def modelsOf (name : PyStr) (config : Json) : Except PyExc (List PyStr) :=
  match (truthyField config "models").getD (.arr []) with
  | .arr items =>
    if 256 < items.length then refuse name " 的模型列表无效"
    else match items.mapM modelName? with
      | some models => .ok models
      | none => refuse name " 的模型名称无效"
  | _ => refuse name " 的模型列表无效"

def timeoutOf (name : PyStr) (config : Json) (field : String) (default : ℚ) :
    Except PyExc PyFloat :=
  match config.get? (py field) with
  | none => .ok (.finite default)
  | some v =>
    match L.float v with
    | .ok q => .ok q
    | .error e => if e.unreadable then refuse name " 的超时配置无效" else .error e

/-- The address of a provider, and its key. -/
def endpointOf (allowedHosts : List PyStr) (name : PyStr) (config : Json) :
    Except PyExc (PyStr × PyStr) := do
  let baseUrl := L.strip (textField L config "base_url")
  let apiKeyEnv := L.strip (textField L config "api_key_env")
  if baseUrl = [] ∨ apiKeyEnv = [] then refuse name " 缺少 base_url 或 api_key_env"
  let parsed ← L.urlparse baseUrl
  let localHttp := parsed.scheme = py "http" ∧
    parsed.hostname ∈ [some (py "127.0.0.1"), some (py "localhost"), some (py "::1")]
  if parsed.scheme ≠ py "https" ∧ ¬ localHttp then refuse name " 必须使用 HTTPS 或本机回环地址"
  if parsed.username.getD [] ≠ [] ∨ parsed.password.getD [] ≠ [] ∨ parsed.query ≠ [] ∨
    parsed.fragment ≠ [] then
    refuse name " 的 base_url 含禁止的凭证、查询或片段"
  if parsed.hostname.getD [] = [] then refuse name " 的 base_url 缺少主机"
  if L.casefold (parsed.hostname.getD []) ∉ allowedHosts then refuse name " 的主机不在允许列表"
  if L.getenv apiKeyEnv = [] then refuse name " 引用的环境变量未设置"
  return (baseUrl, L.getenv apiKeyEnv)

def buildClient (allowedHosts : List PyStr) (index : Nat) (config : Json) :
    Except PyExc Client := do
  if ¬ config.isObj then throw (.runtimeError (py "Provider 配置必须是对象"))
  let name := providerName L index config
  if 80 < name.length then throw (.runtimeError (py "Provider 名称过长"))
  let (baseUrl, apiKey) ← endpointOf L allowedHosts name config
  let models ← modelsOf name config
  let connectTimeout ← timeoutOf L name config "connect_timeout_seconds" 5
  let readTimeout ← timeoutOf L name config "read_timeout_seconds" 60
  if ¬ connectTimeout.within (1 / 10) 30 then refuse name " 的连接超时必须位于 0.1 到 30 秒"
  if ¬ readTimeout.within 1 600 then refuse name " 的读取超时必须位于 1 到 600 秒"
  let pricing ← pricingOf L name config
  return ⟨name, baseUrl, apiKey, models, pricing, connectTimeout, readTimeout⟩

def buildProviderClients (configs : List Json) (allowedHosts : List PyStr) :
    Except PyExc (List Client) := do
  if 32 < configs.length then throw (.runtimeError (py "Provider 数量超过安全上限"))
  configs.zipIdx.mapM fun p => buildClient L allowedHosts p.2 p.1

end Build

/-! ## What the gate lets through -/

section Gate

variable {L : Library} {catalogue : List PyStr} {index : Nat} {provider : Json}

/-- A provider that the gate misses nothing of. -/
structure Routed (catalogue : List PyStr) (provider : Json) (models : List PyStr) : Prop where
  listed : provider.get? (py "models") = some (.arr (models.map .str))
  nonempty : models ≠ []
  known : ∀ m ∈ models, m ∈ catalogue
  priced : ∀ m ∈ models, ∃ items prices, provider.get? (py "pricing") = some (.obj items) ∧
    (Json.obj items).get? m = some prices ∧ completePrices (some prices)

theorem priceGate_nil {name : PyStr} {pricing : Option Json} {m : PyStr}
    (h : priceGate L name pricing (.str m) = .ok []) :
    ∃ items prices, pricing = some (.obj items) ∧ (Json.obj items).get? m = some prices ∧
      completePrices (some prices) := by
  unfold priceGate at h
  obtain ⟨prices, hprices, h⟩ := except_bind_ok.1 h
  have hcomplete : completePrices prices := by
    by_contra hnot
    rw [if_neg hnot] at h
    exact absurd (Except.ok.inj h) (List.cons_ne_nil _ _)
  obtain ⟨value, rfl⟩ : ∃ value, prices = some value := by
    cases prices with
    | none => cases hcomplete
    | some value => exact ⟨value, rfl⟩
  unfold pricesFor at hprices
  split at hprices
  · exact ⟨_, value, rfl, Except.ok.inj hprices, hcomplete⟩
  · cases hprices

theorem eq_map_filterMap {α β : Type} {f : α → Option β} {g : β → α}
    (hf : ∀ x y, f x = some y → x = g y) {l : List α}
    (h : l.length ≤ (l.filterMap f).length) : l = (l.filterMap f).map g := by
  induction l with
  | nil => rfl
  | cons x l ih =>
    have hle := List.length_filterMap_le f l
    cases hx : f x with
    | none =>
      rw [List.filterMap_cons_none hx, List.length_cons] at h
      omega
    | some y =>
      rw [List.filterMap_cons_some hx, List.length_cons, List.length_cons] at h
      rw [List.filterMap_cons_some hx, List.map_cons, ← hf x y hx, ← ih (by omega)]

theorem providerGate_nil {models : List PyStr}
    (h : providerGate L catalogue index provider = .ok ([], models)) :
    ∃ raw, Routed catalogue provider raw ∧ ∀ m ∈ models, m ∈ raw := by
  unfold providerGate at h
  split at h
  · split at h
    · rename_i first others hmodels
      obtain ⟨priced, hpriced, h⟩ := except_bind_ok.1 h
      obtain ⟨hmissing, rfl⟩ := Prod.mk.inj (Except.ok.inj h)
      obtain ⟨hlisted, hflat⟩ := List.append_eq_nil_iff.1 hmissing
      have hknown (x : Json) (m : PyStr) (hx : catalogueModel? catalogue x = some m) :
          x = .str m ∧ m ∈ catalogue := by
        unfold catalogueModel? at hx
        split at hx
        · split_ifs at hx with hmem
          rw [← Option.some.inj hx]
          exact ⟨rfl, hmem⟩
        · cases hx
      have hlength : (first :: others).length ≤
          ((first :: others).filterMap (catalogueModel? catalogue)).length := by
        have hdedup := (List.dedup_sublist
          ((first :: others).filterMap (catalogueModel? catalogue))).length_le
        split_ifs at hlisted with hne
        have heq := not_not.1 hne
        omega
      have hraw := eq_map_filterMap (fun x m hx => (hknown x m hx).1) hlength
      refine ⟨(first :: others).filterMap (catalogueModel? catalogue), ⟨?_, ?_, ?_, ?_⟩, fun m hm =>
        List.mem_dedup.1 hm⟩
      · rw [← hraw]
        exact hmodels
      · intro hnil
        rw [hnil] at hlength
        exact absurd hlength (by simp)
      · intro m hm
        obtain ⟨x, -, hx⟩ := List.mem_filterMap.1 hm
        exact (hknown x m hx).2
      · intro m hm
        obtain ⟨x, hmem, hx⟩ := List.mem_filterMap.1 hm
        obtain ⟨missed, hmissed, hgate⟩ := mapM_ok_left hpriced x hmem
        rw [(hknown x m hx).1, List.flatten_eq_nil_iff.1 hflat missed hmissed] at hgate
        exact priceGate_nil hgate
    · cases h
  · cases h

theorem upstreamGate_nil {s : Settings} (h : upstreamGate L s = .ok []) :
    (∀ m ∈ s.catalogue, ∃ p ∈ s.providers.zipIdx, ∃ raw, Routed s.catalogue p.1 raw ∧ m ∈ raw) ∧
      ∀ p ∈ s.providers.zipIdx, ∃ raw, Routed s.catalogue p.1 raw := by
  unfold upstreamGate at h
  obtain ⟨gates, hgates, h⟩ := except_bind_ok.1 h
  obtain ⟨hmissing, hunrouted⟩ := List.append_eq_nil_iff.1 (Except.ok.inj h)
  obtain ⟨-, hproviders⟩ := List.append_eq_nil_iff.1 hmissing
  have hempty (gate : List PyStr × List PyStr) (hgate : gate ∈ gates) : gate = ([], gate.2) :=
    Prod.ext (List.flatMap_eq_nil_iff.1 hproviders gate hgate) rfl
  constructor
  · intro m hm
    have hrouted : m ∈ gates.flatMap Prod.snd := by
      by_contra hnot
      split_ifs at hunrouted with hnil
      have hmem : m ∈ (s.catalogue.filter (· ∉ gates.flatMap Prod.snd)).mergeSort
          fun a b => decide (a ≤ b) :=
        (List.mergeSort_perm _ _).mem_iff.2 (List.mem_filter.2 ⟨hm, decide_eq_true hnot⟩)
      rw [hnil] at hmem
      cases hmem
    obtain ⟨gate, hgate, hmodel⟩ := List.mem_flatMap.1 hrouted
    obtain ⟨p, hp, hread⟩ := mapM_ok_right hgates gate hgate
    rw [hempty gate hgate] at hread
    obtain ⟨raw, hraw, hsub⟩ := providerGate_nil hread
    exact ⟨p, hp, raw, hraw, hsub m hmodel⟩
  · intro p hp
    obtain ⟨gate, hgate, hread⟩ := mapM_ok_left hgates p hp
    rw [hempty gate hgate] at hread
    obtain ⟨raw, hraw, -⟩ := providerGate_nil hread
    exact ⟨raw, hraw⟩

theorem validate_gate {s : Settings} {others : List PyStr} (h : validate L s others = .ok ())
    (hproduction : s.isProduction L)
    (hlive : s.liveUpstream) : upstreamGate L s = .ok [] := by
  unfold validate at h
  obtain ⟨-, h⟩ := except_unless_ok.1 h
  obtain ⟨-, h⟩ := except_unless_ok.1 h
  obtain ⟨-, h⟩ := except_unless_ok.1 h
  obtain ⟨-, h⟩ := except_unless_ok.1 h
  obtain ⟨_, -, h⟩ := except_bind_ok.1 h
  obtain ⟨-, h⟩ := except_unless_ok.1 h
  obtain ⟨-, h⟩ := except_unless_ok.1 h
  obtain ⟨_, -, h⟩ := except_bind_ok.1 h
  obtain ⟨-, h⟩ := except_unless_ok.1 h
  obtain ⟨gate, hgate, h⟩ := except_bind_ok.1 h
  obtain ⟨hmissing, -⟩ := except_unless_ok.1 h
  rw [gateOf, if_pos hlive] at hgate
  rw [not_and, not_not] at hmissing
  rw [hgate, (List.append_eq_nil_iff.1 (hmissing hproduction)).2]

end Gate

/-! ## What the builder makes of it -/

section Built

variable {L : Library}

theorem lookup_mapM {α ε : Type} {f : PyStr × Json → Except ε (PyStr × α)}
    (hkey : ∀ p q, f p = .ok q → q.1 = p.1)
    {items : List (PyStr × Json)} {l : List (PyStr × α)} (h : items.mapM f = .ok l)
    {k : PyStr} {v : Json}
    (hv : (Json.obj items).get? k = some v) : ∃ a, f (k, v) = .ok (k, a) ∧ l.lookup k = some a := by
  induction items generalizing l with
  | nil => cases hv
  | cons p items ih =>
    rw [List.mapM_cons] at h
    obtain ⟨q, hq, h⟩ := except_bind_ok.1 h
    obtain ⟨qs, hqs, h⟩ := except_bind_ok.1 h
    rw [← Except.ok.inj h]
    have hkeys := hkey p q hq
    by_cases hp : p.1 = k
    · have hpv : p = (k, v) := by
        rw [Json.get?, List.find?_cons_of_pos (by simpa using hp)] at hv
        exact Prod.ext hp (Option.some.inj hv)
      have hqk : q = (k, q.2) := Prod.ext (hkeys.trans hp) rfl
      rw [hpv, hqk] at hq
      refine ⟨q.2, hq, ?_⟩
      rw [hqk]
      exact List.lookup_cons_self
    · rw [Json.get?, List.find?_cons_of_neg (by simpa using hp)] at hv
      obtain ⟨a, ha, hlookup⟩ := ih hqs hv
      refine ⟨a, ha, ?_⟩
      have hne : (k == q.1) = false := by
        rw [beq_eq_false_iff_ne, hkeys]
        exact fun heq => hp heq.symm
      rw [List.lookup_cons, hne]
      exact hlookup

theorem normalizedPrice_key {name : PyStr} (p : PyStr × Json) (q : PyStr × Int)
    (h : normalizedPrice L name p = .ok q) :
    q.1 = p.1 := by
  unfold normalizedPrice at h
  split at h
  · cases h
  · split at h
    · split_ifs at h
      cases h
    · split_ifs at h
      · rw [← Except.ok.inj h]
      · cases h

theorem normalizedPricing_key {name : PyStr} (p : PyStr × Json) (q : PyStr × List (PyStr × Int))
    (h : normalizedPricing L name p = .ok q) : q.1 = p.1 := by
  unfold normalizedPricing at h
  split at h
  · split_ifs at h
    · obtain ⟨_, -, h⟩ := except_bind_ok.1 h
      rw [← Except.ok.inj h]
    · cases h
  · cases h

theorem lookup_price {name model field : PyStr} {prices : Json}
    {normalized : List (PyStr × Int)} {n : Int}
    (h : normalizedPricing L name (model, prices) = .ok (model, normalized))
    (hn : priceOf? (prices.get? field) = some n) :
    normalized.lookup field = some n := by
  unfold normalizedPricing at h
  split at h
  · rename_i items hitems
    dsimp only at hitems
    rw [hitems] at hn
    split_ifs at h
    · obtain ⟨l, hl, h⟩ := except_bind_ok.1 h
      obtain ⟨-, rfl⟩ := Prod.mk.inj (Except.ok.inj h)
      obtain ⟨m, hm, hprice⟩ : ∃ m, (Json.obj items).get? field =
          some (.int m) ∧ m = n ∧ isPrice m := by
        unfold priceOf? at hn
        split at hn
        · rename_i m hfield
          split_ifs at hn with hprice
          exact ⟨m, hfield, Option.some.inj hn, hprice⟩
        · cases hn
      obtain ⟨a, ha, hlookup⟩ := lookup_mapM (normalizedPrice_key (L := L)) hl hm
      unfold normalizedPrice intOf at ha
      dsimp only at ha
      rw [if_pos hprice.2] at ha
      rw [hlookup, ← hprice.1, (Prod.mk.inj (Except.ok.inj ha)).2]
    · cases h
  · cases h

/-- A client that supports what is routed, at prices of its own. -/
structure Client.SelfPriced (c : Client) (raw : List PyStr) : Prop where
  models : c.models = raw
  priced : ∀ m ∈ raw, ∃ input output, ∀ a b, c.upstreamPrices m a b = (input, output)

theorem modelsOf_routed {catalogue raw models : List PyStr} {name : PyStr} {config : Json}
    (hrouted : Routed catalogue config raw)
    (h : modelsOf name config = .ok models) : models = raw := by
  have hread (raw models : List PyStr) (h : (raw.map Json.str).mapM modelName? = some models) :
      models = raw := by
    induction raw generalizing models with
    | nil => exact (Option.some.inj h).symm
    | cons m raw ih =>
      rw [List.map_cons, List.mapM_cons] at h
      obtain ⟨y, hy, h⟩ := Option.bind_eq_some_iff.1 h
      obtain ⟨ys, hys, h⟩ := Option.bind_eq_some_iff.1 h
      rw [← Option.some.inj h, ih ys hys]
      unfold modelName? at hy
      dsimp only at hy
      split_ifs at hy
      rw [Option.some.inj hy]
  have htruthy : (Json.arr (raw.map .str)).truthy = true := by
    have hne := hrouted.nonempty
    cases raw with
    | nil => exact absurd rfl hne
    | cons m raw => rfl
  unfold modelsOf truthyField at h
  rw [hrouted.listed, Option.filter_some, if_pos htruthy, Option.getD_some] at h
  dsimp only at h
  split_ifs at h
  · cases h
  split at h
  · rename_i models' hmodels
    rw [← Except.ok.inj h]
    exact hread raw models' hmodels
  · cases h

theorem pricingOf_routed {catalogue raw : List PyStr} {name : PyStr} {config : Json}
    (hrouted : Routed catalogue config raw)
    {pricing : List (PyStr × List (PyStr × Int))} (h : pricingOf L name config = .ok pricing)
    {m : PyStr} (hm : m ∈ raw) :
    ∃ normalized input output, pricing.lookup m = some normalized ∧
      normalized.lookup inputPrice = some input ∧
      normalized.lookup outputPrice = some output := by
  obtain ⟨items, prices, hpricing, hprices, hcomplete⟩ := hrouted.priced m hm
  have htruthy : (Json.obj items).truthy = true := by
    cases items with
    | nil => cases hprices
    | cons p items => rfl
  unfold pricingOf truthyField at h
  rw [hpricing, Option.filter_some, if_pos htruthy, Option.getD_some] at h
  dsimp only at h
  split_ifs at h
  · cases h
  obtain ⟨normalized, hnormalized, hlookup⟩ :=
    lookup_mapM (normalizedPricing_key (L := L)) h hprices
  unfold completePrices at hcomplete
  split at hcomplete
  · rename_i fields heq
    obtain rfl := Option.some.inj heq
    rw [Bool.and_eq_true, priceFields, List.all_cons, List.all_cons, Bool.and_eq_true,
      Bool.and_eq_true] at hcomplete
    obtain ⟨input, hinput⟩ := Option.isSome_iff_exists.1 hcomplete.2.1
    obtain ⟨output, houtput⟩ := Option.isSome_iff_exists.1 hcomplete.2.2.1
    exact ⟨normalized, input, output, hlookup, lookup_price hnormalized hinput,
      lookup_price hnormalized houtput⟩
  · cases hcomplete

theorem buildClient_routed {catalogue raw allowedHosts : List PyStr} {index : Nat}
    {config : Json} {c : Client}
    (hrouted : Routed catalogue config raw)
    (h : buildClient L allowedHosts index config = .ok c) : c.SelfPriced raw := by
  unfold buildClient at h
  obtain ⟨-, h⟩ := except_unless_ok.1 h
  obtain ⟨-, h⟩ := except_unless_ok.1 h
  obtain ⟨_, -, h⟩ := except_bind_ok.1 h
  obtain ⟨models, hmodels, h⟩ := except_bind_ok.1 h
  obtain ⟨_, -, h⟩ := except_bind_ok.1 h
  obtain ⟨_, -, h⟩ := except_bind_ok.1 h
  obtain ⟨-, h⟩ := except_unless_ok.1 h
  obtain ⟨-, h⟩ := except_unless_ok.1 h
  obtain ⟨pricing, hpricing, h⟩ := except_bind_ok.1 h
  rw [← Except.ok.inj h]
  refine ⟨modelsOf_routed hrouted hmodels, fun m hm => ?_⟩
  obtain ⟨normalized, input, output, hnormalized, hinput, houtput⟩ :=
    pricingOf_routed hrouted hpricing hm
  refine ⟨input, output, fun a b => ?_⟩
  unfold Client.upstreamPrices
  dsimp only
  rw [hnormalized, Option.getD_some, hinput, houtput]
  rfl

theorem buildProviderClients_ok {providers : List Json} {allowedHosts : List PyStr}
    {clients : List Client}
    (h : buildProviderClients L providers allowedHosts = .ok clients) :
    (providers.zipIdx.mapM fun p => buildClient L allowedHosts p.2 p.1) = .ok clients :=
  (except_unless_ok.1 h).2

theorem supportsModel_iff {c : Client} {raw : List PyStr} (hmodels : c.models = raw)
    (hne : raw ≠ []) {model : PyStr} :
    c.supportsModel model = true ↔ model ∈ raw := by
  unfold Client.supportsModel
  rw [hmodels, Bool.or_eq_true, decide_eq_true_eq, decide_eq_true_eq]
  exact or_iff_right hne

/-- What production accepts is routed in full, and at prices of the providers. -/
theorem routing_complete {s : Settings} {others : List PyStr} {clients : List Client}
    (haccepted : validate L s others = .ok ())
    (hproduction : s.isProduction L) (hlive : s.liveUpstream)
    (hbuilt : buildProviderClients L s.providers s.providerHostAllowlist = .ok clients) :
    (∀ model ∈ s.catalogue, ∃ c ∈ clients, c.supportsModel model) ∧
      ∀ c ∈ clients, ∀ model, c.supportsModel model →
        model ∈ s.catalogue ∧ ∀ a b a' b', c.upstreamPrices model a b =
          c.upstreamPrices model a' b' := by
  obtain ⟨hcovered, hrouted⟩ := upstreamGate_nil (validate_gate haccepted hproduction hlive)
  have hclients := buildProviderClients_ok hbuilt
  constructor
  · intro model hmodel
    obtain ⟨p, hp, raw, hraw, hmem⟩ := hcovered model hmodel
    obtain ⟨c, hc, hread⟩ := mapM_ok_left hclients p hp
    exact ⟨c, hc, (supportsModel_iff (buildClient_routed hraw hread).models hraw.nonempty).2 hmem⟩
  · intro c hc model hsupported
    obtain ⟨p, hp, hread⟩ := mapM_ok_right hclients c hc
    obtain ⟨raw, hraw⟩ := hrouted p hp
    have hself := buildClient_routed hraw hread
    have hmem := (supportsModel_iff hself.models hraw.nonempty).1 hsupported
    obtain ⟨input, output, hprices⟩ := hself.priced model hmem
    refine ⟨hraw.known model hmem, fun a b a' b' => ?_⟩
    rw [hprices, hprices]

end Built

/-- The library, for one address and plain texts. -/
def plainLibrary : Library where
  casefold := id
  strip := id
  text _ := []
  int _ := .error .typeError
  float _ := .error .typeError
  urlparse s := if s = py "https://up.example/v1" then
    .ok ⟨py "https", some (py "up.example"), none, none, [], []⟩
    else .error .valueError
  getenv _ := py "key"

def samplePrices : Json := .obj [(inputPrice, .int 3), (outputPrice, .int 5)]

def sampleProvider : Json :=
  .obj [(py "base_url", .str (py "https://up.example/v1")), (py "api_key_env", .str (py "UP_KEY")),
    (py "models", .arr [.str (py "m")]), (py "pricing", .obj [(py "m", samplePrices)])]

def sampleSettings : Settings :=
  ⟨py "production", true, true, [(py "m", samplePrices)], 4096, [sampleProvider], [py "up.example"]⟩

def sampleClient : Client :=
  ⟨py "provider-1", py "https://up.example/v1", py "key", [py "m"],
    [(py "m", [(inputPrice, 3), (outputPrice, 5)])], .finite 5, .finite 60⟩

theorem sample_routed : (∀ model ∈ sampleSettings.catalogue, ∃ c ∈ [sampleClient],
    c.supportsModel model) ∧
    ∀ c ∈ [sampleClient], ∀ model, c.supportsModel model →
      model ∈ sampleSettings.catalogue ∧ ∀ a b a' b', c.upstreamPrices model a b =
        c.upstreamPrices model a' b' :=
  have haccepted : validate plainLibrary sampleSettings [] = .ok () := by decide +kernel
  routing_complete haccepted (by decide +kernel) rfl (by decide +kernel)

end Kunlun.Routing
