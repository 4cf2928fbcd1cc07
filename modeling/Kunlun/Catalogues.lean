import Kunlun.Billing
import Kunlun.Lib.Versions
import Mathlib.Data.Int.ConditionallyCompleteOrder

/-!
# The price catalogue (`_seed_prices`)

Each start of the process writes the configured models and their prices into the price table,
which the admission of a request and the list of models read.
-/

namespace Kunlun.Catalogues

/-! ## What is configured -/

/-- An entry of `settings.models`. -/
structure ModelConfig where
  model : String
  inputMicrousdPerMillion : Int
  outputMicrousdPerMillion : Int
  maxOutputTokens : Option Int
  deriving DecidableEq

/-- The limit of an entry, or that of the settings. -/
def ModelConfig.limit (defaultLimit : Int) (m : ModelConfig) : Int :=
  m.maxOutputTokens.getD defaultLimit

/-- What `validate` lets through: `settings.models` is a dictionary, and its numbers are in
range. -/
structure Catalogue where
  models : Table ModelConfig ModelConfig.model
  maxOutputTokens : Int
  prices : ∀ m ∈ models.rows,
    m.inputMicrousdPerMillion ∈ Set.Icc 0 1000000000000 ∧ m.outputMicrousdPerMillion ∈
      Set.Icc 0 1000000000000
  limits : ∀ m ∈ models.rows, m.limit maxOutputTokens ∈ Set.Icc 1 maxOutputTokens

/-- What a model costs, and how much it may write. -/
structure Terms where
  inputMicrousdPerMillion : Int
  outputMicrousdPerMillion : Int
  maxOutputTokens : Int
  deriving DecidableEq

def Catalogue.names (c : Catalogue) : List String := c.models.rows.map ModelConfig.model

def Catalogue.terms (c : Catalogue) (m : ModelConfig) : Terms :=
  ⟨m.inputMicrousdPerMillion, m.outputMicrousdPerMillion, m.limit c.maxOutputTokens⟩

/-- What the catalogue says of a model. -/
def Catalogue.offer (c : Catalogue) (model : String) : Option Terms :=
  (c.models.get? model).map c.terms

/-! ## `_seed_prices` -/

def terms (p : ModelPrice) : Terms :=
  ⟨p.inputMicrousdPerMillion, p.outputMicrousdPerMillion, p.maxOutputTokens⟩

def priceRows (model : String) (d : DB) : List ModelPrice :=
  d.prices.rows.filter fun p => p.model = model

def latestPrice (model : String) (d : DB) : Option ModelPrice :=
  Table.firstDesc (fun p => (p.version : Int)) (priceRows model d)

def unchanged (desired : Terms) (latest : Option ModelPrice) : Bool :=
  latest.any fun p => p.active && terms p = desired

def retire (p : ModelPrice) : ModelPrice := { p with active := false }

/-- A price with the version after the latest. -/
def nextPrice (id : Id) (model : String) (desired : Terms)
    (latest : Option ModelPrice) : ModelPrice where
  id := id
  model := model
  version := nextVersion ModelPrice.version latest
  inputMicrousdPerMillion := desired.inputMicrousdPerMillion
  outputMicrousdPerMillion := desired.outputMicrousdPerMillion
  maxOutputTokens := desired.maxOutputTokens
  active := true

/-- One turn of the loop. `newId` is the `uuid4` that it draws. -/
def seedModel (c : Catalogue) (newId : String → Id) (m : ModelConfig) : Service Unit := do
  let latest ← Tx.select (latestPrice m.model)
  if unchanged (c.terms m) latest then
    return
  let _ ← Tx.execute (DB.updatePrices (fun p => p.model = m.model ∧ p.active) retire)
  Tx.add (DB.insertPrice (nextPrice (newId m.model) m.model (c.terms m) latest))

/-- What another process has installed instead must be the same. -/
def acceptIdentical (c : Catalogue) (m : ModelConfig) : Service Unit := do
  let latest ← Tx.select (getPrice m.model)
  Tx.raiseIf (latest.map terms ≠ some (c.terms m)) (.runtimeError "模型价格目录并发初始化冲突")

/-- The session does not flush before a query, so all prices are written by the commit. -/
def seedPrices (c : Catalogue) (newId : String → Id) : Service Unit := do
  forM c.models.rows (seedModel c newId)
  Tx.tryExcept Tx.commit Exc.isIntegrityError fun _ => do
    Tx.rollback
    forM c.models.rows (acceptIdentical c)

/-- The models that `GET /v1/models` lists. -/
def listedModels (d : DB) : List String :=
  ((d.prices.rows.filter ModelPrice.active).map ModelPrice.model).mergeSort
    fun a b => decide (a ≤ b)

/-! ## What a start leaves -/

section Start

variable {c : Catalogue} {newId : String → Id}

@[simp]
theorem retire_model (p : ModelPrice) : (retire p).model = p.model := rfl

@[simp]
theorem retire_version (p : ModelPrice) : (retire p).version = p.version := rfl

@[simp]
theorem retire_active (p : ModelPrice) : (retire p).active = false := rfl

@[simp]
theorem terms_retire (p : ModelPrice) : terms (retire p) = terms p := rfl

theorem retire_of_inactive {p : ModelPrice} (h : p.active = false) : retire p = p := by
  rw [retire, ← h]

@[simp]
theorem nextPrice_model (id : Id) (model : String) (desired : Terms) (latest : Option ModelPrice) :
    (nextPrice id model desired latest).model = model := rfl

@[simp]
theorem terms_nextPrice (id : Id) (model : String) (desired : Terms) (latest : Option ModelPrice) :
    terms (nextPrice id model desired latest) = desired := rfl

theorem mem_priceRows {model : String} {d : DB} {p : ModelPrice} :
    p ∈ priceRows model d ↔ p ∈ d.prices.rows ∧ p.model = model := by
  rw [priceRows, List.mem_filter, decide_eq_true_eq]

theorem terms_of_unchanged {desired : Terms} {latest : Option ModelPrice}
    (h : unchanged desired latest) :
    latest.map terms = some desired := by
  cases latest with
  | none => cases h
  | some p =>
    rw [unchanged, Option.any_some, Bool.and_eq_true] at h
    rw [Option.map_some, of_decide_eq_true h.2]

theorem priceRows_update {name x : String} {d : DB} :
    priceRows x { d with prices := d.prices.update (fun p => p.model = name ∧ p.active) retire } =
      if x = name then (priceRows x d).map retire else priceRows x d := by
  unfold priceRows Table.update
  rw [List.filter_map]
  have hmodel : ((fun p : ModelPrice => decide (p.model = x)) ∘ fun p =>
    if decide (p.model = name ∧ p.active) then retire p else p) =
      fun p => decide (p.model = x) := by
    funext p
    rw [Function.comp_apply]
    split_ifs <;> rfl
  rw [hmodel]
  split_ifs with hx
  · apply List.map_congr_left
    intro p hp
    have hpx := of_decide_eq_true (List.mem_filter.1 hp).2
    cases ha : p.active with
    | true => rw [if_pos (by simp [hpx, hx, ha])]
    | false => rw [if_neg (by simp [ha]), retire_of_inactive ha]
  · rw [List.map_congr_left (g := id), List.map_id]
    intro p hp
    have hpx := of_decide_eq_true (List.mem_filter.1 hp).2
    rw [if_neg (by simp [hpx, hx])]
    rfl

/-- The price that a turn adds. -/
def successor (c : Catalogue) (newId : String → Id) (d : DB)
    (m : ModelConfig) : Option ModelPrice :=
  if unchanged (c.terms m) (latestPrice m.model d) then none
  else some (nextPrice (newId m.model) m.model (c.terms m) (latestPrice m.model d))

theorem successor_model {d : DB} {m : ModelConfig} {p : ModelPrice}
    (h : successor c newId d m = some p) : p.model = m.model := by
  unfold successor at h
  split_ifs at h
  rw [← Option.some.inj h, nextPrice_model]

theorem successor_congr {d d' : DB} {m : ModelConfig}
    (h : priceRows m.model d' = priceRows m.model d) :
    successor c newId d' m = successor c newId d m := by
  unfold successor latestPrice
  rw [h]

/-- The turns of a loop: prices to be added, after their predecessors have been retired. -/
structure Seeds (c : Catalogue) (newId : String → Id) (models : List ModelConfig)
    (s t : Session DB) : Prop where
  committed : t.committed = s.committed
  pending : t.pending = s.pending ++
    (models.filterMap (successor c newId s.work)).map DB.insertPrice
  rows : ∀ x, priceRows x t.work = if x ∈
    (models.filterMap (successor c newId s.work)).map ModelPrice.model
    then (priceRows x s.work).map retire else priceRows x s.work

theorem names_successors {d : DB} {models : List ModelConfig} {x : String}
    (h : x ∈ (models.filterMap (successor c newId d)).map ModelPrice.model) :
    x ∈ models.map ModelConfig.model := by
  obtain ⟨p, hp, rfl⟩ := List.mem_map.1 h
  obtain ⟨m, hm, hsuccessor⟩ := List.mem_filterMap.1 hp
  rw [successor_model hsuccessor]
  exact List.mem_map_of_mem hm

theorem seedModel_ok {m : ModelConfig} {s t : Session DB} {u : Unit}
    (h : seedModel c newId m s = (.ok u, t)) :
    Seeds c newId [m] s t := by
  unfold seedModel at h
  obtain ⟨latest, s', hlatest, h⟩ := (Tx.bind_ok ..).1 h
  obtain ⟨rfl, rfl⟩ := (Tx.select_ok ..).1 hlatest
  rcases (Tx.ite_ok ..).1 h with ⟨hsame, h⟩ | ⟨hchanged, h⟩
  · obtain ⟨-, rfl⟩ := (Tx.pure_ok ..).1 h
    have hsuccessor : successor c newId t.work m = none := if_pos hsame
    have hnone : [m].filterMap (successor c newId t.work) = [] := by
      rw [List.filterMap_cons_none hsuccessor, List.filterMap_nil]
    constructor
    · rfl
    · rw [hnone, List.map_nil, List.append_nil]
    · intro x
      rw [hnone, List.map_nil, if_neg List.not_mem_nil]
  · obtain ⟨n, s'', hupdate, h⟩ := (Tx.bind_ok ..).1 h
    obtain ⟨d, hd, rfl⟩ := (Tx.execute_ok ..).1 hupdate
    obtain rfl := (Tx.add_ok ..).1 h
    obtain ⟨rfl, -⟩ := Prod.mk.inj (Option.some.inj hd)
    have hsuccessor : successor c newId s'.work m =
        some (nextPrice (newId m.model) m.model (c.terms m) (latestPrice m.model s'.work)) :=
      if_neg hchanged
    have hsome : [m].filterMap (successor c newId s'.work) =
        [nextPrice (newId m.model) m.model (c.terms m) (latestPrice m.model s'.work)] := by
      rw [List.filterMap_cons_some hsuccessor, List.filterMap_nil]
    constructor
    · rfl
    · rw [hsome]
      rfl
    · intro x
      rw [hsome, List.map_singleton, nextPrice_model, priceRows_update]
      simp only [List.mem_singleton]

theorem seedModels_ok {models : List ModelConfig} (hdistinct : (models.map ModelConfig.model).Nodup)
    {s t : Session DB} {u : Unit}
    (h : forM models (seedModel c newId) s = (.ok u, t)) : Seeds c newId models s t := by
  induction models generalizing s with
  | nil =>
    obtain ⟨-, rfl⟩ := (Tx.pure_ok ..).1 h
    constructor
    · rfl
    · rw [List.filterMap_nil, List.map_nil, List.append_nil]
    · intro x
      rw [List.filterMap_nil, List.map_nil, if_neg List.not_mem_nil]
  | cons m models ih =>
    rw [List.forM_cons, Tx.bind_ok] at h
    obtain ⟨_, s', hfirst, hrest⟩ := h
    rw [List.map_cons, List.nodup_cons] at hdistinct
    have hm := seedModel_ok hfirst
    have hms := ih hdistinct.2 hrest
    have hnames (x : String) (hx : x ∈ ([m].filterMap (successor c newId s.work)).map
      ModelPrice.model) : x = m.model :=
      List.mem_singleton.1 (names_successors hx)
    -- The first turn touches no other model, so what the later ones add can be read off the tables
    -- before it.
    have hlater : models.filterMap (successor c newId s'.work) = models.filterMap
        (successor c newId s.work) := by
      apply List.filterMap_congr
      intro m' hm'
      apply successor_congr
      rw [hm.rows, if_neg]
      intro hmem
      exact hdistinct.1 (hnames _ hmem ▸ List.mem_map_of_mem hm')
    have hsplit : (m :: models).filterMap (successor c newId s.work) =
        [m].filterMap (successor c newId s.work) ++ models.filterMap
          (successor c newId s.work) := by
      rw [← List.filterMap_append]
      rfl
    constructor
    · rw [hms.committed, hm.committed]
    · rw [hms.pending, hm.pending, hlater, hsplit, List.map_append, List.append_assoc]
    · intro x
      rw [hms.rows, hm.rows, hlater, hsplit, List.map_append]
      by_cases hx : x ∈ ([m].filterMap (successor c newId s.work)).map ModelPrice.model
      · have hnot : x ∉ (models.filterMap (successor c newId s.work)).map ModelPrice.model := by
          intro hmem
          exact hdistinct.1 (hnames x hx ▸ names_successors hmem)
        rw [if_neg hnot, if_pos hx, if_pos (List.mem_append_left _ hx)]
      · rw [if_neg hx]
        simp only [List.mem_append, hx, false_or]

theorem applyAll_insertPrices {prices : List ModelPrice} {d d' : DB}
    (h : Tx.applyAll (prices.map DB.insertPrice) d = some d') :
    d'.prices.rows = d.prices.rows ++ prices := by
  induction prices generalizing d with
  | nil =>
    rw [← Option.some.inj h, List.append_nil]
  | cons p prices ih =>
    obtain ⟨d₁, hfirst, hrest⟩ := (Tx.applyAll_cons ..).1 h
    unfold DB.insertPrice at hfirst
    obtain ⟨t, ht, hfirst⟩ := Option.bind_eq_some_iff.1 hfirst
    split_ifs at hfirst
    rw [ih hrest, ← Option.some.inj hfirst, (Table.insert?_eq_some.1 ht).2, List.append_assoc]
    rfl

theorem acceptIdentical_ok {models : List ModelConfig} {s t : Session DB} {u : Unit}
    (h : forM models (acceptIdentical c) s = (.ok u, t)) :
    t = s ∧ ∀ m ∈ models, (getPrice m.model s.work).map terms = some (c.terms m) := by
  induction models generalizing s with
  | nil => exact ⟨((Tx.pure_ok ..).1 h).2, nofun⟩
  | cons m models ih =>
    rw [List.forM_cons, Tx.bind_ok] at h
    obtain ⟨_, s', hfirst, hrest⟩ := h
    unfold acceptIdentical at hfirst
    obtain ⟨latest, s'', hlatest, hfirst⟩ := (Tx.bind_ok ..).1 hfirst
    obtain ⟨rfl, rfl⟩ := (Tx.select_ok ..).1 hlatest
    obtain ⟨hsame, rfl⟩ := (Tx.raiseIf_ok ..).1 hfirst
    obtain ⟨rfl, hall⟩ := ih hrest
    exact ⟨rfl, List.forall_mem_cons.2 ⟨not_not.1 hsame, hall⟩⟩

/-- The prices of a model once the additions are committed. -/
def reseeded (c : Catalogue) (newId : String → Id) (d : DB) (x : String) : List ModelPrice :=
  let added := c.models.rows.filterMap (successor c newId d)
  (if x ∈ added.map ModelPrice.model then (priceRows x d).map retire else priceRows x d) ++
    added.filter fun p => p.model = x

theorem seedPrices_ok {d d' : DB} {u : Unit} (h : Tx.run (seedPrices c newId) d = (.ok u, d')) :
    (∀ x, priceRows x d' = reseeded c newId d x) ∨
      d' = d ∧ ∀ m ∈ c.models.rows, (getPrice m.model d).map terms = some (c.terms m) := by
  rw [Tx.run_ok] at h
  obtain ⟨t, h, rfl⟩ := h
  unfold seedPrices at h
  obtain ⟨_, s, hloop, h⟩ := (Tx.bind_ok ..).1 h
  have hseeds := seedModels_ok c.models.unique hloop
  rcases (Tx.tryExcept_ok ..).1 h with h | ⟨e, s', hcommit, -, h⟩
  · left
    obtain ⟨d', hd', rfl⟩ := (Tx.commit_ok ..).1 h
    rw [hseeds.pending] at hd'
    have hrows := applyAll_insertPrices hd'
    intro x
    unfold reseeded
    rw [priceRows, hrows, List.filter_append]
    exact congrArg (· ++ _) (hseeds.rows x)
  · right
    have hcommitted : s'.committed = d := by
      have hraised := Tx.atomic_commit.committed s e (by rw [hcommit])
      rw [hcommit] at hraised
      rw [hraised, hseeds.committed]
      rfl
    obtain ⟨_, s'', hrollback, h⟩ := (Tx.bind_ok ..).1 h
    obtain rfl := (Tx.rollback_ok ..).1 hrollback
    obtain ⟨rfl, hsame⟩ := acceptIdentical_ok h
    rw [hcommitted] at hsame ⊢
    exact ⟨rfl, hsame⟩

theorem atomic_seedPrices : Tx.Atomic (seedPrices c newId) := by
  have hturn (m : ModelConfig) : Tx.Quiet (seedModel c newId m) := by
    unfold seedModel
    apply Tx.quiet_bind (Tx.quiet_select _)
    intro latest
    apply Tx.quiet_ite _ (Tx.quiet_pure _)
    exact Tx.quiet_bind (Tx.quiet_execute _) fun _ => Tx.quiet_add _
  have hcheck (m : ModelConfig) : Tx.Quiet (acceptIdentical c m) := by
    unfold acceptIdentical
    simp
  unfold seedPrices
  apply Tx.atomic_bind (Tx.quiet_forM hturn)
  intro _
  apply Tx.atomic_tryExcept Tx.atomic_commit
  intro _
  exact (Tx.quiet_bind Tx.quiet_rollback fun _ => Tx.quiet_forM hcheck).atomic

theorem seedPrices_failed {d d' : DB} {e : Exc}
    (h : Tx.run (seedPrices c newId) d = (.error e, d')) : d' = d := by
  have hatomic : Tx.Atomic (seedPrices c newId) := atomic_seedPrices
  rcases Tx.run_cases hatomic d with hsame | ⟨_, t, hok, -⟩
  · rw [h] at hsame
    exact hsame
  · rw [Tx.run, hok] at h
    cases h

end Start

/-! ## What is offered -/

/-- The prices of each model have their versions in order. -/
def Histories (d : DB) : Prop := ∀ model, Versioned ModelPrice.version ModelPrice.active
    (priceRows model d)

/-- What `get_price` finds. -/
def offered (d : DB) (model : String) : Option Terms := (getPrice model d).map terms

/-- No price is taken out or rewritten. -/
def Kept (d d' : DB) : Prop := ∀ p ∈ d.prices.rows, ∃ p' ∈ d'.prices.rows,
  p'.id = p.id ∧ p'.model = p.model ∧ p'.version = p.version ∧ terms p' = terms p

theorem Kept.refl (d : DB) : Kept d d := fun p hp => ⟨p, hp, rfl, rfl, rfl, rfl⟩

theorem Kept.trans {d₁ d₂ d₃ : DB} (h : Kept d₁ d₂) (h' : Kept d₂ d₃) : Kept d₁ d₃ := by
  intro p hp
  obtain ⟨q, hq, hid, hmodel, hversion, hterms⟩ := h p hp
  obtain ⟨r, hr, hid', hmodel', hversion', hterms'⟩ := h' q hq
  exact ⟨r, hr, hid'.trans hid, hmodel'.trans hmodel, hversion'.trans hversion,
    hterms'.trans hterms⟩

namespace Histories

variable {d : DB} {model : String}

theorem latestPrice_eq (h : Histories d) : latestPrice model d = (priceRows model d).getLast? :=
  (h model).firstDesc_eq

theorem getPrice_eq (h : Histories d) : getPrice model d = (priceRows model d).getLast? := by
  rw [← (h model).firstDesc_inForce, getPrice, priceRows, List.filter_filter]
  congr 2
  funext p
  rw [Bool.decide_and, Bool.decide_eq_true, Bool.and_comm]

end Histories

section Step

variable {c : Catalogue} {newId : String → Id} {d d' : DB}

theorem offer_of_mem {m : ModelConfig} (h : m ∈ c.models.rows) :
    c.offer m.model = some (c.terms m) := by
  rw [Catalogue.offer, Table.get?_of_mem h, Option.map_some]

theorem offer_eq_none {x : String} : c.offer x = none ↔ x ∉ c.names := by
  rw [Catalogue.offer, Option.map_eq_none_iff, Table.get?_eq_none, Catalogue.names]

/-- A start puts its catalogue over what was offered before. -/
structure Follows (c : Catalogue) (d d' : DB) : Prop where
  histories : Histories d'
  offered : ∀ x, offered d' x = (c.offer x).or (offered d x)
  kept : Kept d d'

theorem filter_successors_eq_nil {models : List ModelConfig} {x : String}
    (h : x ∉ models.map ModelConfig.model) :
    ((models.filterMap (successor c newId d)).filter fun p => p.model = x) = [] := by
  rw [List.filter_eq_nil_iff]
  intro p hp hx
  exact h (names_successors (List.mem_map.2 ⟨p, hp, of_decide_eq_true hx⟩))

theorem filter_successors {models : List ModelConfig}
    (hdistinct : (models.map ModelConfig.model).Nodup) {m : ModelConfig}
    (hm : m ∈ models) :
    ((models.filterMap (successor c newId d)).filter fun p => p.model = m.model) =
      (successor c newId d m).toList := by
  induction models with
  | nil => cases hm
  | cons m' models ih =>
    rw [List.map_cons, List.nodup_cons] at hdistinct
    rcases List.mem_cons.1 hm with rfl | hm
    · cases hp : successor c newId d m with
      | none =>
        rw [List.filterMap_cons_none hp, filter_successors_eq_nil hdistinct.1, Option.toList_none]
      | some p =>
        rw [List.filterMap_cons_some hp, List.filter_cons_of_pos,
          filter_successors_eq_nil hdistinct.1, Option.toList_some]
        exact decide_eq_true (successor_model hp)
    · have hne : m'.model ≠ m.model := fun heq => hdistinct.1 (heq ▸ List.mem_map_of_mem hm)
      cases hp : successor c newId d m' with
      | none => rw [List.filterMap_cons_none hp, ih hdistinct.2 hm]
      | some p =>
        rw [List.filterMap_cons_some hp, List.filter_cons_of_neg, ih hdistinct.2 hm]
        rw [successor_model hp, decide_eq_true_eq]
        exact hne

theorem reseeded_of_not_mem {x : String} (h : x ∉ c.names) :
    reseeded c newId d x = priceRows x d := by
  unfold reseeded
  dsimp only
  rw [filter_successors_eq_nil h, List.append_nil, if_neg fun hmem => h (names_successors hmem)]

theorem reseeded_of_unchanged {m : ModelConfig} (hm : m ∈ c.models.rows)
    (h : unchanged (c.terms m) (latestPrice m.model d)) :
    reseeded c newId d m.model = priceRows m.model d := by
  have hnone : successor c newId d m = none := if_pos h
  have hfilter : ((c.models.rows.filterMap (successor c newId d)).filter fun p =>
    p.model = m.model) =
      (successor c newId d m).toList := filter_successors c.models.unique hm
  rw [hnone, Option.toList_none] at hfilter
  unfold reseeded
  dsimp only
  rw [hfilter, List.append_nil, if_neg]
  intro hmem
  obtain ⟨p, hp, hmodel⟩ := List.mem_map.1 hmem
  exact List.filter_eq_nil_iff.1 hfilter p hp (decide_eq_true hmodel)

theorem reseeded_of_changed {m : ModelConfig} (hm : m ∈ c.models.rows)
    (h : ¬ unchanged (c.terms m) (latestPrice m.model d)) :
    reseeded c newId d m.model = (priceRows m.model d).map retire ++
      [nextPrice (newId m.model) m.model (c.terms m) (latestPrice m.model d)] := by
  have hsome : successor c newId d m =
      some (nextPrice (newId m.model) m.model (c.terms m) (latestPrice m.model d)) := if_neg h
  have hfilter : ((c.models.rows.filterMap (successor c newId d)).filter fun p =>
    p.model = m.model) =
      (successor c newId d m).toList := filter_successors c.models.unique hm
  rw [hsome, Option.toList_some] at hfilter
  unfold reseeded
  dsimp only
  rw [hfilter, if_pos]
  exact List.mem_map.2 ⟨_, List.mem_filterMap.2 ⟨m, hm, hsome⟩, nextPrice_model ..⟩

theorem follows_of_reseeded (hd : Histories d)
    (h : ∀ x, priceRows x d' = reseeded c newId d x) : Follows c d d' := by
  have hcases (x : String) : (Versioned ModelPrice.version ModelPrice.active (priceRows x d') ∧
      (priceRows x d').getLast?.map terms = (c.offer x).or (offered d x)) ∧
      ∀ p ∈ priceRows x d, ∃ p' ∈ priceRows x d', p'.id = p.id ∧
        p'.version = p.version ∧ terms p' = terms p := by
    rw [h x]
    by_cases hx : x ∈ c.names
    · obtain ⟨m, hm, rfl⟩ := List.mem_map.1 hx
      rw [offer_of_mem hm, Option.some_or]
      by_cases hsame : unchanged (c.terms m) (latestPrice m.model d)
      · rw [reseeded_of_unchanged hm hsame]
        refine ⟨⟨hd m.model, ?_⟩, fun p hp => ⟨p, hp, rfl, rfl, rfl⟩⟩
        rw [hd.latestPrice_eq] at hsame
        exact terms_of_unchanged hsame
      · rw [reseeded_of_changed hm hsame]
        refine ⟨⟨(hd m.model).succeed retire_version retire_active rfl ?_, ?_⟩, ?_⟩
        · rw [← hd.latestPrice_eq]
          rfl
        · rw [List.getLast?_concat, Option.map_some, terms_nextPrice]
        · intro p hp
          exact ⟨retire p, List.mem_append_left _ (List.mem_map_of_mem hp), rfl, rfl, rfl⟩
    · rw [reseeded_of_not_mem hx, offer_eq_none.2 hx, Option.none_or, offered, hd.getPrice_eq]
      exact ⟨⟨hd x, rfl⟩, fun p hp => ⟨p, hp, rfl, rfl, rfl⟩⟩
  have histories : Histories d' := fun x => (hcases x).1.1
  constructor
  · exact histories
  · intro x
    rw [offered, histories.getPrice_eq]
    exact (hcases x).1.2
  · intro p hp
    obtain ⟨p', hp', hid, hversion, hterms⟩ := (hcases p.model).2 p (mem_priceRows.2 ⟨hp, rfl⟩)
    obtain ⟨hmem, hmodel⟩ := mem_priceRows.1 hp'
    exact ⟨p', hmem, hid, hmodel, hversion, hterms⟩

theorem follows_of_run {u : Unit} (hd : Histories d)
    (h : Tx.run (seedPrices c newId) d = (.ok u, d')) : Follows c d d' := by
  rcases seedPrices_ok h with hrows | ⟨rfl, hsame⟩
  · exact follows_of_reseeded hd hrows
  · refine ⟨hd, fun x => ?_, Kept.refl d'⟩
    by_cases hx : x ∈ c.names
    · obtain ⟨m, hm, rfl⟩ := List.mem_map.1 hx
      rw [offer_of_mem hm, Option.some_or, offered, hsame m hm]
    · rw [offer_eq_none.2 hx, Option.none_or]

end Step

/-! ## Starts one after the other -/

/-- The starts of a process on one database: the catalogues of those that returned, the tables
that were seen on the way, and the tables now. -/
inductive Started : List Catalogue → List DB → DB → Prop where
  | install {d : DB} : d.prices.rows = [] → Started [] [d] d
  | seeded {cs : List Catalogue} {seen : List DB} {d d' : DB} (c : Catalogue)
    (newId : String → Id) :
      Started cs seen d → Tx.run (seedPrices c newId) d = (.ok (), d') →
      Started (cs ++ [c]) (seen ++ [d']) d'
  | failed {cs : List Catalogue} {seen : List DB} {d d' : DB} {e : Exc} (c : Catalogue)
    (newId : String → Id) :
      Started cs seen d → Tx.run (seedPrices c newId) d = (.error e, d') →
      Started cs (seen ++ [d']) d'
  /-- Other code writes no prices. -/
  | elsewhere {cs : List Catalogue} {seen : List DB} {d d' : DB} :
      Started cs seen d → d'.prices = d.prices → Started cs (seen ++ [d']) d'

/-- What is sold is what is configured. -/
structure Sells (c : Catalogue) (d : DB) : Prop where
  active : ((d.prices.rows.filter ModelPrice.active).map fun p => (p.model, terms p)).Perm
    (c.models.rows.map fun m => (m.model, c.terms m))
  priced : ∀ x, offered d x = c.offer x
  listed : (listedModels d).Perm c.names

section Runs

variable {cs : List Catalogue} {seen : List DB} {d d' : DB} {c : Catalogue} {newId : String → Id}

theorem Histories.congr (hd : Histories d) (h : d'.prices = d.prices) : Histories d' := by
  unfold Histories priceRows
  rw [h]
  exact hd

theorem offered_congr (h : d'.prices = d.prices) (x : String) : offered d' x = offered d x := by
  unfold offered getPrice
  rw [h]

theorem Kept.congr (h : d'.prices = d.prices) : Kept d d' := by
  unfold Kept
  rw [h]
  exact Kept.refl d

theorem Started.histories (h : Started cs seen d) : Histories d := by
  induction h with
  | install hempty =>
    intro x
    rw [priceRows, hempty]
    exact Versioned.nil
  | seeded c newId _ hrun ih => exact (follows_of_run ih hrun).histories
  | failed c newId _ hrun ih =>
    rw [seedPrices_failed hrun]
    exact ih
  | elsewhere _ hsame ih => exact ih.congr hsame

theorem Started.kept (h : Started cs seen d) : ∀ e ∈ seen, Kept e d := by
  have hlast {seen : List DB} {d d' : DB} (hseen : ∀ e ∈ seen, Kept e d) (hkept : Kept d d') :
      ∀ e ∈ seen ++ [d'], Kept e d' := by
    intro e he
    rcases List.mem_append.1 he with he | he
    · exact (hseen e he).trans hkept
    · rw [List.mem_singleton.1 he]
      exact Kept.refl d'
  induction h with
  | install _ =>
    intro e he
    rw [List.mem_singleton.1 he]
    exact Kept.refl _
  | seeded c newId hstarted hrun ih => exact hlast ih (follows_of_run hstarted.histories hrun).kept
  | failed c newId _ hrun ih =>
    rw [seedPrices_failed hrun]
    exact hlast ih (Kept.refl _)
  | elsewhere _ hsame ih => exact hlast ih (Kept.congr hsame)

theorem Started.offered_eq_none (h : Started cs seen d) (x : String) : offered d x = none ↔
    ∀ c ∈ cs, x ∉ c.names := by
  induction h with
  | install hempty =>
    rw [offered, getPrice, hempty]
    exact iff_of_true rfl nofun
  | seeded c newId hstarted hrun ih =>
    rw [(follows_of_run hstarted.histories hrun).offered, Option.or_eq_none_iff, offer_eq_none, ih,
      List.forall_mem_append, List.forall_mem_singleton, and_comm]
  | failed c newId _ hrun ih =>
    rw [seedPrices_failed hrun]
    exact ih
  | elsewhere _ hsame ih =>
    rw [offered_congr hsame]
    exact ih

theorem Histories.mem_active (hd : Histories d) {p : ModelPrice} :
    p ∈ d.prices.rows.filter ModelPrice.active ↔ getPrice p.model d = some p := by
  have hforce := (hd p.model).inForce
  rw [hd.getPrice_eq, ← Option.mem_toList, ← hforce, List.mem_filter, List.mem_filter,
    mem_priceRows]
  simp only [and_true]

theorem Histories.active_nodup (hd : Histories d) :
    ((d.prices.rows.filter ModelPrice.active).map ModelPrice.model).Nodup := by
  apply List.Nodup.map_on
  · intro p hp q hq hmodel
    have hq' := hd.mem_active.1 hq
    rw [← hmodel, hd.mem_active.1 hp] at hq'
    exact Option.some.inj hq'
  · exact (List.Nodup.of_map _ d.prices.unique).filter _

theorem Histories.mem_terms (hd : Histories d) {x : String} {t : Terms} :
    (x, t) ∈ (d.prices.rows.filter ModelPrice.active).map (fun p => (p.model, terms p)) ↔
    offered d x = some t := by
  rw [List.mem_map]
  constructor
  · rintro ⟨p, hp, heq⟩
    obtain ⟨rfl, rfl⟩ := Prod.mk.inj heq
    rw [offered, hd.mem_active.1 hp, Option.map_some]
  · intro h
    obtain ⟨p, hp, rfl⟩ := Option.map_eq_some_iff.1 h
    have hmodel : p.model = x := by
      rw [hd.getPrice_eq] at hp
      exact (mem_priceRows.1 (List.mem_of_getLast? hp)).2
    subst hmodel
    exact ⟨p, hd.mem_active.2 hp, rfl⟩

theorem mem_offers {x : String} {t : Terms} :
    (x, t) ∈ c.models.rows.map (fun m => (m.model, c.terms m)) ↔ c.offer x = some t := by
  rw [List.mem_map]
  constructor
  · rintro ⟨m, hm, heq⟩
    obtain ⟨rfl, rfl⟩ := Prod.mk.inj heq
    exact offer_of_mem hm
  · intro h
    obtain ⟨m, hm, rfl⟩ := Option.map_eq_some_iff.1 h
    obtain ⟨hmem, rfl⟩ := Table.get?_eq_some.1 hm
    exact ⟨m, hmem, rfl⟩

theorem sells_of_offered (hd : Histories d) (h : ∀ x, offered d x = c.offer x) : Sells c d := by
  have hactive : ((d.prices.rows.filter ModelPrice.active).map fun p => (p.model, terms p)).Perm
      (c.models.rows.map fun m => (m.model, c.terms m)) := by
    rw [List.perm_ext_iff_of_nodup]
    · rintro ⟨x, t⟩
      rw [hd.mem_terms, h, mem_offers]
    · apply List.Nodup.of_map Prod.fst
      rw [List.map_map]
      exact hd.active_nodup
    · apply List.Nodup.of_map Prod.fst
      rw [List.map_map]
      exact c.models.unique
  refine ⟨hactive, h, ?_⟩
  have hnames := hactive.map Prod.fst
  rw [List.map_map, List.map_map] at hnames
  exact (List.mergeSort_perm _ _).trans hnames

/-- What is sold after a start is the catalogue, unless a model was taken out of it. -/
theorem sells_iff (hstarted : Started cs seen d)
    (hrun : Tx.run (seedPrices c newId) d = (.ok (), d')) :
    (Sells c d' ∧ (∀ x, (priceRows x d').map ModelPrice.version = List.range' 1
      (priceRows x d').length) ∧
      ∀ e ∈ seen, Kept e d') ↔ ∀ c' ∈ cs, ∀ x ∈ c'.names, x ∈ c.names := by
  have hfollows := follows_of_run hstarted.histories hrun
  constructor
  · rintro ⟨hsells, -, -⟩ c' hc' x hx
    by_contra hdropped
    have hnone := hsells.priced x
    rw [hfollows.offered, offer_eq_none.2 hdropped, Option.none_or] at hnone
    exact (hstarted.offered_eq_none x).1 hnone c' hc' hx
  · intro hincluded
    refine ⟨sells_of_offered hfollows.histories fun x => ?_, fun x =>
      (hfollows.histories x).gapless,
      fun e he => (hstarted.kept e he).trans hfollows.kept⟩
    rw [hfollows.offered]
    cases hoffer : c.offer x with
    | some t => rw [Option.some_or]
    | none =>
      rw [Option.none_or, hstarted.offered_eq_none]
      exact fun c' hc' hx => offer_eq_none.1 hoffer (hincluded c' hc' x hx)

end Runs

def first : Catalogue where
  models := ⟨[⟨"alpha", 100, 200, some 1024⟩], by decide⟩
  maxOutputTokens := 4096
  prices := by decide
  limits := by decide

/-- The first catalogue with a new price, and one model more. -/
def second : Catalogue where
  models := ⟨[⟨"alpha", 100, 300, some 1024⟩, ⟨"beta", 5, 7, none⟩], by decide⟩
  maxOutputTokens := 4096
  prices := by decide
  limits := by decide

/-- The tables after a start. -/
def startedWith (c : Catalogue) (newId : String → Id) (d : DB) : DB :=
  (Tx.run (seedPrices c newId) d).2

theorem second_sold : Sells second
    (startedWith second (· ++ "-2") (startedWith first (· ++ "-1") .empty)) :=
  have hfirst : Tx.run (seedPrices first (· ++ "-1")) DB.empty =
    (.ok (), startedWith first (· ++ "-1") .empty) :=
    Prod.ext (by decide +kernel) rfl
  ((sells_iff (.seeded first (· ++ "-1") (.install rfl) hfirst)
    (Prod.ext (by decide +kernel) rfl)).2 (by decide +kernel)).1

/-- A model taken out of the catalogue is sold as before. -/
theorem dropped_model_sold :
    ¬ ∀ (cs : List Catalogue) (seen : List DB) (d d' : DB) (c : Catalogue) (newId : String → Id),
    Started cs seen d → Tx.run (seedPrices c newId) d = (.ok (), d') →
      Sells c d' ∧ (∀ x, (priceRows x d').map ModelPrice.version = List.range' 1
        (priceRows x d').length) ∧ ∀ e ∈ seen, Kept e d' := by
  intro hclaim
  have hsecond : Tx.run (seedPrices second (· ++ "-1")) DB.empty =
      (.ok (), startedWith second (· ++ "-1") .empty) :=
    Prod.ext (by decide +kernel) rfl
  have hstarted := Started.seeded second (· ++ "-1") (.install rfl) hsecond
  have hsells := (hclaim _ _ _
    (startedWith first (· ++ "-2") (startedWith second (· ++ "-1") .empty))
      first (· ++ "-2") hstarted
    (Prod.ext (by decide +kernel) rfl)).1
  have hbeta : offered (startedWith first (· ++ "-2") (startedWith second (· ++ "-1") .empty))
      "beta" ≠ first.offer "beta" := by
    decide +kernel
  exact hbeta (hsells.priced "beta")

end Kunlun.Catalogues
