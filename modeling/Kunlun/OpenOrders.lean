import Kunlun.Accounting
import Kunlun.Leases.Reconciliations

/-!
# Open orders

A user has only so many open orders, and one order for each key. `create_order` counts and inserts
under the lock of the user's row; of other sessions, any may commit in between.
-/

namespace Kunlun.OpenOrders

/-! ## The two halves of `create_order` -/

def checkCap (a : OrderArgs) (maxOpenOrders : Int) : Service (Option PaymentOrder) := do
  Tx.raiseIf (maxOpenOrders < 1) (.paymentDomain "未结支付订单上限无效" 500)
  let existing ← Tx.select (orderWithKey a.userId a.idempotencyKey)
  match existing with
  | some existing => do
    Tx.rollbackIf (¬ sameOrderQuote existing a) (.paymentDomain "相同幂等键的支付报价不一致" 409)
    Tx.rollback
    return some existing
  | none => do
    let openCount ← Tx.select (openOrders a.userId)
    Tx.rollbackIf (maxOpenOrders ≤ openCount) (.paymentDomain "未结支付订单过多，请先完成或等待对账" 409)
    return none

/-- All that comes before the insert: the order that has the key already, if there is one. -/
def checkOrder (a : OrderArgs) : Service (Option PaymentOrder) :=
  if 0 < a.paymentAmountMinor ∧ 0 < a.creditAmountMicrousd then do
    Tx.raiseIf (a.paymentCurrency.length ≠ 3 ∨ a.currencyIsUpper = false)
      (.paymentDomain "支付币种无效" 422)
    Tx.raiseIf (a.provider = "" ∨ a.quoteId = "" ∨ a.quoteNumerator ≤ 0 ∨ a.quoteDenominator ≤ 0)
      (.paymentDomain "支付报价快照不完整" 422)
    let found ← Tx.select fun d => d.users.get? a.userId
    let owner ← Tx.orRollback found (.paymentDomain "支付账户不存在" 404)
    Tx.rollbackIf (owner.status ≠ .active) (.paymentDomain "支付账户不可用" 403)
    let existing ← Tx.select (orderWithKey a.userId a.idempotencyKey)
    match existing, a.maxOpenOrders with
    | some existing, _ => do
      Tx.raiseIf (¬ sameOrderQuote existing a) (.paymentDomain "相同幂等键的支付报价不一致" 409)
      return some existing
    | none, some maxOpenOrders => checkCap a maxOpenOrders
    | none, none => return none
  else Tx.raise (.paymentDomain "支付报价金额必须为正数" 422)

/-- The insert of an order that has passed the checks. -/
def placeOrder (a : OrderArgs) : Service PaymentOrder :=
  if h : 0 < a.creditAmountMicrousd then insertNewOrder a (newOrder a h)
  else Tx.raise (.paymentDomain "支付报价金额必须为正数" 422)

def orPlace (a : OrderArgs) (existing : Option PaymentOrder) : Service PaymentOrder :=
  match existing with
  | some existing => return existing
  | none => placeOrder a

theorem insertBelowCap_eq {a : OrderArgs} (h : 0 < a.creditAmountMicrousd) (maxOpenOrders : Int) :
    insertBelowCap a (newOrder a h) maxOpenOrders = checkCap a maxOpenOrders >>= orPlace a := by
  unfold insertBelowCap checkCap
  simp only [Tx.bind_assoc]
  congr 1
  funext _
  congr 1
  funext existing
  cases existing with
  | some existing =>
    simp only [Tx.bind_assoc]
    rfl
  | none =>
    simp only [Tx.bind_assoc, Tx.pure_bind, orPlace, placeOrder, dif_pos h]

theorem createOrder_eq (a : OrderArgs) : createOrder a = checkOrder a >>= orPlace a := by
  unfold createOrder checkOrder
  split_ifs with h
  · simp only [Tx.bind_assoc]
    iterate 6
      congr 1
      funext _
    rename_i existing
    cases existing with
    | some existing =>
      simp only [Tx.bind_assoc]
      rfl
    | none =>
      cases a.maxOpenOrders with
      | some maxOpenOrders => exact insertBelowCap_eq h.2 maxOpenOrders
      | none => simp only [Tx.pure_bind, orPlace, placeOrder, dif_pos h.2]
  · rfl

/-! ## Interleavings -/

structure State where
  db : DB
  /-- The calls of `create_order` between their checks and their inserts. -/
  checked : List OrderArgs

/-- What one party does between two commits, or between its locks. -/
inductive Step where
  | part (p : Part)
  | check (a : OrderArgs)
  | place (userId : Id)
  /-- The session of a call is lost, and with it the lock. -/
  | abandon (userId : Id)

/-- The call that holds the lock of the user. -/
def State.holder (s : State) (userId : Id) : Option OrderArgs :=
  s.checked.find? fun a => a.userId = userId

def State.others (s : State) (userId : Id) : List OrderArgs :=
  s.checked.filter fun a => a.userId ≠ userId

/-- A call that passes its checks keeps the lock. They write nothing. -/
def State.check (s : State) (a : OrderArgs) : State :=
  match (Tx.run (checkOrder a) s.db).1 with
  | .ok none => { s with checked := a :: s.checked }
  | _ => s

def State.place (s : State) (userId : Id) : State :=
  match s.holder userId with
  | some a => ⟨(Tx.run (placeOrder a) s.db).2, s.others userId⟩
  | none => s

def Step.exec : Step → State → State
  | part p, s => { s with db := p.exec s.db }
  | check a, s => s.check a
  | place userId, s => s.place userId
  | abandon userId, s => { s with checked := s.others userId }

def partOrderId? : Part → Option Id
  | .session op => op.orderId?
  | _ => none

/-- Orders come from `create_order` alone, always with the same cap, and under the lock of the
user. `isUpper` is `str.isupper`. -/
def Step.Allowed (isUpper : String → Bool) (m : Nat) : Step → State → Prop
  | part p, _ => partOrderId? p = none
  | check a, s =>
    a.maxOpenOrders = some (m : Int) ∧ a.currencyIsUpper = isUpper a.paymentCurrency ∧
      s.holder a.userId = none
  | _, _ => True

instance (isUpper : String → Bool) (m : Nat) (step : Step) (s : State) :
    Decidable (step.Allowed isUpper m s) :=
  match step with
  | .part p => inferInstanceAs (Decidable (partOrderId? p = none))
  | .check a => inferInstanceAs (Decidable (a.maxOpenOrders = some (m : Int) ∧
      a.currencyIsUpper = isUpper a.paymentCurrency ∧ s.holder a.userId = none))
  | .place _ | .abandon _ => isTrue trivial

/-- The step creates an order of the user under the key. -/
def Step.creates (userId : Id) (key : String) (step : Step) (s : State) : Bool :=
  match step with
  | place u => (s.holder u).any fun a =>
      decide (a.userId = userId) && decide (a.idempotencyKey = key) &&
        decide ((Tx.run (placeOrder a) s.db).2.orders.rows.length ≠ s.db.orders.rows.length)
  | _ => false

/-! ## What becomes of the orders that are there -/

section Frame

variable {env : Env}

theorem move_orders_back (henv : ∀ b i, ¬ env.orderId b i) {b b' : Books}
    (m : Move env b b') (i : Id) :
    (b'.orders.get? i).isSome → (b.orders.get? i).isSome := by
  cases m with
  | place o drawn => exact absurd drawn (henv _ _)
  | progress p f hf => simp
  | credit o f hf => simp
  | command o r => simp
  | reverse o g hg => simp
  | resolve r f hf o g hg => simp
  | _ => exact id

theorem moves_orders_back (henv : ∀ b i, ¬ env.orderId b i) {b b' : Books}
    (m : Moves env b b') (i : Id) :
    (b'.orders.get? i).isSome → (b.orders.get? i).isSome := by
  induction m with
  | refl => exact id
  | tail _ m ih => exact fun h => ih (move_orders_back henv m i h)

/-- What is known of a session that draws no id for an order. -/
def drawsNone : Env := ⟨fun _ _ => False, fun _ _ => True, True, False⟩

theorem part_moves {p : Part} (h : partOrderId? p = none) (d : DB) :
    Moves drawsNone d.books (p.exec d).books := by
  cases p with
  | session op =>
    have hnone : op.orderId? = none := h
    refine exec_moves (fun _ => trivial) ⟨nofun, fun i hi => ?_, fun _ _ => trivial⟩
    rw [hnone] at hi
    cases hi
  | answered a => exact (carries_answerReconciliation a).run d
  | closed a duplicate => exact (carries_closeReconciliation a duplicate).run d

theorem progressedOrder_contract (a : WebhookArgs) (o : PaymentOrder) :
    (progressedOrder a .pending o).contract = o.contract := by
  unfold progressedOrder
  dsimp only
  split_ifs <;> rfl

/-- The contract of an order is as it was. -/
def sameContract (i : Id) : Track DB :=
  orderTrack i (fun o o' => o'.contract = o.contract) (fun _ => rfl) fun _ _ _ h h' => h'.trans h

theorem keepsAll_sameContract (i : Id) : KeepsAll (sameContract i) where
  toKeepsMoney := keepsMoney_orderTrack fun _ _ h => h.contract
  toKeepsRisk := keepsRisk_orderTrack
  toKeepsActivation := keepsActivation_orderTrack
  toKeepsClaims := keepsClaims_orderTrack
  reconcile _ := ⟨fun _ _ => updateOrders_orderTrack fun _ _ _ => rfl,
    updateOrders_orderTrack fun _ _ _ => rfl,
    fun a => updateOrders_orderTrack fun o _ _ => progressedOrder_contract a o⟩

/-- What a session leaves of the orders, where it opens none. -/
structure Remains (d e : DB) : Prop where
  kept : ∀ o ∈ d.orders.rows, ∃ o' ∈ e.orders.rows, o'.contract = o.contract
  old : ∀ o' ∈ e.orders.rows, ∃ o ∈ d.orders.rows,
    o'.id = o.id ∧ o'.contract = o.contract ∧ (o'.status.isOpen → o.status.isOpen)

theorem leads_isOpen {s s' : OrderStatus} (h : s.Leads s') : s'.isOpen → s.isOpen := by
  intro hopen
  rcases h with rfl | h | ⟨-, rfl | rfl⟩ | ⟨-, rfl⟩
  · exact hopen
  · exact h
  · cases hopen
  · cases hopen
  · cases hopen

theorem remains_part {p : Part} (h : partOrderId? p = none) (d : DB) : Remains d (p.exec d) := by
  have hrow {o : PaymentOrder} (ho : o ∈ d.orders.rows) :
      ∃ o', (p.exec d).orders.get? o.id = some o' ∧ o'.contract = o.contract ∧
        o.status.Leads o'.status := by
    obtain ⟨o', ho', hleads⟩ := p.exec_order (Table.get?_of_mem ho)
    obtain ⟨o'', ho'', hcontract⟩ :=
      p.exec_keeps (keepsAll_sameContract o.id) d o (Table.get?_of_mem ho)
    obtain rfl := Option.some.inj (ho'.symm.trans ho'')
    exact ⟨o', ho', hcontract, hleads⟩
  constructor
  · intro o ho
    obtain ⟨o', ho', hcontract, -⟩ := hrow ho
    exact ⟨o', Table.mem_of_get? ho', hcontract⟩
  · intro o' ho'
    have hback := moves_orders_back (fun _ _ => not_false) (part_moves h d) o'.id
    have hget : (p.exec d).books.orders.get? o'.id = some o' := Table.get?_of_mem ho'
    obtain ⟨o, ho⟩ := Option.isSome_iff_exists.1 (hback (by rw [hget]; rfl))
    have hid := Table.key_of_get? ho
    obtain ⟨o'', ho'', hcontract, hleads⟩ := hrow (Table.mem_of_get? ho)
    rw [hid] at ho''
    obtain rfl := Option.some.inj (hget.symm.trans ho'')
    exact ⟨o, Table.mem_of_get? ho, hid.symm, hcontract, leads_isOpen hleads⟩

end Frame

/-! ## What the two halves do -/

section Halves

variable {a : OrderArgs} {d : DB} {o : PaymentOrder}

/-- A quote that passes the checks which come before the tables are read. -/
structure WellFormed (a : OrderArgs) : Prop where
  amounts : 0 < a.paymentAmountMinor ∧ 0 < a.creditAmountMicrousd
  currency : ¬ (a.paymentCurrency.length ≠ 3 ∨ a.currencyIsUpper = false)
  snapshot : ¬ (a.provider = "" ∨ a.quoteId = "" ∨ a.quoteNumerator ≤ 0 ∨ a.quoteDenominator ≤ 0)

theorem orderWithKey_eq_none {userId : Id} {key : String} : orderWithKey userId key d = none ↔
    ∀ o ∈ d.orders.rows, o.userId = userId → o.clientIdempotencyKey ≠ some key := by
  rw [orderWithKey, List.find?_eq_none]
  simp only [decide_eq_true_eq, not_and]

theorem orderWithKey_eq_some {userId : Id} {key : String} (h : orderWithKey userId key d = some o) :
    o ∈ d.orders.rows ∧ o.userId = userId ∧ o.clientIdempotencyKey = some key :=
  ⟨List.mem_of_find?_eq_some h, by simpa using List.find?_some h⟩

theorem checkOrder_none {m : Nat} {s t : Session DB} (hcap : a.maxOpenOrders = some (m : Int))
    (h : checkOrder a s = (.ok none, t)) : WellFormed a ∧
    orderWithKey a.userId a.idempotencyKey s.work = none ∧
      openOrders a.userId s.work < m := by
  unfold checkOrder at h
  split_ifs at h with hamounts
  · simp only [Tx.bind_ok, Tx.raiseIf_ok, Tx.select_ok, Tx.orRollback_ok, Tx.rollbackIf_ok] at h
    obtain ⟨_, _, ⟨hcurrency, rfl⟩, _, _, ⟨hsnapshot, rfl⟩, _, _, ⟨-, rfl⟩, _, _, ⟨-, rfl⟩, _, _,
      ⟨-, rfl⟩, existing, _, ⟨hexisting, rfl⟩, h⟩ := h
    cases existing with
    | some existing =>
      simp only [Tx.bind_ok, Tx.raiseIf_ok, Tx.pure_ok] at h
      obtain ⟨_, _, -, hnone, -⟩ := h
      cases hnone
    | none =>
      rw [hcap] at h
      simp only [checkCap, Tx.bind_ok, Tx.raiseIf_ok, Tx.select_ok] at h
      obtain ⟨_, _, ⟨-, rfl⟩, existing, _, ⟨hagain, rfl⟩, h⟩ := h
      obtain rfl : existing = none := hagain.trans hexisting.symm
      simp only [Tx.bind_ok, Tx.select_ok, Tx.rollbackIf_ok, Tx.pure_ok] at h
      obtain ⟨_, _, ⟨rfl, rfl⟩, _, _, ⟨hroom, rfl⟩, -⟩ := h
      exact ⟨⟨hamounts, hcurrency, hsnapshot⟩, hexisting.symm, by omega⟩
  · cases h

theorem placeOrder_cases (a : OrderArgs) (d : DB) : (Tx.run (placeOrder a) d).2 = d ∨
    ∃ h, (Tx.run (placeOrder a) d).2.orders.rows = d.orders.rows ++ [newOrder a h] := by
  unfold placeOrder
  split_ifs with hcredit
  · rcases Tx.run_cases (atomic_insertNewOrder a (newOrder a hcredit)) d with hsame | ⟨o, t, h, heq⟩
    · exact .inl hsame
    · simp only [insertNewOrder, Tx.bind_ok, Tx.add_ok, Tx.tryExcept_ok, Tx.commit_ok, Tx.pure_ok,
        Session.fresh] at h
      obtain ⟨_, _, rfl, ⟨_, _, ⟨d', hd, rfl⟩, -, rfl⟩ | ⟨e, s', he, -, h⟩⟩ := h
      · right
        simp only [List.nil_append, Tx.applyAll_cons, Tx.applyAll_nil, Option.some.injEq,
          exists_eq_right] at hd
        obtain ⟨orders, hi, -, rfl⟩ := insertOrder_ok.1 hd
        refine ⟨hcredit, ?_⟩
        rw [heq]
        exact (Table.insert?_eq_some.1 hi).2
      · left
        rw [heq]
        have hc := (Tx.atomic_commit_return (newOrder a hcredit)).committed _ e (by rw [he])
        rw [he] at hc
        simp only [Tx.rollback_ok, Tx.select_ok, Tx.orRaise_ok, Tx.raiseIf_ok] at h
        obtain ⟨_, _, rfl, _, _, ⟨-, rfl⟩, _, _, ⟨-, rfl⟩, _, _, ⟨-, rfl⟩, -, rfl⟩ := h
        exact hc
  · exact .inl rfl

/-- A known key is answered before anything is counted. -/
theorem createOrder_known {user : User} (hquote : WellFormed a)
    (huser : d.users.get? a.userId = some user)
    (hactive : user.status = .active) (hknown : orderWithKey a.userId a.idempotencyKey d = some o) :
    Tx.run (createOrder a) d = if sameOrderQuote o a then (.ok o, d)
      else (.error (.paymentDomain "相同幂等键的支付报价不一致" 409), d) := by
  have hcheck : checkOrder a (.fresh d) = if sameOrderQuote o a then (.ok (some o), .fresh d)
      else (.error (.paymentDomain "相同幂等键的支付报价不一致" 409), .fresh d) := by
    have huser' : (Session.fresh d).work.users.get? a.userId = some user := huser
    have hknown' : orderWithKey a.userId a.idempotencyKey (Session.fresh d).work = some o := hknown
    unfold checkOrder
    rw [if_pos hquote.amounts, Tx.raiseIf_bind hquote.currency, Tx.raiseIf_bind hquote.snapshot,
      Tx.select_bind, Tx.bind_of_ok ((Tx.orRollback_ok ..).2 ⟨huser', rfl⟩),
      Tx.rollbackIf_bind (not_not.2 hactive), Tx.select_bind, hknown']
    dsimp only
    split_ifs with hsame
    · rw [Tx.raiseIf_bind (not_not.2 hsame)]
      rfl
    · rw [Tx.raiseIf_raises hsame]
  rw [createOrder_eq]
  unfold Tx.run
  simp only [Bind.bind, hcheck]
  split_ifs <;> rfl

end Halves

/-! ## What holds on the way -/

structure Sound (isUpper : String → Bool) (m : Nat) (s : State) : Prop where
  capped : ∀ userId, openOrders userId s.db ≤ m
  /-- No two orders of a user have one key. -/
  single : ∀ o ∈ s.db.orders.rows, ∀ o' ∈ s.db.orders.rows, o.userId = o'.userId →
    o.clientIdempotencyKey = o'.clientIdempotencyKey → o.clientIdempotencyKey ≠ none → o = o'
  backed : ∀ o ∈ s.db.orders.rows, ∃ a, WellFormed a ∧
    a.currencyIsUpper = isUpper a.paymentCurrency ∧ sameOrderQuote o a
  /-- A call that has passed its checks may still insert. -/
  room : ∀ a ∈ s.checked, openOrders a.userId s.db < m
  unkeyed : ∀ a ∈ s.checked, orderWithKey a.userId a.idempotencyKey s.db = none
  quoted : ∀ a ∈ s.checked, WellFormed a ∧ a.currencyIsUpper = isUpper a.paymentCurrency
  locked : (s.checked.map OrderArgs.userId).Nodup

section Steps

variable {isUpper : String → Bool} {m : Nat} {s : State} {d e : DB}

theorem contract_fields {o o' : PaymentOrder} (h : o'.contract = o.contract) :
    o'.userId = o.userId ∧ o'.clientIdempotencyKey = o.clientIdempotencyKey ∧ ∀ a,
    sameOrderQuote o' a ↔ sameOrderQuote o a := by
  simp only [PaymentOrder.contract, Prod.mk.injEq] at h
  obtain ⟨huser, hkey, hprovider, hamount, hcurrency, hcredit, hquote, hnum, hden⟩ := h
  refine ⟨huser, hkey, fun a => ?_⟩
  unfold sameOrderQuote
  rw [hprovider, hamount, hcurrency, hcredit, hquote, hnum, hden]

theorem Remains.openOrders_le (h : Remains d e) (userId : Id) :
    openOrders userId e ≤ openOrders userId d := by
  apply Table.count_le
  intro o' ho' hp
  rw [Bool.and_eq_true, decide_eq_true_eq] at hp
  obtain ⟨o, ho, hid, hcontract, hopen⟩ := h.old o' ho'
  refine ⟨o, ho, hid, ?_⟩
  rw [Bool.and_eq_true, decide_eq_true_eq]
  exact ⟨(contract_fields hcontract).1.symm.trans hp.1, hopen hp.2⟩

theorem Remains.orderWithKey_eq_none (h : Remains d e) {userId : Id} {key : String}
    (hd : orderWithKey userId key d = none) :
    orderWithKey userId key e = none := by
  rw [OpenOrders.orderWithKey_eq_none] at hd ⊢
  intro o' ho' huser
  obtain ⟨o, ho, -, hcontract, -⟩ := h.old o' ho'
  obtain ⟨hu, hkey, -⟩ := contract_fields hcontract
  rw [hkey]
  exact hd o ho (hu.symm.trans huser)

theorem Sound.remains {s' : State} (hs : Sound isUpper m s) (h : Remains s.db s'.db)
    (hchecked : s'.checked = s.checked) :
    Sound isUpper m s' := by
  constructor
  · exact fun userId => (h.openOrders_le userId).trans (hs.capped userId)
  · intro o₁ h₁ o₂ h₂ huser hkey hsome
    obtain ⟨p₁, hp₁, hid₁, hc₁, -⟩ := h.old o₁ h₁
    obtain ⟨p₂, hp₂, hid₂, hc₂, -⟩ := h.old o₂ h₂
    obtain ⟨hu₁, hk₁, -⟩ := contract_fields hc₁
    obtain ⟨hu₂, hk₂, -⟩ := contract_fields hc₂
    have hsame : p₁ = p₂ := by
      apply hs.single p₁ hp₁ p₂ hp₂
      · rw [← hu₁, ← hu₂, huser]
      · rw [← hk₁, ← hk₂, hkey]
      · rw [← hk₁]
        exact hsome
    exact Table.eq_of_mem_of_key h₁ h₂ (by rw [hid₁, hid₂, hsame])
  · intro o' ho'
    obtain ⟨o, ho, -, hcontract, -⟩ := h.old o' ho'
    obtain ⟨a, ha, hupper, hquote⟩ := hs.backed o ho
    exact ⟨a, ha, hupper, ((contract_fields hcontract).2.2 a).2 hquote⟩
  · rw [hchecked]
    exact fun a ha => (h.openOrders_le a.userId).trans_lt (hs.room a ha)
  · rw [hchecked]
    exact fun a ha => h.orderWithKey_eq_none (hs.unkeyed a ha)
  · rw [hchecked]
    exact hs.quoted
  · rw [hchecked]
    exact hs.locked

theorem Sound.abandon (hs : Sound isUpper m s) (userId : Id) :
    Sound isUpper m { s with checked := s.others userId } := by
  have hsub (a : OrderArgs) (ha : a ∈ s.others userId) : a ∈ s.checked := (List.mem_filter.1 ha).1
  exact ⟨hs.capped, hs.single, hs.backed, fun a ha => hs.room a (hsub a ha), fun a ha =>
    hs.unkeyed a (hsub a ha),
    fun a ha => hs.quoted a (hsub a ha), hs.locked.sublist (List.filter_sublist.map _)⟩

theorem Sound.check (hs : Sound isUpper m s) {a : OrderArgs}
    (ha : (Step.check a).Allowed isUpper m s) :
    Sound isUpper m (s.check a) := by
  obtain ⟨hcap, hupper, hfree⟩ := ha
  unfold State.check
  split
  · rename_i hnone
    obtain ⟨hquote, hunkeyed, hroom⟩ := checkOrder_none hcap (Prod.ext hnone rfl)
    refine ⟨hs.capped, hs.single, hs.backed, List.forall_mem_cons.2 ⟨hroom, hs.room⟩,
      List.forall_mem_cons.2 ⟨hunkeyed, hs.unkeyed⟩,
      List.forall_mem_cons.2 ⟨⟨hquote, hupper⟩, hs.quoted⟩, ?_⟩
    rw [List.map_cons, List.nodup_cons]
    refine ⟨fun hmem => ?_, hs.locked⟩
    obtain ⟨b, hb, huser⟩ := List.mem_map.1 hmem
    exact List.find?_eq_none.1 hfree b hb (decide_eq_true huser)
  · exact hs

theorem holder_eq_some {userId : Id} {a : OrderArgs} (h : s.holder userId = some a) :
    a ∈ s.checked ∧ a.userId = userId :=
  ⟨List.mem_of_find?_eq_some h, by simpa using List.find?_some h⟩

theorem Sound.insert (hs : Sound isUpper m s) {a : OrderArgs} (ha : a ∈ s.checked)
    (hcredit : 0 < a.creditAmountMicrousd)
    (hrows : d.orders.rows = s.db.orders.rows ++ [newOrder a hcredit]) :
    Sound isUpper m ⟨d, s.others a.userId⟩ := by
  have hcount (userId : Id) : openOrders userId d = openOrders userId s.db + if a.userId =
      userId then 1 else 0 := by
    unfold openOrders Table.count
    rw [hrows, List.countP_append, List.countP_singleton]
    congr 1
    by_cases huser : a.userId = userId
    · simp [newOrder, OrderStatus.isOpen, huser]
    · simp [newOrder, huser]
  have hunkeyed := orderWithKey_eq_none.1 (hs.unkeyed a ha)
  have hother (b : OrderArgs) (hb : b ∈ s.others a.userId) : b ∈ s.checked ∧
      b.userId ≠ a.userId := by
    obtain ⟨hmem, hne⟩ := List.mem_filter.1 hb
    exact ⟨hmem, of_decide_eq_true hne⟩
  constructor
  · intro userId
    rw [hcount]
    split_ifs with huser
    · rw [← huser]
      exact hs.room a ha
    · exact hs.capped userId
  · have hnew (o : PaymentOrder) (ho : o ∈ s.db.orders.rows) (huser : o.userId = a.userId) :
        o.clientIdempotencyKey ≠ some a.idempotencyKey := hunkeyed o ho huser
    intro o ho o' ho' huser hkey hsome
    rw [hrows, List.mem_append, List.mem_singleton] at ho ho'
    rcases ho with ho | rfl
    · rcases ho' with ho' | rfl
      · exact hs.single o ho o' ho' huser hkey hsome
      · exact absurd hkey (hnew o ho huser)
    · rcases ho' with ho' | rfl
      · exact absurd hkey.symm (hnew o' ho' huser.symm)
      · rfl
  · intro o ho
    rw [hrows, List.mem_append, List.mem_singleton] at ho
    rcases ho with ho | rfl
    · exact hs.backed o ho
    · obtain ⟨hquote, hupper⟩ := hs.quoted a ha
      exact ⟨a, hquote, hupper, rfl, rfl, rfl, rfl, rfl, rfl, rfl⟩
  · intro b hb
    obtain ⟨hmem, hne⟩ := hother b hb
    rw [hcount, if_neg hne.symm]
    exact hs.room b hmem
  · intro b hb
    obtain ⟨hmem, hne⟩ := hother b hb
    rw [orderWithKey_eq_none]
    intro o ho huser
    rw [hrows, List.mem_append, List.mem_singleton] at ho
    rcases ho with ho | rfl
    · exact orderWithKey_eq_none.1 (hs.unkeyed b hmem) o ho huser
    · exact absurd huser.symm hne
  · exact fun b hb => hs.quoted b (hother b hb).1
  · exact hs.locked.sublist (List.filter_sublist.map _)

theorem Sound.place (hs : Sound isUpper m s) (userId : Id) : Sound isUpper m (s.place userId) := by
  unfold State.place
  split
  · rename_i a hholder
    obtain ⟨ha, rfl⟩ := holder_eq_some hholder
    rcases placeOrder_cases a s.db with hsame | ⟨hcredit, hrows⟩
    · rw [hsame]
      exact hs.abandon a.userId
    · exact hs.insert ha hcredit hrows
  · exact hs

theorem Sound.step (hs : Sound isUpper m s) {step : Step} (h : step.Allowed isUpper m s) :
    Sound isUpper m (step.exec s) := by
  cases step with
  | part p => exact hs.remains (remains_part h s.db) rfl
  | check a => exact hs.check h
  | place userId => exact hs.place userId
  | abandon userId => exact hs.abandon userId

/-- The user has an order under the key. -/
def Keyed (userId : Id) (key : String) (s : State) : Prop :=
  ∃ o ∈ s.db.orders.rows, o.userId = userId ∧ o.clientIdempotencyKey = some key

theorem Keyed.step {userId : Id} {key : String} (hs : Keyed userId key s) {step : Step}
    (h : step.Allowed isUpper m s) :
    Keyed userId key (step.exec s) := by
  obtain ⟨o, ho, huser, hkey⟩ := hs
  cases step with
  | part p =>
    obtain ⟨o', ho', hcontract⟩ := (remains_part h s.db).kept o ho
    obtain ⟨hu, hk, -⟩ := contract_fields hcontract
    exact ⟨o', ho', hu.trans huser, hk.trans hkey⟩
  | check a =>
    show Keyed userId key (s.check a)
    unfold State.check
    split
    · exact ⟨o, ho, huser, hkey⟩
    · exact ⟨o, ho, huser, hkey⟩
  | place u =>
    show Keyed userId key (s.place u)
    unfold State.place
    split
    · rename_i a _
      refine ⟨o, ?_, huser, hkey⟩
      dsimp only
      rcases placeOrder_cases a s.db with hsame | ⟨hcredit, hrows⟩
      · rw [hsame]
        exact ho
      · rw [hrows]
        exact List.mem_append_left _ ho
    · exact ⟨o, ho, huser, hkey⟩
  | abandon u => exact ⟨o, ho, huser, hkey⟩

theorem creates_keyed {userId : Id} {key : String} (hs : Sound isUpper m s) {step : Step}
    (h : step.creates userId key s) :
    ¬ Keyed userId key s ∧ Keyed userId key (step.exec s) := by
  cases step with
  | place u =>
    unfold Step.creates at h
    dsimp only at h
    cases hholder : s.holder u with
    | none =>
      rw [hholder] at h
      cases h
    | some a =>
      rw [hholder, Option.any_some, Bool.and_eq_true, Bool.and_eq_true, decide_eq_true_eq,
        decide_eq_true_eq, decide_eq_true_eq] at h
      obtain ⟨⟨rfl, rfl⟩, hlength⟩ := h
      obtain ⟨ha, -⟩ := holder_eq_some hholder
      constructor
      · rintro ⟨o, ho, huser, hkey⟩
        exact orderWithKey_eq_none.1 (hs.unkeyed a ha) o ho huser hkey
      · show Keyed a.userId a.idempotencyKey (s.place u)
        unfold State.place
        rw [hholder]
        rcases placeOrder_cases a s.db with hsame | ⟨hcredit, hrows⟩
        · rw [hsame] at hlength
          exact absurd rfl hlength
        · refine ⟨newOrder a hcredit, ?_, rfl, rfl⟩
          dsimp only
          rw [hrows]
          exact List.mem_append_right _ (List.mem_singleton_self _)
  | _ => cases h

theorem Sound.orderWithKey_eq (hs : Sound isUpper m s) {o : PaymentOrder} {userId : Id}
    {key : String} (ho : o ∈ s.db.orders.rows)
    (howner : o.userId = userId) (hkey : o.clientIdempotencyKey = some key) :
    orderWithKey userId key s.db = some o := by
  cases hfound : orderWithKey userId key s.db with
  | none => exact absurd hkey (orderWithKey_eq_none.1 hfound o ho howner)
  | some x =>
    obtain ⟨hx, hxowner, hxkey⟩ := orderWithKey_eq_some hfound
    rw [hs.single x hx o ho (hxowner.trans howner.symm) (hxkey.trans hkey.symm)
      (by rw [hxkey]; exact Option.some_ne_none key)]

theorem Sound.wellFormed (hs : Sound isUpper m s) {o : PaymentOrder} {a : OrderArgs}
    (hupper : a.currencyIsUpper = isUpper a.paymentCurrency) (ho : o ∈ s.db.orders.rows)
    (hsame : sameOrderQuote o a) :
    WellFormed a := by
  obtain ⟨b, hb, hbupper, hprovider, hamount, hcurrency, hcredit, hquote, hnum, hden⟩ :=
    hs.backed o ho
  obtain ⟨hprovider', hamount', hcurrency', hcredit', hquote', hnum', hden'⟩ := hsame
  have eamount : a.paymentAmountMinor = b.paymentAmountMinor :=
    Option.some.inj (hamount'.symm.trans hamount)
  have ecurrency : a.paymentCurrency = b.paymentCurrency :=
    Option.some.inj (hcurrency'.symm.trans hcurrency)
  have equote : a.quoteId = b.quoteId := Option.some.inj (hquote'.symm.trans hquote)
  constructor
  · rw [eamount, ← hcredit', hcredit]
    exact hb.amounts
  · rw [hupper, ecurrency, ← hbupper]
    exact hb.currency
  · rw [← hprovider', equote, ← hnum', ← hden', hprovider, hnum, hden]
    exact hb.snapshot

theorem sound_start (hd : d.orders.rows = []) : Sound isUpper m ⟨d, []⟩ := by
  have hnone (o : PaymentOrder) (ho : o ∈ d.orders.rows) : False := by
    rw [hd] at ho
    cases ho
  constructor
  · intro userId
    unfold openOrders Table.count
    dsimp only
    rw [hd]
    exact Nat.zero_le m
  · exact fun o ho => (hnone o ho).elim
  · exact fun o ho => (hnone o ho).elim
  · exact fun a ha => absurd ha List.not_mem_nil
  · exact fun a ha => absurd ha List.not_mem_nil
  · exact fun a ha => absurd ha List.not_mem_nil
  · exact List.nodup_nil

/-- No user has more open orders than the cap, or two orders under a key. An account that is active
gets the order of a known key again for the same quote, and a conflict for another. -/
theorem orders_capped (isUpper : String → Bool) (m : Nat) {steps : List Step}
    (hd : d.orders.rows = [])
    (h : Run.Along Step.exec (Step.Allowed isUpper m) ⟨d, []⟩ steps) :
    (∀ userId, openOrders userId (Run.after Step.exec ⟨d, []⟩ steps).db ≤ m) ∧
    (∀ userId key, Run.count Step.exec (Step.creates userId key) ⟨d, []⟩ steps ≤ 1) ∧
    ∀ (a : OrderArgs) (user : User), a.currencyIsUpper = isUpper a.paymentCurrency →
      (Run.after Step.exec ⟨d, []⟩ steps).db.users.get? a.userId = some user →
      user.status = .active →
      ∀ o ∈ (Run.after Step.exec ⟨d, []⟩ steps).db.orders.rows, o.userId = a.userId →
        o.clientIdempotencyKey = some a.idempotencyKey →
        (sameOrderQuote o a → Tx.run (createOrder a) (Run.after Step.exec ⟨d, []⟩ steps).db =
          (.ok o, (Run.after Step.exec ⟨d, []⟩ steps).db)) ∧
        (WellFormed a → ¬ sameOrderQuote o a →
          Tx.run (createOrder a) (Run.after Step.exec ⟨d, []⟩ steps).db =
          (.error (.paymentDomain "相同幂等键的支付报价不一致" 409),
            (Run.after Step.exec ⟨d, []⟩ steps).db)) := by
  have hs : Sound isUpper m (Run.after Step.exec ⟨d, []⟩ steps) :=
    Run.invariant (I := Sound isUpper m) (fun _ _ hs ha => hs.step ha) (sound_start hd) h
  refine ⟨hs.capped, fun userId key => ?_, ?_⟩
  · refine Run.count_le_one (I := Sound isUpper m) (Q := Keyed userId key)
      (fun _ _ hs ha => hs.step ha)
      (fun _ _ hs _ hc => (creates_keyed hs hc).2)
        (fun s step hs ha hkeyed => ⟨?_, hkeyed.step ha⟩) (sound_start hd) h
    cases hc : step.creates userId key s with
    | false => rfl
    | true => exact absurd hkeyed (creates_keyed hs hc).1
  · generalize Run.after Step.exec ⟨d, []⟩ steps = s at hs
    intro a user hupper huser hactive o ho howner hkey
    have hknown := hs.orderWithKey_eq ho howner hkey
    constructor
    · intro hsame
      rw [createOrder_known (hs.wellFormed hupper ho hsame) huser hactive hknown, if_pos hsame]
    · intro hquote hdiffers
      rw [createOrder_known hquote huser hactive hknown, if_neg hdiffers]

end Steps

/-- An order of one user, under a key. -/
def orderArgs (key : String) (amount : Int) (orderId : Id) : OrderArgs :=
  ⟨"u", "pay", amount, "CNY", true, 1000, "starter", 1, 1, key, some 1, orderId⟩

/-- A second order waits for the first to be closed. -/
def twoOrders : List Step := [
  .check (orderArgs "k1" 100 "o1"),
  .place "u",
  .check (orderArgs "k2" 100 "o2"),
  .part (.session (.prepareCheckout "o1" 0 checkoutClaimLease)),
  .place "u"]

theorem one_order_open : openOrders "u" (Run.after Step.exec ⟨shop, []⟩ twoOrders).db ≤ 1 ∧
    Run.count Step.exec (Step.creates "u" "k1") ⟨shop, []⟩ twoOrders ≤ 1 :=
  have hsteps : Run.Along Step.exec (Step.Allowed (fun _ => true) 1) ⟨shop, []⟩
    twoOrders := by decide +kernel
  have h := orders_capped (fun _ => true) 1 rfl hsteps
  ⟨h.1 "u", h.2.1 "u" "k1"⟩

/-- An amount of zero is refused before the key is looked up. -/
theorem zero_quote_not_conflict :
    ¬ ∀ (d : DB) (steps : List Step) (a : OrderArgs) (o : PaymentOrder), d.orders.rows = [] →
    Run.Along Step.exec (Step.Allowed (fun _ => true) 1) ⟨d, []⟩ steps →
      o ∈ (Run.after Step.exec ⟨d, []⟩ steps).db.orders.rows → o.userId = a.userId →
      o.clientIdempotencyKey = some a.idempotencyKey → ¬ sameOrderQuote o a →
      (Tx.run (createOrder a) (Run.after Step.exec ⟨d, []⟩ steps).db).1 =
        .error (.paymentDomain "相同幂等键的支付报价不一致" 409) := by
  intro hclaim
  have hraised := hclaim shop [.check (orderArgs "k1" 100 "o1"), .place "u"] (orderArgs "k1" 0 "o2")
    (newOrder (orderArgs "k1" 100 "o1") (by decide)) rfl (by decide +kernel) (by decide +kernel)
      rfl rfl (by decide)
  exact absurd hraised (by decide +kernel)

def frozenArgs (orderId : Id) : OrderArgs :=
  ⟨"u", "provider", 100, "CNY", true, 5000, "q", 50, 1, "key", some 3, orderId⟩

/-- An order is paid, its credit is spent, and its refund freezes the account. -/
def frozenSteps : List Step :=
  [.check (frozenArgs "o"), .place "u"] ++ spentRefund.tail.map fun op => .part (.session op)

/-- A frozen account is refused before the key is looked up. -/
theorem frozen_order_not_returned :
    ¬ ∀ (d : DB) (steps : List Step) (a : OrderArgs) (o : PaymentOrder), d.orders.rows = [] →
    Run.Along Step.exec (Step.Allowed (fun _ => true) 3) ⟨d, []⟩ steps →
      o ∈ (Run.after Step.exec ⟨d, []⟩ steps).db.orders.rows → o.userId = a.userId →
      o.clientIdempotencyKey = some a.idempotencyKey → sameOrderQuote o a →
      (Tx.run (createOrder a) (Run.after Step.exec ⟨d, []⟩ steps).db).1 = .ok o := by
  intro hclaim
  have horder : ∃ o ∈ (Run.after Step.exec ⟨shop, []⟩ frozenSteps).db.orders.rows, o.userId = "u" ∧
      o.clientIdempotencyKey = some "key" ∧ sameOrderQuote o (frozenArgs "o'") := by decide +kernel
  obtain ⟨o, ho, howner, hkey, hsame⟩ := horder
  have hreturned := hclaim shop frozenSteps (frozenArgs "o'") o rfl (by decide +kernel)
    ho howner hkey hsame
  have hraised : (Tx.run (createOrder (frozenArgs "o'"))
    (Run.after Step.exec ⟨shop, []⟩ frozenSteps).db).1.isOk = false := by
    decide +kernel
  rw [hreturned] at hraised
  cases hraised

end Kunlun.OpenOrders
