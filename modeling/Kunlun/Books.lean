import Mathlib.Logic.Relation
import Kunlun.Refunds

/-!
# Books

What the money of the platform is, without sessions, credentials or events: the wallets
and budgets, the journal, and the orders, refunds and requests that money moves for. A
`Move` is a change of the books that keeps them in order.
-/

namespace Kunlun

structure Books where
  users : List Id
  wallets : Table Wallet Wallet.userId
  ledger : Table LedgerTransaction LedgerTransaction.idempotencyKey
  orders : Table PaymentOrder PaymentOrder.id
  refunds : Table PaymentRefund PaymentRefund.id
  budgets : Table Budget Budget.id
  requests : Table ModelRequest ModelRequest.id

def DB.books (d : DB) : Books where
  users := d.users.rows.map User.id
  wallets := d.wallets
  ledger := d.ledger
  orders := d.orders
  refunds := d.refunds
  budgets := d.budgets
  requests := d.requests

/-! ## Journals -/

/-- What a journal says on the accounts that the invariants follow. -/
structure Posts (j : LedgerTransaction) (kind : LedgerKind) (userId : Id) (reference : String)
    (available reserved clearing risk : Int) : Prop where
  kind : j.kind = kind
  userId : j.userId = userId
  reference : j.reference = reference
  available : j.total .customerAvailable = available
  reserved : j.total .customerReserved = reserved
  clearing : j.total .platformClearing = clearing
  risk : j.total .platformRisk = risk

/-- A journal that is nothing to an order. -/
def LedgerKind.ofRequest : LedgerKind → Bool
  | .reserve | .settle | .release | .operatorRelease => true
  | _ => false

def LedgerKind.ofCredit : LedgerKind → Bool
  | .credit | .paymentCredit => true
  | _ => false

/-- The kinds that `resolve_refund_risk` sums. -/
def LedgerKind.ofRisk : LedgerKind → Bool
  | .paymentRefundRisk | .refundRiskRecover | .refundRiskWriteOff => true
  | _ => false

/-! ## Rows -/

def RequestStatus.outstanding : RequestStatus → Bool
  | .reserved | .pendingReconciliation => true
  | _ => false

/-- An order whose checkout may still be claimed. -/
def PaymentOrder.Claimable (o : PaymentOrder) : Prop :=
  o.status = .pending ∧ o.providerTransactionId = none ∧ o.checkoutUrl = none

/-- What every write to an order keeps. The test adapter may overwrite the transaction id. -/
structure OrderEdit (test : Prop) (o o' : PaymentOrder) : Prop where
  userId : o'.userId = o.userId
  provider : o'.provider = o.provider
  credit : o'.creditAmountMicrousd = o.creditAmountMicrousd
  claimable : o'.Claimable → o.Claimable
  transaction : ∀ t, o.providerTransactionId = some t →
    o'.providerTransactionId = some t ∨ (test ∧ o.provider = "test_hmac")

theorem OrderEdit.of_same {test : Prop} {o o' : PaymentOrder} (hu : o'.userId = o.userId)
    (hp : o'.provider = o.provider) (hc : o'.creditAmountMicrousd = o.creditAmountMicrousd)
    (ht : o'.providerTransactionId = o.providerTransactionId) (hs : o'.status ≠ .pending) :
    OrderEdit test o o' :=
  ⟨hu, hp, hc, fun h => absurd h.1 hs, fun _ h => .inl (ht.trans h)⟩

/-- A change of status that moves no money. -/
def OrderStatus.Progress (s s' : OrderStatus) : Prop :=
  s' = s ∨ (s.isOpen ∧ (s'.isOpen ∨ s' = .failed ∨ s' = .closed))

structure RefundEdit (r r' : PaymentRefund) : Prop where
  orderId : r'.orderId = r.orderId
  userId : r'.userId = r.userId
  command : r'.idempotencyKey = r.idempotencyKey
  provider : r.status.isActive = false → r'.providerRefundId = r.providerRefundId

structure RequestEdit (r r' : ModelRequest) : Prop where
  userId : r'.userId = r.userId
  budgetId : r'.budgetId = r.budgetId
  reserved : r'.reservedMicrousd = r.reservedMicrousd
  prices : r'.inputPrice = r.inputPrice ∧ r'.outputPrice = r.outputPrice
  input : r'.status.outstanding → r'.inputTokens = r.inputTokens

/-- A change of the budget that a request names, if it names one. -/
def onBudget (budgets : Table Budget Budget.id) (budgetId : Option Id) (f : Budget → Budget)
    (hf : ∀ b, (f b).id = b.id) : Table Budget Budget.id :=
  match budgetId with
  | none => budgets
  | some i => budgets.modify i f hf

/-! ## Moves -/

/-- What is known of the calls that make the moves. -/
structure Env where
  /-- Of the ids that `uuid4` draws for orders and for requests. -/
  orderId : Books → Id → Prop
  requestId : Books → Id → Prop
  /-- Whether the test adapter is at work. -/
  test : Prop
  /-- Whether settlements and releases come with the statuses that the callers in `src` pass. -/
  callers : Prop

/-- What the callers in `src` make of a settlement or a release. -/
structure CallerFinish (r r' : ModelRequest) (charged : Int) (kind : LedgerKind) : Prop where
  outstanding : r.status.outstanding
  finished : r'.status.outstanding = false
  ofRequest : kind.ofRequest
  released : r'.status = .failed ∨ r'.status = .reconciledReleased → charged = 0

/-- The keys of the journals that end a hold. -/
def LedgerTransaction.EndsHold (j : LedgerTransaction) (requestId : Id) : Prop :=
  j.idempotencyKey = "model:" ++ requestId ++ ":settle" ∨ j.idempotencyKey = "model:" ++
    requestId ++ ":release"

inductive Move (env : Env) : Books → Books → Prop where
  | register {b : Books} (userId : Id) {wallets : Table Wallet Wallet.userId}
      (insert : b.wallets.insert? ⟨userId, 0, 0⟩ = some wallets) :
      Move env b { b with users := b.users ++ [userId], wallets := wallets }
  | hold {b : Books} (r : ModelRequest) (w : Wallet) (j : LedgerTransaction)
      {ledger : Table LedgerTransaction LedgerTransaction.idempotencyKey}
      {requests : Table ModelRequest ModelRequest.id}
      (drawn : env.requestId b r.id) (positive : 0 < r.reservedMicrousd)
      (status : r.status = .reserved) (charged : r.chargedMicrousd = 0)
      (wallet : b.wallets.get? r.userId = some w) (covered : r.reservedMicrousd ≤ w.balanceMicrousd)
      (budget : ∀ i ∈ r.budgetId, ∃ x, b.budgets.get? i = some x ∧ x.userId = r.userId ∧
        x.status = .active ∧
        x.spentMicrousd + x.reservedMicrousd + r.reservedMicrousd ≤ x.limitMicrousd)
      (posts : Posts j .reserve r.userId r.id (-r.reservedMicrousd) r.reservedMicrousd 0 0)
      (post : b.ledger.insert? j = some ledger) (insert : b.requests.insert? r = some requests)
      (key : j.idempotencyKey = "model:" ++ r.id ++ ":reserve") :
      Move env b { b with
        wallets := b.wallets.modify r.userId fun w => { w with
          balanceMicrousd := w.balanceMicrousd - r.reservedMicrousd
          reservedMicrousd := w.reservedMicrousd + r.reservedMicrousd }
        budgets := onBudget b.budgets r.budgetId
          (fun x => { x with reservedMicrousd := x.reservedMicrousd + r.reservedMicrousd })
            (fun _ => rfl)
        ledger := ledger
        requests := requests }
  | finish {b : Books} (r : ModelRequest) (f : ModelRequest → ModelRequest)
    (hf : ∀ x, (f x).id = x.id)
      (w : Wallet) (charged : Int) (j : LedgerTransaction) (kind : LedgerKind) (risk : Int)
      {ledger : Table LedgerTransaction LedgerTransaction.idempotencyKey}
      (found : b.requests.get? r.id = some r) (edit : RequestEdit r (f r))
      (fits : 0 < r.reservedMicrousd → 0 ≤ charged ∧ charged ≤ r.reservedMicrousd)
      (charges : (f r).chargedMicrousd = charged ∨ charged = 0 ∧
        (f r).chargedMicrousd = r.chargedMicrousd)
      (caller : env.callers → CallerFinish r (f r) charged kind)
      (wallet : b.wallets.get? r.userId = some w) (held : r.reservedMicrousd ≤ w.reservedMicrousd)
      (budget : ∀ i ∈ r.budgetId, ∃ x, b.budgets.get? i = some x ∧
        r.reservedMicrousd ≤ x.reservedMicrousd)
      (posts : Posts j kind r.userId r.id (r.reservedMicrousd - charged)
        (-r.reservedMicrousd) 0 risk)
      (post : b.ledger.insert? j = some ledger) (key : j.EndsHold r.id) :
      Move env b { b with
        wallets := b.wallets.modify r.userId fun w => { w with
          reservedMicrousd := w.reservedMicrousd - r.reservedMicrousd
          balanceMicrousd := w.balanceMicrousd + (r.reservedMicrousd - charged) }
        budgets := onBudget b.budgets r.budgetId (fun x => { x with
          reservedMicrousd := x.reservedMicrousd - r.reservedMicrousd
          spentMicrousd := x.spentMicrousd + charged }) (fun _ => rfl)
        ledger := ledger
        requests := b.requests.modify r.id f hf }
  | suspend {b : Books} (p : ModelRequest → Bool) (f : ModelRequest → ModelRequest)
      (hf : ∀ x, (f x).id = x.id)
      (edit : ∀ r ∈ b.requests.rows, p r → RequestEdit r (f r) ∧
        (f r).chargedMicrousd = r.chargedMicrousd ∧
        r.status = .reserved ∧ (f r).status = .pendingReconciliation) :
      Move env b { b with requests := b.requests.update p f hf }
  | openBudget {b : Books} (x : Budget) {budgets : Table Budget Budget.id}
      (status : x.status = .active) (reserved : x.reservedMicrousd = 0)
        (spent : x.spentMicrousd = 0)
      (positive : 0 ≤ x.limitMicrousd)
      (first : ∀ y ∈ b.budgets.rows, y.userId = x.userId → y.periodStart = x.periodStart →
        y.status ≠ .active)
      (insert : b.budgets.insert? x = some budgets) :
      Move env b { b with budgets := budgets }
  | replaceBudget {b : Books} (old x : Budget) {budgets : Table Budget Budget.id}
      (found : b.budgets.get? old.id = some old) (active : old.status = .active)
        (idle : old.reservedMicrousd ≤ 0)
      (owner : x.userId = old.userId) (period : x.periodStart = old.periodStart)
      (status : x.status = .active) (reserved : x.reservedMicrousd = 0)
        (spent : x.spentMicrousd = old.spentMicrousd)
      (within : x.spentMicrousd ≤ x.limitMicrousd)
      (insert : (b.budgets.modify old.id fun y => { y with status := .superseded }).insert? x =
        some budgets) :
      Move env b { b with budgets := budgets }
  | place {b : Books} (o : PaymentOrder) {orders : Table PaymentOrder PaymentOrder.id}
      (drawn : env.orderId b o.id) (owner : o.userId ∈ b.users) (status : o.status = .pending)
      (insert : b.orders.insert? o = some orders) :
      Move env b { b with orders := orders }
  | progress {b : Books} (p : PaymentOrder → Bool) (f : PaymentOrder → PaymentOrder)
      (hf : ∀ o, (f o).id = o.id)
      (edit : ∀ o ∈ b.orders.rows, p o → OrderEdit env.test o (f o) ∧
        o.status.Progress (f o).status) :
      Move env b { b with orders := b.orders.update p f hf }
  | credit {b : Books} (o : PaymentOrder) (f : PaymentOrder → PaymentOrder)
    (hf : ∀ x, (f x).id = x.id)
      (j : LedgerTransaction) (kind : LedgerKind)
      {ledger : Table LedgerTransaction LedgerTransaction.idempotencyKey}
      (found : b.orders.get? o.id = some o) (openStatus : o.status.isOpen)
      (edit : OrderEdit env.test o (f o)) (paid : (f o).status = .paid) (ofCredit : kind.ofCredit)
      (posts : Posts j kind o.userId o.id o.creditAmountMicrousd 0 (-o.creditAmountMicrousd) 0)
      (post : b.ledger.insert? j = some ledger) (key : ∃ x, j.idempotencyKey = "payment:" ++ x) :
      Move env b { b with
        wallets := b.wallets.modify o.userId fun w => { w with
          balanceMicrousd := w.balanceMicrousd + o.creditAmountMicrousd }
        ledger := ledger
        orders := b.orders.modify o.id f hf }
  | command {b : Books} (o : PaymentOrder) (r : PaymentRefund)
      {refunds : Table PaymentRefund PaymentRefund.id}
      (found : b.orders.get? o.id = some o) (paid : o.status = .paid)
      (orderId : r.orderId = o.id) (status : r.status.isActive)
      (insert : b.refunds.insert? r = some refunds) (uniqueness : uniqueRefunds refunds.rows)
      (owner : r.userId = o.userId) :
      Move env b { b with
        refunds := refunds
        orders := b.orders.modify o.id fun o => { o with status := .refunding } }
  | reissue {b : Books} (p : PaymentRefund → Bool) (f : PaymentRefund → PaymentRefund)
      (hf : ∀ r, (f r).id = r.id)
      (edit : ∀ r ∈ b.refunds.rows, p r →
        RefundEdit r (f r) ∧ r.status.isActive ∧ (f r).status.isActive) :
      Move env b { b with refunds := b.refunds.update p f hf }
  | reverse {b : Books} (o : PaymentOrder) (g : PaymentOrder → PaymentOrder)
    (hg : ∀ x, (g x).id = x.id)
      (r : PaymentRefund) (f : PaymentRefund → PaymentRefund) (hf : ∀ x, (f x).id = x.id)
      (w : Wallet) (recovered : Int) (j : LedgerTransaction) (kind : LedgerKind)
      {refunds : Table PaymentRefund PaymentRefund.id}
      {ledger : Table LedgerTransaction LedgerTransaction.idempotencyKey}
      (found : b.orders.get? o.id = some o) (reversible : o.status = .paid ∨ o.status = .refunding)
      (edit : OrderEdit env.test o (g o)) (refunded : (g o).status = .refunded)
      (source : refunds = b.refunds ∨ b.refunds.insert? r = some refunds ∧
        uniqueRefunds refunds.rows)
      (foundRefund : refunds.get? r.id = some r) (active : r.status.isActive)
      (orderId : r.orderId = o.id) (editRefund : RefundEdit r (f r))
      (ended : (f r).status = if recovered = o.creditAmountMicrousd then .refunded else .risk)
      (wallet : b.wallets.get? o.userId = some w) (nonneg : 0 ≤ recovered)
      (within : recovered ≤ o.creditAmountMicrousd) (covered : recovered ≤ max 0 w.balanceMicrousd)
      (hkind : kind = if recovered = o.creditAmountMicrousd then .paymentRefund
        else .paymentRefundRisk)
      (posts : Posts j kind o.userId o.id (-recovered) 0 o.creditAmountMicrousd
        (-(o.creditAmountMicrousd - recovered)))
      (post : b.ledger.insert? j = some ledger) (owner : refunds = b.refunds ∨ r.userId = o.userId)
      (key : j.idempotencyKey = "refund:" ++ r.id ∨ j.idempotencyKey = "refund-risk:" ++ r.id) :
      Move env b { b with
        wallets := b.wallets.modify o.userId fun w =>
          { w with balanceMicrousd := w.balanceMicrousd - recovered }
        ledger := ledger
        orders := b.orders.modify o.id g hg
        refunds := refunds.modify r.id f hf }
  | resolve {b : Books} (r : PaymentRefund) (f : PaymentRefund → PaymentRefund)
    (hf : ∀ x, (f x).id = x.id)
      (o : PaymentOrder) (g : PaymentOrder → PaymentOrder) (hg : ∀ x, (g x).id = x.id)
      (w : Wallet) (outstanding recovered : Int) (j : LedgerTransaction) (kind : LedgerKind)
      {ledger : Table LedgerTransaction LedgerTransaction.idempotencyKey}
      (found : b.refunds.get? r.id = some r) (atRisk : r.status = .risk)
        (editRefund : RefundEdit r (f r))
      (resolved : (f r).status = .resolved)
      (foundOrder : b.orders.get? o.id = some o) (orderId : r.orderId = o.id)
      (refunded : o.status = .refunded) (edit : OrderEdit env.test o (g o))
        (same : (g o).status = o.status)
      (net : outstanding = -b.ledger.sum fun t =>
        if t.reference = r.orderId ∧ t.kind.ofRisk then t.total .platformRisk else 0)
      (positive : 0 < outstanding) (wallet : b.wallets.get? r.userId = some w)
      (least : min w.balanceMicrousd outstanding ≤ recovered) (within : recovered ≤ outstanding)
      (covered : recovered ≤ w.balanceMicrousd)
      (hkind : kind = .refundRiskRecover ∨ kind = .refundRiskWriteOff)
      (posts : Posts j kind r.userId r.orderId (-recovered) 0 0 outstanding)
      (post : b.ledger.insert? j = some ledger)
      (key : ∃ x, j.idempotencyKey = "refund-risk-disposition:" ++ r.id ++ ":" ++ x) :
      Move env b { b with
        wallets := b.wallets.modify r.userId fun w =>
          { w with balanceMicrousd := w.balanceMicrousd - recovered }
        ledger := ledger
        orders := b.orders.modify o.id g hg
        refunds := b.refunds.modify r.id f hf }

/-- What one session does to the books: any number of moves, most often one or none. -/
abbrev Moves (env : Env) : Books → Books → Prop := Relation.ReflTransGen (Move env)

end Kunlun
