import Kunlun.Holds
import Kunlun.Keeps
import Kunlun.Lib.Run
import Kunlun.Moves.Webhook
import Kunlun.Orders
import Kunlun.Raises.Refunds

/-!
# Runs of the gateway

Sessions follow one another, each with one call of a service or of a route.
-/

namespace Kunlun

inductive Op where
  | registerIdentity (user : User)
  | issueEmailVerification (userId : Id) (a : TokenArgs)
  | consumeEmailVerification (digest : String) (now : Time)
  | login (a : LoginArgs)
  | logoutAll (userId : Id)
  | requestPasswordReset (email : String) (a : TokenArgs)
  | createKey (a : KeyArgs)
  | revokeKey (userId keyId : Id)
  | updateAccountStatus (a : AccountStatusArgs)
  | resetPassword (a : ResetArgs)
  | createBudget (userId : Id) (amount : Int) (budgetId : Id) (now createdAt : Time)
  | reserveModelRequest (a : ReserveArgs)
  | settleModelRequest (a : SettleArgs)
  | releaseModelRequest (a : ReleaseArgs)
  | markPendingReconciliation (a : MarkArgs)
  | recoverStaleModelReservations (leaseSeconds : Int) (now : Time)
  | reconcileRequest (a : DecideArgs)
  | createTestOrder (a : TestOrderArgs)
  | processTestWebhook (a : TestWebhookArgs)
  | createOrder (a : OrderArgs)
  | prepareCheckout (orderId : Id) (now lease : Time)
  | checkoutFailed (orderId : Id) (code : String)
  | checkoutAnswered (orderId : Id) (checkout : CheckoutResult)
  | claimReconciliation (a : ReconcileArgs)
  | reconcileFailed (orderId : Id) (code : String)
  | reconcileManual (orderId : Id) (providerStatus : String)
  | applyReconciliation (a : ReconcileAnswer)
  | applyWebhook (a : WebhookArgs)
  | prepareRefund (a : PrepareRefundArgs)
  | refundGranted (a : PrepareRefundArgs)
  | refundFailed (orderId refundId : Id) (code : String)
  | refundUnconfirmed (orderId refundId : Id) (providerStatus : String)
  | applyRefund (a : ApplyRefundArgs)
  | refundConfirmed (a : ApplyRefundArgs) (op : Operator) (operationId : String) (refundId : Id)
  | disposeRefundRisk (a : ResolveArgs) (op : Operator) (operationId : String)

/-- The call, without what it returns. -/
def discard {α : Type} (x : Service α) : Service Unit := do
  let _ ← x

def Op.service : Op → Service Unit
  | .registerIdentity user => discard (Kunlun.registerIdentity user)
  | .issueEmailVerification userId a => discard (Kunlun.issueEmailVerification userId a)
  | .consumeEmailVerification digest now => discard (Kunlun.consumeEmailVerification digest now)
  | .login a => discard (Kunlun.login a)
  | .logoutAll userId => discard (Kunlun.logoutAll userId)
  | .requestPasswordReset email a => discard (Kunlun.requestPasswordReset email a)
  | .createKey a => discard (Kunlun.createKey a)
  | .revokeKey userId keyId => discard (Kunlun.revokeKey userId keyId)
  | .updateAccountStatus a => discard (Kunlun.updateAccountStatus a)
  | .resetPassword a => discard (Kunlun.resetPassword a)
  | .createBudget userId amount budgetId now createdAt =>
    discard (Kunlun.createBudget userId amount budgetId now createdAt)
  | .reserveModelRequest a => discard (Kunlun.reserveModelRequest a)
  | .settleModelRequest a => discard (Kunlun.settleModelRequest a)
  | .releaseModelRequest a => discard (Kunlun.releaseModelRequest a)
  | .markPendingReconciliation a => discard (Kunlun.markPendingReconciliation a)
  | .recoverStaleModelReservations leaseSeconds now =>
    discard (Kunlun.recoverStaleModelReservations leaseSeconds now)
  | .reconcileRequest a => discard (Kunlun.reconcileRequest a)
  | .createTestOrder a => discard (Kunlun.createTestOrder a)
  | .processTestWebhook a => discard (Kunlun.processTestWebhook a)
  | .createOrder a => discard (Kunlun.createOrder a)
  | .prepareCheckout orderId now lease => discard (Kunlun.prepareCheckout orderId now lease)
  | .checkoutFailed orderId code => discard (Kunlun.checkoutFailed orderId code)
  | .checkoutAnswered orderId checkout => discard (Kunlun.checkoutAnswered orderId checkout)
  | .claimReconciliation a => discard (Kunlun.claimReconciliation a)
  | .reconcileFailed orderId code => discard (Kunlun.reconcileFailed orderId code)
  | .reconcileManual orderId providerStatus =>
    discard (Kunlun.reconcileManual orderId providerStatus)
  | .applyReconciliation a => discard (Kunlun.applyReconciliation a)
  | .applyWebhook a => discard (Kunlun.applyWebhook a)
  | .prepareRefund a => discard (Kunlun.prepareRefund a)
  | .refundGranted a => discard (Kunlun.refundGranted a)
  | .refundFailed orderId refundId code => discard (Kunlun.refundFailed orderId refundId code)
  | .refundUnconfirmed orderId refundId providerStatus =>
    discard (Kunlun.refundUnconfirmed orderId refundId providerStatus)
  | .applyRefund a => discard (Kunlun.applyRefund a)
  | .refundConfirmed a op operationId refundId =>
    discard (Kunlun.refundConfirmed a op operationId refundId)
  | .disposeRefundRisk a op operationId => discard (Kunlun.disposeRefundRisk a op operationId)

/-- The tables after one session. -/
def exec (op : Op) (d : DB) : DB := (Tx.run op.service d).2

/-- What the session raised, if it did. -/
def raised (op : Op) (d : DB) : Option Exc :=
  match (Tx.run op.service d).1 with
  | .ok _ => none
  | .error e => some e

/-- The id that the call draws for an order. -/
def Op.orderId? : Op → Option Id
  | .createTestOrder a => some a.orderId
  | .createOrder a => some a.orderId
  | _ => none

/-- The id that the call draws for a model request. -/
def Op.requestId? : Op → Option Id
  | .reserveModelRequest a => some a.requestId
  | _ => none

/-- Settlements and releases come with the statuses that the callers in `src` pass. -/
def Op.ByCaller : Op → Prop
  | .settleModelRequest a => ∀ x ∈ a.allowedStatuses, x.outstanding
  | .releaseModelRequest a => a.ByCaller
  | _ => True

/-- A webhook of the test adapter. -/
def Op.onTestAdapter : Op → Bool
  | .processTestWebhook _ => true
  | _ => false

/-- What is known of the call: where it comes from, and the ids that it draws. -/
structure Op.In (env : Env) (op : Op) (d : DB) : Prop where
  caller : env.callers → op.ByCaller
  orderId : ∀ i ∈ op.orderId?, env.orderId d.books i
  requestId : ∀ i ∈ op.requestId?, env.requestId d.books i

/-! ## Each call moves the books -/

theorem run_discard {α : Type} (x : Service α) (d : DB) :
    (Tx.run (discard x) d).2 = (Tx.run x d).2 := by
  simp only [Tx.run, discard, Bind.bind]
  rcases x (.fresh d) with ⟨r, t⟩
  cases r <;> rfl

/-- The books stay. -/
def sameBooks : Track DB := ⟨fun d e => e.books = d.books, fun _ => rfl, fun h h' => h'.trans h⟩

theorem keepsAccounts_sameBooks : KeepsAccounts sameBooks := by
  refine keepsAccounts_of (fun _ _ _ _ _ _ _ => rfl) fun p f hf _ => ⟨fun d e h => ?_⟩
  obtain rfl := Option.some.inj h
  exact books_updateUsers d p f hf

theorem keepsActivation_sameBooks : KeepsActivation sameBooks where
  verify _ _ := ⟨neutral_updateUsers _ _ _⟩
  unfreeze _ := ⟨neutral_updateUsers _ _ _⟩

theorem moves_of_sameBooks {α : Type} {env : Env} {x : Service α} (h : Keeps sameBooks x) (d : DB) :
    Moves env d.books (Tx.run x d).2.books := by
  rw [show (Tx.run x d).2.books = d.books from h.run d]

theorem exec_moves {env : Env} {op : Op} {d : DB}
    (htest : op.onTestAdapter → env.test) (h : op.In env d) :
    Moves env d.books (exec op d).books := by
  obtain ⟨hcaller, horder, hrequest⟩ := h
  unfold exec
  cases op <;> simp only [Op.service, run_discard]
  case registerIdentity => exact registerIdentity_moves ..
  case issueEmailVerification =>
    exact moves_of_sameBooks (keepsAccounts_sameBooks.issueEmailVerification ..) d
  case consumeEmailVerification =>
    exact moves_of_sameBooks (keepsAccounts_sameBooks.consumeEmailVerification
      keepsActivation_sameBooks ..) d
  case login => exact moves_of_sameBooks (keepsAccounts_sameBooks.login trivial _) d
  case logoutAll => exact moves_of_sameBooks (keepsAccounts_sameBooks.logoutAll _) d
  case requestPasswordReset =>
    exact moves_of_sameBooks (keepsAccounts_sameBooks.requestPasswordReset ..) d
  case createKey => exact moves_of_sameBooks (keepsAccounts_sameBooks.createKey trivial _) d
  case revokeKey => exact moves_of_sameBooks (keepsAccounts_sameBooks.revokeKey ..) d
  case updateAccountStatus => exact (carries_updateAccountStatus _).run d
  case resetPassword => exact (carries_resetPassword _).run d
  case createBudget => exact createBudget_moves ..
  case reserveModelRequest a => exact reserveModelRequest_moves a d (hrequest _ rfl)
  case settleModelRequest => exact (carries_settleModelRequest hcaller).run d
  case releaseModelRequest => exact (carries_releaseModelRequest hcaller).run d
  case markPendingReconciliation => exact markPendingReconciliation_moves ..
  case recoverStaleModelReservations => exact recoverStaleModelReservations_moves ..
  case reconcileRequest => exact (carries_reconcileRequest _).run d
  case createTestOrder a => exact createTestOrder_moves a d (horder _ rfl)
  case processTestWebhook => exact processTestWebhook_moves _ _ (htest rfl)
  case createOrder a => exact createOrder_moves a d (horder _ rfl)
  case prepareCheckout => exact (carries_prepareCheckout ..).run d
  case checkoutFailed => exact (carries_checkoutFailed ..).run d
  case checkoutAnswered => exact (carries_checkoutAnswered ..).run d
  case claimReconciliation => exact (carries_claimReconciliation _).run d
  case reconcileFailed => exact (carries_keepReconciling ..).run d
  case reconcileManual => exact (carries_keepReconciling ..).run d
  case applyReconciliation => exact (carries_applyReconciliation _).run d
  case applyWebhook => exact (carries_applyWebhook _).run d
  case prepareRefund => exact (carries_prepareRefund _).run d
  case refundGranted => exact (carries_refundGranted _).run d
  case refundFailed => exact (carries_refundUncertain ..).run d
  case refundUnconfirmed => exact (carries_refundUncertain ..).run d
  case applyRefund => exact (carries_applyRefund _).run d
  case refundConfirmed => exact (carries_refundConfirmed ..).run d
  case disposeRefundRisk => exact (carries_disposeRefundRisk ..).run d

/-! ## What calls keep -/

/-- The call may make an account active. -/
def Op.activates : Op → Bool
  | .consumeEmailVerification .. => true
  | .updateAccountStatus a => !a.freeze
  | _ => false

/-- The call may complete a refund. -/
def Op.completes : Op → Bool
  | .applyRefund _ | .refundConfirmed .. => true
  | .applyWebhook a => validEvent a.eventType = some .refunded
  | .applyReconciliation a => validEvent a.event.eventType = some .refunded
  | _ => false

/-- The call may grant a refund command, or give it up. -/
def Op.onRefundClaim : Op → Bool
  | .prepareRefund _ | .refundGranted _ | .refundFailed .. | .refundUnconfirmed .. => true
  | _ => false

/-- The orders whose reconciliation claim the call may take, or clear although they stay open. -/
def Op.reconciles : Op → List Id
  | .claimReconciliation a => [a.orderId]
  | .applyReconciliation a =>
    a.claim.orderId :: if validEvent a.event.eventType = some .pending then
      [a.event.orderId] else []
  | .applyWebhook a => if validEvent a.eventType = some .pending then [a.orderId] else []
  | _ => []

/-- The call may insert a session or a key of the API. -/
def Op.issues : Op → Bool
  | .login _ | .createKey _ => true
  | _ => false

/-- What the statements of a call keep, the call keeps. -/
theorem exec_keeps_under {K : Track DB} {issues : Prop} {op : Op} (h : KeepsMoney K issues)
    (hissues : op.issues → issues)
    (hact : op.activates → KeepsActivation K) (hrisk : op.completes → KeepsRisk K)
    (hclaims : op.onRefundClaim → KeepsClaims K)
    (hrec : ∀ i ∈ op.reconciles, KeepsReconcile K i) (d : DB) : K.rel d (exec op d) := by
  unfold exec
  cases op <;> simp only [Op.service, run_discard]
  case registerIdentity => exact (h.registerIdentity _).run d
  case issueEmailVerification => exact (h.issueEmailVerification ..).run d
  case consumeEmailVerification => exact (h.consumeEmailVerification (hact rfl) ..).run d
  case login => exact (h.login (hissues rfl) _).run d
  case logoutAll => exact (h.logoutAll _).run d
  case requestPasswordReset => exact (h.requestPasswordReset ..).run d
  case createKey => exact (h.createKey (hissues rfl) _).run d
  case revokeKey => exact (h.revokeKey ..).run d
  case updateAccountStatus =>
    exact (h.updateAccountStatus fun hf => hact (by simp [Op.activates, hf])).run d
  case resetPassword => exact (h.resetPassword _).run d
  case createBudget => exact (h.createBudget ..).run d
  case reserveModelRequest => exact (h.reserveModelRequest _).run d
  case settleModelRequest => exact (h.settleModelRequest _).run d
  case releaseModelRequest => exact (h.releaseModelRequest _).run d
  case markPendingReconciliation => exact (h.markPendingReconciliation _).run d
  case recoverStaleModelReservations => exact (h.recoverStaleModelReservations ..).run d
  case reconcileRequest => exact (h.reconcileRequest _).run d
  case createTestOrder => exact (h.createTestOrder _).run d
  case processTestWebhook => exact (h.processTestWebhook _).run d
  case createOrder => exact (h.createOrder _).run d
  case prepareCheckout => exact (h.prepareCheckout ..).run d
  case checkoutFailed => exact (h.checkoutFailed ..).run d
  case checkoutAnswered => exact (h.checkoutAnswered ..).run d
  case claimReconciliation => exact (h.claimReconciliation (hrec _ (.head _))).run d
  case reconcileFailed => exact (h.keepReconciling ..).run d
  case reconcileManual => exact (h.keepReconciling ..).run d
  case applyReconciliation =>
    exact (h.applyReconciliation (fun hk => hrisk (decide_eq_true hk))
      (fun hk => hrec _ (by simp [Op.reconciles, hk])) (hrec _ (.head _))).run d
  case applyWebhook =>
    exact (h.applyWebhook (fun hk => hrisk (decide_eq_true hk)) fun hk =>
      hrec _ (by simp [Op.reconciles, hk])).run d
  case prepareRefund => exact (h.prepareRefund (hclaims rfl) _).run d
  case refundGranted => exact (h.refundGranted (hclaims rfl) _).run d
  case refundFailed => exact (h.refundUncertain (hclaims rfl) ..).run d
  case refundUnconfirmed => exact (h.refundUncertain (hclaims rfl) ..).run d
  case applyRefund => exact (h.applyRefund (hrisk rfl) _).run d
  case refundConfirmed => exact (h.refundConfirmed (hrisk rfl) ..).run d
  case disposeRefundRisk => exact (h.disposeRefundRisk ..).run d

theorem exec_keeps_of {K : Track DB} {op : Op} (h : KeepsMoney K)
    (hact : op.activates → KeepsActivation K)
    (hrisk : op.completes → KeepsRisk K) (hclaims : op.onRefundClaim → KeepsClaims K)
    (hrec : ∀ i ∈ op.reconciles, KeepsReconcile K i) (d : DB) : K.rel d (exec op d) :=
  exec_keeps_under h (fun _ => trivial) hact hrisk hclaims hrec d

theorem exec_keeps {K : Track DB} (h : KeepsAll K) (op : Op) (d : DB) : K.rel d (exec op d) :=
  exec_keeps_of h.toKeepsMoney (fun _ => h.toKeepsActivation) (fun _ => h.toKeepsRisk)
    (fun _ => h.toKeepsClaims)
    (fun i _ => h.reconcile i) d

theorem after_keeps {K : Track DB} (h : KeepsAll K) (d : DB) (ops : List Op) :
    K.rel d (Run.after exec d ops) :=
  have along : Run.Along exec (fun _ _ => True) d ops := Run.along_of_forall d fun _ _ _ => trivial
  Run.relates K.refl (fun _ _ _ => K.trans) (fun _ _ _ => exec_keeps h ..) along

/-! ## The start -/

/-- Users are registered, with empty wallets, and nothing has been paid for or requested. -/
structure DB.Opened (d : DB) : Prop where
  wallets : ∀ w ∈ d.wallets.rows, w.balanceMicrousd = 0 ∧ w.reservedMicrousd = 0
  registered : ∀ u ∈ d.users.rows, (d.wallets.get? u.id).isSome
  ledger : d.ledger.rows = []
  orders : d.orders.rows = []
  refunds : d.refunds.rows = []
  budgets : d.budgets.rows = []
  requests : d.requests.rows = []

theorem opened_empty : DB.empty.Opened := by
  constructor <;> simp [DB.empty, Table.empty]

section Opened

variable {d : DB}

theorem forall_nil {α : Type} {rows : List α} (h : rows = []) (P : α → Prop) : ∀ a ∈ rows, P a := by
  simp [h]

theorem DB.Opened.sound (h : d.Opened) : d.books.Sound := by
  have htally (a : Account) {c : Wallet → Int} (hc : ∀ w ∈ d.wallets.rows, c w = 0) :
      Tallies d.books.wallets c d.books.ledger (weight a) := by
    intro w hw
    rw [hc w hw]
    exact (Table.sum_eq_zero _ _ (forall_nil h.ledger _)).symm
  refine ⟨⟨forall_nil h.ledger _, htally _ fun w hw => (h.wallets w hw).1, htally _ fun w hw =>
    (h.wallets w hw).2,
    fun w hw => (h.wallets w hw).1.ge, fun w hw => (h.wallets w hw).2.ge⟩, ?_,
      forall_nil h.orders _,
    forall_nil h.requests _⟩
  intro u hu
  obtain ⟨user, huser, rfl⟩ := List.mem_map.1 hu
  exact h.registered user huser

theorem DB.Opened.holds (h : d.Opened) : d.books.Holds := by
  refine ⟨fun w hw => ?_, forall_nil h.budgets _, forall_nil h.budgets _, forall_nil h.requests _,
    forall_nil h.requests _, forall_nil h.requests _⟩
  rw [(h.wallets w hw).2]
  exact (Table.sum_eq_zero _ _ (forall_nil h.requests _)).symm

theorem DB.Opened.ordersAgree (h : d.Opened) : d.books.OrdersAgree where
  request := forall_nil h.ledger _
  order := forall_nil h.ledger _
  riskKind := forall_nil h.ledger _
  apart := forall_nil h.orders _
  clearing := forall_nil h.orders _
  credits := forall_nil h.orders _
  matched := forall_nil h.refunds _
  hasRefund := forall_nil h.orders _
  single := by simp [DB.books, h.refunds]
  atRisk := forall_nil h.refunds _
  riskFree := forall_nil h.orders _

end Opened

/-! ## Runs -/

/-- Nothing is known of the calls. -/
def Env.any : Env := ⟨fun _ _ => True, fun _ _ => True, True, False⟩

/-- Settlements and releases come from their callers. -/
def Env.callerRun : Env := ⟨fun _ _ => True, fun _ _ => True, True, True⟩

/-- They do, and no id is drawn for an order and for a request. -/
def Env.apartRun : Env :=
  ⟨fun b i => b.requests.get? i = none, fun b i => b.orders.get? i = none, True, True⟩

/-- They do, and nothing is requested. -/
def Env.paymentRun : Env := ⟨fun b i => b.requests.get? i = none, fun _ _ => False, True, True⟩

theorem after_moves (env : Env) (htest : env.test) {d : DB} {ops : List Op}
    (h : Run.Along exec (Op.In env) d ops) :
    Moves env d.books (Run.after exec d ops).books :=
  Run.relates (R := fun d e => Moves env d.books e.books) (fun _ => .refl) (fun _ _ _ => .trans)
    (fun _ _ ha => exec_moves (fun _ => htest) ha) h

theorem sound_after {d : DB} (h : d.Opened) (ops : List Op) : (Run.after exec d ops).books.Sound :=
  Moves.sound (after_moves .any trivial
    (Run.along_of_forall d fun _ _ _ => ⟨nofun, fun _ _ => trivial, fun _ _ => trivial⟩)) h.sound

theorem holds_after {d : DB} (h : d.Opened) {ops : List Op} (hops : ∀ op ∈ ops, op.ByCaller) :
    (Run.after exec d ops).books.Holds :=
  Moves.holds (after_moves .callerRun trivial
      (Run.along_of_forall d fun op hop _ =>
        ⟨fun _ => hops op hop, fun _ _ => trivial, fun _ _ => trivial⟩))
    trivial h.sound h.holds

theorem ordersAgree_after {d : DB} (h : d.Opened) {ops : List Op}
    (hops : Run.Along exec (Op.In .apartRun) d ops) :
    (Run.after exec d ops).books.OrdersAgree :=
  Moves.ordersAgree (after_moves .apartRun trivial hops) trivial
    ⟨fun _ _ hi => hi, fun _ _ hi => hi⟩ h.sound h.ordersAgree

/-! ## Runs without model requests -/

/-- Not the admission, the settlement or the release of a model request. -/
def Op.onPayments : Op → Bool
  | .reserveModelRequest _ | .settleModelRequest _ | .releaseModelRequest _ => false
  | _ => true

theorem Move.noRequests {b b' : Books} (m : Move .paymentRun b b') (h : b.requests.rows = []) :
    b'.requests.rows = [] := by
  cases m with
  | hold r w j drawn => exact absurd drawn not_false
  | finish => simp [Table.modify, Table.update, h]
  | suspend => simp [Table.update, h]
  | _ => exact h

theorem Moves.noRequests {b b' : Books} (m : Moves .paymentRun b b') (h : b.requests.rows = []) :
    b'.requests.rows = [] := by
  induction m with
  | refl => exact h
  | tail _ m ih => exact m.noRequests ih

theorem Op.onPayments.in {op : Op} (h : op.onPayments) {d : DB} (hd : d.requests.rows = []) :
    op.In .paymentRun d := by
  refine ⟨fun _ => ?_, fun i _ => ?_, fun i hi => ?_⟩
  · cases op <;> trivial
  · show d.requests.get? i = none
    simp [Table.get?, hd]
  · cases op <;> simp_all [Op.onPayments, Op.requestId?]

theorem paymentRun_along {d : DB} (hd : d.requests.rows = []) {ops : List Op}
    (hops : ∀ op ∈ ops, op.onPayments) :
    Run.Along exec (Op.In .paymentRun) d ops := by
  induction ops generalizing d with
  | nil => trivial
  | cons op rest ih =>
    have hin := Op.onPayments.in (hops op (.head _)) hd
    exact ⟨hin, ih (Moves.noRequests (exec_moves (fun _ => trivial) hin) hd) fun op hop =>
      hops op (.tail _ hop)⟩

theorem payments_apart {d : DB} (hd : d.requests.rows = []) {ops : List Op}
    (hops : ∀ op ∈ ops, op.onPayments) :
    Run.Along exec (Op.In .apartRun) d ops :=
  Run.along_mono (fun _ _ h =>
    ⟨h.caller, h.orderId, fun i hi => absurd (h.requestId i hi) not_false⟩)
    (paymentRun_along hd hops)

/-! ## What calls raise -/

/-- The calls of the end of a hold find their wallet and their budget, or it does not matter. -/
structure Op.Safe (op : Op) (d : DB) (p : Exc → Prop) : Prop where
  plain : ∀ e : Exc, e.isPlain → p e
  http : ∀ e : Exc, p e → p (e.http?.getD e)
  positive : ∀ r ∈ d.requests.rows, 0 < r.reservedMicrousd
  covered : (∀ message, p (.billing message 409)) ∨
    op.ByCaller ∧ ∀ r ∈ d.requests.rows, r.status.outstanding → Covered d r

theorem Op.Safe.row {op : Op} {d : DB} {p : Exc → Prop} (h : op.Safe d p)
    (allowed : List RequestStatus)
    (hallowed : op.ByCaller → ∀ x ∈ allowed, x.outstanding) (r : ModelRequest)
    (hr : r ∈ d.requests.rows)
    (hst : r.status ∈ allowed) : 0 < r.reservedMicrousd ∧
    (Covered d r ∨ ∀ message, p (.billing message 409)) := by
  refine ⟨h.positive r hr, ?_⟩
  rcases h.covered with hany | ⟨hby, hcov⟩
  · exact .inr hany
  · exact .inl (hcov r hr (hallowed hby _ hst))

theorem raises_service {op : Op} {d : DB} {p : Exc → Prop} (h : op.Safe d p) :
    Tx.Raises op.service (.fresh d) p := by
  have hd {α : Type} {x : Service α} (hx : Tx.Raises x (.fresh d) p) :
      Tx.Raises (discard x) (.fresh d) p :=
    Tx.raises_bind hx fun _ _ _ => Tx.raises_pure _
  have hp {α : Type} {x : Service α} (hx : Tx.Raises x (.fresh d) (·.isPlain)) :
      Tx.Raises (discard x) (.fresh d) p := hd (hx.mono h.plain)
  cases op
  case registerIdentity => exact hp (raises_registerIdentity ..)
  case issueEmailVerification => exact hp (raises_issueEmailVerification ..)
  case consumeEmailVerification => exact hp (raises_consumeEmailVerification ..)
  case login => exact hp (raises_login ..)
  case logoutAll => exact hp (raises_logoutAll ..)
  case requestPasswordReset => exact hp (raises_requestPasswordReset ..)
  case createKey => exact hp (raises_createKey ..)
  case revokeKey => exact hp (raises_revokeKey ..)
  case updateAccountStatus => exact hp (raises_updateAccountStatus ..)
  case resetPassword => exact hp (raises_resetPassword ..)
  case createBudget => exact hp (raises_createBudget ..)
  case reserveModelRequest => exact hp (raises_reserveModelRequest ..)
  case settleModelRequest => exact hd (raises_settleModelRequest (h.row _ fun hby => hby) h.plain)
  case releaseModelRequest =>
    exact hd (raises_releaseModelRequest (h.row _ fun hby => hby.allowed) h.plain)
  case markPendingReconciliation => exact hp (raises_markPendingReconciliation ..)
  case recoverStaleModelReservations => exact hp (raises_recoverStaleModelReservations ..)
  case reconcileRequest =>
    refine hd (raises_reconcileRequest (fun r hr hst => ?_) h.plain h.http)
    exact h.row [.reserved, .pendingReconciliation] (by simp [RequestStatus.outstanding]) r hr
      (by cases hs : r.status <;> simp_all [RequestStatus.outstanding])
  case createTestOrder => exact hp (raises_createTestOrder ..)
  case processTestWebhook => exact hp (raises_processTestWebhook ..)
  case createOrder => exact hp (raises_createOrder ..)
  case prepareCheckout => exact hp (raises_prepareCheckout ..)
  case checkoutFailed => exact hp (raises_updateCommit ..)
  case checkoutAnswered => exact hp (raises_checkoutAnswered ..)
  case claimReconciliation => exact hp (raises_claimReconciliation ..)
  case reconcileFailed => exact hp (raises_updateCommit ..)
  case reconcileManual => exact hp (raises_updateCommit ..)
  case applyReconciliation => exact hp (raises_applyReconciliation ..)
  case applyWebhook => exact hp (raises_applyWebhook ..)
  case prepareRefund => exact hp (raises_prepareRefund ..)
  case refundGranted => exact hp (raises_refundGranted ..)
  case refundFailed => exact hp (raises_refundUncertain ..)
  case refundUnconfirmed => exact hp (raises_refundUncertain ..)
  case applyRefund => exact hp (raises_applyRefund ..)
  case refundConfirmed => exact hp (raises_refundConfirmed ..)
  case disposeRefundRisk => exact hp (raises_disposeRefundRisk ..)

theorem raised_of {op : Op} {d : DB} {p : Exc → Prop} (h : op.Safe d p) {e : Exc}
    (he : raised op d = some e) : p e := by
  unfold raised Tx.run at he
  split at he
  · cases he
  · rename_i e' hrun
    obtain rfl := Option.some.inj he
    exact (raises_service h).of_error _ _ (Prod.ext hrun rfl)

theorem Books.Holds.covered {d : DB} (hs : d.books.Sound) (h : d.books.Holds) {r : ModelRequest}
    (hr : r ∈ d.requests.rows) (hst : r.status.outstanding) : Covered d r := by
  refine ⟨?_, fun i hi => ?_⟩
  · obtain ⟨w, hw⟩ := Option.isSome_iff_exists.1 (h.walletOf r hr)
    refine ⟨w, hw, ?_⟩
    rw [h.wallet w (Table.mem_of_get? hw), Table.key_of_get? hw]
    have hle := Table.le_sum d.books.requests (heldFor r.userId) (fun x hx => ?_) hr
    · simpa [heldFor, hst] using hle
    · have := hs.positive x hx
      unfold heldFor
      split <;> omega
  · obtain ⟨b, hb⟩ := Option.isSome_iff_exists.1 (h.budgetOf r hr i hi)
    refine ⟨b, hb, ?_⟩
    rw [h.budget b (Table.mem_of_get? hb), Table.key_of_get? hb]
    have hle := Table.le_sum d.books.requests (heldUnder i) (fun x hx => ?_) hr
    · rw [Option.mem_def] at hi
      simpa [heldUnder, hst, hi] using hle
    · have := hs.positive x hx
      unfold heldUnder
      split <;> omega

end Kunlun
