import Kunlun.Debts
import Kunlun.Deliveries
import Kunlun.Indexes
import Kunlun.Leases.Reconciliations
import Kunlun.Touches

/-!
# The audit of the operator routes

What an operator's call changes is committed with an action that says what was changed. The
call that refunds a payment commits twice before its action is staged.
-/

namespace Kunlun

/-! ## Actions -/

namespace OperatorAction

def Targets (x : OperatorAction) (targetType targetId : String) : Prop :=
  x.targetType = targetType ∧ x.targetId = targetId

/-- The target is an order, a refund or a request of the user. -/
def OfUser (x : OperatorAction) (d : DB) (userId : Id) : Prop :=
  (∃ o ∈ d.orders.rows, x.Targets "payment_order" o.id ∧ o.userId = userId) ∨
  (∃ r ∈ d.refunds.rows, x.Targets "payment_refund" r.id ∧ r.userId = userId) ∨
  ∃ r ∈ d.requests.rows, x.Targets "model_request" r.id ∧ r.userId = userId

/-- The target is the object, or the refund or the order that it belongs to. -/
def Identifies (x : OperatorAction) (d : DB) : Object → Prop
  | .user i => x.Targets "user" i ∨ x.OfUser d i
  | .order i =>
    x.Targets "payment_order" i ∨ ∃ r ∈ d.refunds.rows,
      x.Targets "payment_refund" r.id ∧ r.orderId = i
  | .refund i => x.Targets "payment_refund" i
  | .request i => x.Targets "model_request" i
  | .wallet i => x.OfUser d i

end OperatorAction

/-- Every object that differs is identified by an action of the same commit. -/
def Audited (d e : DB) : Prop :=
  ∀ x : Object, ¬ x.Same d e → ∃ action ∈ e.actions, action ∉ d.actions ∧ action.Identifies d x

/-! ## The calls of operators -/

namespace Part

/-- The commits of the operator routes. The last session of a reconcile call is in its halves. -/
def ofOperator : Part → Bool
  | session (.updateAccountStatus _) | session (.reconcileRequest _) | session
    (.disposeRefundRisk ..) => true
  | session (.claimReconciliation _) | session (.reconcileFailed ..) | session
    (.reconcileManual ..) => true
  | answered _ | closed .. => true
  | session (.refundGranted _) | session (.refundFailed ..) | session (.refundUnconfirmed ..) =>
    true
  | session (.refundConfirmed ..) => true
  | _ => false

/-- The operation ids that the commit draws for its actions. -/
def operationIds : Part → List String
  | session (.updateAccountStatus a) => [a.operationId]
  | session (.reconcileRequest a) => [a.operationId]
  | session (.disposeRefundRisk _ _ operationId) | session (.refundConfirmed _ _ operationId _) =>
    [operationId]
  | session (.claimReconciliation a) => [a.operationId]
  | answered a => [a.claim.operationId]
  | _ => []

/-- A part of the past, in the state in which it was done. -/
def Done (d : DB) (past : List Part) (happened : Part → DB → Prop) : Prop :=
  ∃ before p after, past = before ++ p :: after ∧ happened p (Run.after exec d before)

/-- What the call has done before this commit: a query follows a claim of its order and makes a
payment event of the answer, and a refund is confirmed that was granted. -/
def Continues (d : DB) (past : List Part) : Part → Prop
  | session (.reconcileFailed orderId _) | session (.reconcileManual orderId _) =>
    Done d past fun p e => p.claims orderId e
  | answered a => a.event.orderId = a.claim.orderId ∧ validEvent a.event.eventType ≠ some .refunded
  | session (.refundConfirmed a _ _ refundId) => Done d past fun p e => ∃ c r,
    p = session (.refundGranted c) ∧ c.orderId = a.orderId ∧ c.idempotencyKey = a.idempotencyKey ∧
      (refundGranted c (.fresh e)).1 = .ok (r, true) ∧ r.id = refundId
  | _ => True

end Part

/-- The command is granted: for a paid order without a refund, or again. -/
def PrepareRefundArgs.Grantable (a : PrepareRefundArgs) (d : DB) : Prop :=
  a.idempotencyKey ≠ "" ∧ ∃ o, d.orders.get? a.orderId = some o ∧
    o.paymentAmountMinor ≠ none ∧ o.paymentCurrency ≠ none ∧ o.providerTransactionId ≠ none ∧
    match refundWithKey a.orderId a.idempotencyKey d with
    | some r => r.status = .pendingReconciliation ∨ r.claimed ∧ r.claimStartedAt ≤ a.now - a.lease
    | none =>
      o.status = .paid ∧ (∀ r ∈ d.refunds.rows, r.orderId ≠ a.orderId) ∧
        d.refunds.get? a.refundId = none

/-- The commits that stage no action: a refund command that is granted, and the answer of the
provider that leaves the refund for reconciliation. -/
def Part.Unaudited (p : Part) (d : DB) : Prop :=
  match p with
  | session (.refundGranted a) => a.Grantable d
  | session (.refundFailed _ refundId _) | session (.refundUnconfirmed _ refundId _) =>
    ∃ r, d.refunds.get? refundId = some r ∧ r.claimed
  | _ => False

/-! ## The action of a commit -/

/-- An action with this target, under this operation id. -/
def Acted (targetType targetId operationId : String) (d : DB) : Prop :=
  ∃ x ∈ d.actions, x.Targets targetType targetId ∧ x.operationId = operationId

/-- The objects that an action with this target identifies. -/
def Targeted (d : DB) (targetType targetId : String) (o : Object) : Prop :=
  ∀ x : OperatorAction, x.Targets targetType targetId → x.Identifies d o

/-- Actions stay. -/
def actionsGrow : Track DB where
  rel d e := ∀ x ∈ d.actions, x ∈ e.actions
  refl _ _ := id
  trans h h' x hx := h' x (h x hx)

section Acted

theorem actionsGrow_of_eq {d e : DB} (h : e.actions = d.actions) : actionsGrow.rel d e := by
  intro x hx
  rwa [h]

theorem keepsAccounts_actionsGrow : KeepsAccounts actionsGrow where
  users _ _ _ _ := ⟨fun d e h => by obtain rfl := Option.some.inj h; exact actionsGrow_of_eq rfl⟩
  accessSession _ _ := ⟨fun d e h => by obtain ⟨t, rfl⟩ := of_insert_unique h; exact actionsGrow_of_eq rfl⟩
  apiKey _ _ := ⟨fun d e h => by obtain ⟨t, rfl⟩ := of_insert h; exact actionsGrow_of_eq rfl⟩
  emailToken _ := ⟨fun d e h => by obtain ⟨t, rfl⟩ := of_insert_unique h; exact actionsGrow_of_eq rfl⟩
  resetToken _ := ⟨fun d e h => by obtain ⟨t, rfl⟩ := of_insert_unique h; exact actionsGrow_of_eq rfl⟩
  accessSessions _ := ⟨fun d e h => by obtain rfl := Option.some.inj h; exact actionsGrow_of_eq rfl⟩
  apiKeys _ := ⟨fun d e h => by obtain rfl := Option.some.inj h; exact actionsGrow_of_eq rfl⟩
  emailTokens _ _ _ := ⟨fun d e h => by obtain rfl := Option.some.inj h; exact actionsGrow_of_eq rfl⟩
  resetTokens _ _ _ := ⟨fun d e h => by obtain rfl := Option.some.inj h; exact actionsGrow_of_eq rfl⟩
  outbox _ := ⟨fun d e h => by obtain rfl := Option.some.inj h; exact actionsGrow_of_eq rfl⟩
  action y := ⟨fun d e h x hx => by obtain rfl := Option.some.inj h; exact List.mem_append_left _ hx⟩

theorem updateOrders_actionsGrow (p : PaymentOrder → Bool) (f : PaymentOrder → PaymentOrder)
    (hf : ∀ o, (f o).id = o.id) : Kept actionsGrow (DB.flushing (DB.updateOrders p f hf)) :=
  ⟨fun d e h => by obtain rfl := of_update_unique h; exact actionsGrow_of_eq rfl⟩

theorem keepsMoney_actionsGrow : KeepsMoney actionsGrow := by
  refine keepsMoney_of keepsAccounts_actionsGrow (fun _ _ _ _ _ => actionsGrow_of_eq rfl)
    (fun _ => ?_) (fun _ => ?_)
    (fun _ => ?_) (fun _ _ => ?_) (fun p f hf _ => updateOrders_actionsGrow p f hf) fun _ _ _ _ =>
      ?_
  · exact ⟨fun d e h => by obtain ⟨t, rfl⟩ := of_insert_unique h; exact actionsGrow_of_eq rfl⟩
  · exact ⟨fun d e h => by obtain ⟨t, rfl⟩ := of_insert_unique h; exact actionsGrow_of_eq rfl⟩
  · exact ⟨fun d e h => by obtain ⟨t, rfl⟩ := of_insert_unique h; exact actionsGrow_of_eq rfl⟩
  · exact ⟨fun d e h => by obtain ⟨t, rfl⟩ := of_insert_unique h; exact actionsGrow_of_eq rfl⟩
  · exact ⟨fun d e h => by obtain rfl := of_update_unique h; exact actionsGrow_of_eq rfl⟩

theorem keepsRisk_actionsGrow : KeepsRisk actionsGrow where
  atRisk _ := ⟨fun d e h => by obtain rfl := of_update_unique h; exact actionsGrow_of_eq rfl⟩

variable {targetType targetId operationId : String} {d e : DB}

theorem Acted.grow (h : actionsGrow.rel d e) (hd : Acted targetType targetId operationId d) :
    Acted targetType targetId operationId e := by
  obtain ⟨x, hx, htarget⟩ := hd
  exact ⟨x, h x hx, htarget⟩

theorem insertAction_acts {x : OperatorAction} (h : DB.insertAction x d = some e) :
    Acted x.targetType x.targetId x.operationId e := by
  obtain rfl := Option.some.inj h
  exact ⟨x, List.mem_append_right _ (List.mem_singleton.2 rfl), ⟨rfl, rfl⟩, rfl⟩

theorem commit_acts {x : OperatorAction} {s t : Session DB} {u : Unit}
    (h : (Tx.commit : Service Unit) { s with pending := s.pending ++ [DB.insertAction x] } =
      (.ok u, t)) :
    Acted x.targetType x.targetId x.operationId t.committed := by
  obtain ⟨d, hd, rfl⟩ := (Tx.commit_ok ..).1 h
  obtain ⟨c, -, hc⟩ := (Tx.applyAll_append ..).1 hd
  obtain ⟨e, he, hnil⟩ := (Tx.applyAll_cons ..).1 hc
  obtain rfl := Option.some.inj hnil
  exact insertAction_acts he

theorem bound_insertAction (x : OperatorAction) (d : DB) :
    Tx.Bound (Acted x.targetType x.targetId x.operationId)
      { Session.fresh d with pending := [DB.insertAction x] } :=
  Tx.bound_add (s := .fresh d) (fun _ h => by cases h) fun _ _ => insertAction_acts

/-! ## Audited commits -/

theorem Audited.of_same (h : ∀ x : Object, x.Same d e) : Audited d e := fun x hx => absurd (h x) hx

theorem Audited.refl (d : DB) : Audited d d := .of_same fun x => by cases x <;> rfl

theorem Audited.of_acted (hids : ∀ x ∈ d.actions, x.operationId ≠ operationId)
    (he : Acted targetType targetId operationId e)
    (h : (touching (Targeted d targetType targetId)).rel d e) :
    Audited d e := by
  intro o ho
  obtain ⟨x, hx, htarget, hid⟩ := he
  refine ⟨x, hx, fun hmem => hids x hmem hid, ?_⟩
  by_contra hnot
  exact ho (h o fun hall => hnot (hall x htarget))

theorem audited_run {α : Type} {x : Service α} (hx : Tx.Atomic x)
    (hids : ∀ x ∈ d.actions, x.operationId ≠ operationId)
    (hok : ∀ a t, x (.fresh d) = (.ok a, t) → t.committed = d ∨
      Acted targetType targetId operationId t.committed)
    (h : Tx.KeepsFrom (touching (Targeted d targetType targetId)) (.fresh d) x) :
    Audited d (Tx.run x d).2 := by
  have htouch := h.run
  rcases Tx.run_cases hx d with heq | ⟨a, t, hrun, heq⟩
  · rw [heq]
    exact .refl d
  · rw [heq] at htouch ⊢
    rcases hok a t hrun with hc | hc
    · rw [hc]
      exact .refl d
    · exact .of_acted hids hc htouch

end Acted

section Targeted

variable {d : DB} {i : Id}

theorem targeted_user : Targeted d "user" i (.user i) := fun _ h => .inl h

theorem targeted_order : Targeted d "payment_order" i (.order i) := fun _ h => .inl h

theorem targeted_refund : Targeted d "payment_refund" i (.refund i) := fun _ h => h

theorem targeted_request : Targeted d "model_request" i (.request i) := fun _ h => h

theorem targeted_walletOfOrder {o : PaymentOrder} (h : d.orders.get? i = some o) :
    Targeted d "payment_order" i (.wallet o.userId) := by
  intro x hx
  refine .inl ⟨o, Table.mem_of_get? h, ?_, rfl⟩
  rwa [Table.key_of_get? h]

theorem targeted_ofRefund {r : PaymentRefund} (h : d.refunds.get? i = some r) :
    Targeted d "payment_refund" i (.wallet r.userId) ∧
    Targeted d "payment_refund" i (.user r.userId) ∧
      Targeted d "payment_refund" i (.order r.orderId) := by
  have hid := Table.key_of_get? h
  have hmem := Table.mem_of_get? h
  have huser (x : OperatorAction) (hx : x.Targets "payment_refund" i) : x.OfUser d r.userId :=
    .inr (.inl ⟨r, hmem, by rwa [hid], rfl⟩)
  exact ⟨huser, fun x hx => .inr (huser x hx), fun x hx => .inr ⟨r, hmem, by rwa [hid], rfl⟩⟩

theorem targeted_walletOfRequest {r : ModelRequest} (h : d.requests.get? i = some r) :
    Targeted d "model_request" i (.wallet r.userId) := by
  intro x hx
  refine .inr (.inr ⟨r, Table.mem_of_get? h, ?_, rfl⟩)
  rwa [Table.key_of_get? h]

end Targeted

/-! ## What is added first is committed -/

section Writes

variable {P : DB → Prop} (hP : ∀ d e, actionsGrow.rel d e → P d → P e)

include hP

theorem settles_finishHold (request set : ModelRequest) (back charged : Int)
    (kind : LedgerKind) (key : String)
    (entries : List (Account × Int)) (written : Bool) :
    Tx.Settles P (finishHold request set back charged kind key entries written) := by
  have h := keepsMoney_actionsGrow
  have hbudget (i : Id) : Tx.Binds P (Tx.execute (DB.updateBudgets
      (fun b => decide (b.id = i) && decide (request.reservedMicrousd ≤ b.reservedMicrousd))
        fun b => { b with
        reservedMicrousd := b.reservedMicrousd - request.reservedMicrousd
        spentMicrousd := b.spentMicrousd + charged }) : Service Nat) :=
    Tx.binds_execute (holds_of_kept hP (h.budgets ..))
  refine Tx.settles_bind ?_ fun _ => Tx.settles_bind (binds_postTransaction h hP ..) fun _ => ?_
  · refine Tx.binds_bind (Tx.binds_execute (holds_of_kept hP (h.wallets ..))) fun _ =>
      Tx.binds_bind (by simp) fun _ => ?_
    cases request.budgetId with
    | none => simp
    | some i => exact Tx.binds_bind (hbudget i) fun _ => by simp
  · refine Tx.settles_bind (by simp) fun _ => ?_
    exact Tx.settles_bind (Tx.binds_add (holds_of_kept hP (h.requests ..))) fun _ => by simp

theorem settles_settleModelRequest (a : SettleArgs) : Tx.Settles P (settleModelRequest a) := by
  refine Tx.settles_bind ?_ fun request => ?_
  · iterate 3 refine Tx.binds_bind (by simp) fun _ => ?_
    simp
  · refine Tx.settles_bind (by simp) fun usage => ?_
    iterate 4 refine Tx.settles_bind (by simp) fun _ => ?_
    exact Tx.settles_then_return (settles_finishHold hP ..) _

theorem releaseModelRequest_writes {a : ReleaseArgs} {s t : Session DB} {u : Unit}
    (hs : Tx.Bound P s)
    (h : releaseModelRequest a s = (.ok u, t)) : t.committed = s.committed ∨ P t.committed := by
  simp only [releaseModelRequest, Tx.bind_ok, Tx.select_ok] at h
  obtain ⟨found, _, ⟨-, rfl⟩, h⟩ := h
  cases found with
  | none =>
    obtain ⟨-, rfl⟩ := (Tx.pure_ok ..).1 h
    exact .inl rfl
  | some request => exact .inr ((settles_finishHold hP ..).committed _ u t hs h)

theorem binds_recordEvent (a : WebhookArgs) (order : PaymentOrder) (status : WebhookStatus) :
    Tx.Binds P (recordEvent a order status) :=
  Tx.binds_add (holds_of_kept hP (keepsMoney_actionsGrow.event _))

theorem settles_applyProgressEvent (a : WebhookArgs) (order : PaymentOrder) (kind : EventStatus) :
    Tx.Settles P (applyProgressEvent a order kind) := by
  refine Tx.settles_bind (by simp) fun _ => Tx.settles_bind (binds_recordEvent hP ..) fun _ =>
    Tx.settles_bind ?_ fun _ => ?_
  · exact Tx.binds_add (holds_of_kept hP (updateOrders_actionsGrow ..))
  · exact Tx.settles_then_return (settles_commitOr _) _

theorem settles_creditOrder (a : WebhookArgs) (order : PaymentOrder) :
    Tx.Settles P (creditOrder a order) := by
  have h := keepsMoney_actionsGrow
  refine Tx.settles_bind (binds_recordEvent hP ..) fun _ => ?_
  refine Tx.settles_bind (Tx.binds_execute (holds_of_kept hP (updateOrders_actionsGrow ..)))
    fun _ => ?_
  refine Tx.settles_bind (by simp) fun _ => Tx.settles_bind (by simp) fun _ =>
    Tx.settles_bind (by simp) fun _ => ?_
  refine Tx.settles_bind (binds_setBalance h hP ..) fun _ =>
    Tx.settles_bind (binds_postTransaction h hP ..) fun _ => ?_
  refine Tx.settles_bind (Tx.binds_add (holds_of_kept hP (h.outbox _))) fun _ => ?_
  exact Tx.settles_then_return (settles_commitOr _) _

theorem applyWebhook_writes {a : WebhookArgs} {s t : Session DB} {b : Bool} (hs : Tx.Bound P s)
    (hkind : validEvent a.eventType ≠ some .refunded) (h : applyWebhook a s = (.ok b, t)) :
    t.committed = s.committed ∨ P t.committed := by
  simp only [applyWebhook, Tx.bind_ok, Tx.select_ok, Tx.raiseIf_ok] at h
  obtain ⟨_, _, ⟨-, rfl⟩, existing, _, ⟨-, rfl⟩, h⟩ := h
  cases existing with
  | some existing =>
    simp only [Tx.bind_ok, Tx.raiseIf_ok, Tx.rollback_ok, Tx.pure_ok] at h
    obtain ⟨_, _, ⟨-, rfl⟩, _, _, rfl, -, rfl⟩ := h
    exact .inl rfl
  | none =>
    simp only [dispatchEvent, Tx.bind_ok, Tx.select_ok, Tx.raiseIf_ok, Tx.orRaise_ok] at h
    obtain ⟨_, _, ⟨-, rfl⟩, _, _, ⟨-, rfl⟩, _, _, ⟨-, rfl⟩, order, _, ⟨-, rfl⟩, _, _, ⟨-, rfl⟩, _,
      _, ⟨-, rfl⟩, kind, _, ⟨hk, rfl⟩, h⟩ := h
    have hk := (Option.filter_eq_some_iff.1 hk).1
    cases kind with
    | refunded => exact absurd hk hkind
    | paid =>
      simp only [Tx.bind_ok, Tx.raiseIf_ok] at h
      obtain ⟨_, _, ⟨-, rfl⟩, h⟩ := h
      unfold applyPaidEvent at h
      rcases (Tx.ite_ok ..).1 h with ⟨-, h⟩ | ⟨-, h⟩
      · exact .inr ((settles_creditOrder hP ..).committed _ b t hs h)
      · simp only [Tx.bind_ok, Tx.raiseIf_ok, Tx.rollback_ok, Tx.pure_ok] at h
        obtain ⟨_, _, ⟨-, rfl⟩, _, _, rfl, -, rfl⟩ := h
        exact .inl rfl
    | pending | failed | closed =>
      simp only [Tx.bind_ok, Tx.raiseIf_ok] at h
      obtain ⟨_, _, ⟨-, rfl⟩, h⟩ := h
      exact .inr ((settles_applyProgressEvent hP ..).committed _ b t hs h)

end Writes

/-! ## Each call -/

section Calls

variable {d : DB}

theorem audited_updateAccountStatus {a : AccountStatusArgs}
    (hids : ∀ x ∈ d.actions, x.operationId ≠ a.operationId) :
    Audited d (Tx.run (updateAccountStatus a) d).2 := by
  have hok (u : Unit) (t : Session DB) (h : updateAccountStatus a (.fresh d) = (.ok u, t)) :
      t.committed = d ∨ Acted "user" a.userId a.operationId t.committed := by
    obtain ⟨_, _, -, h⟩ := (Tx.bind_ok ..).1 h
    obtain ⟨user, _, -, h⟩ := (Tx.bind_ok ..).1 h
    obtain ⟨_, s, -, h⟩ := (Tx.bind_ok ..).1 h
    simp only [Tx.bind_ok, Tx.add_ok] at h
    obtain ⟨_, _, rfl, h⟩ := h
    exact .inr (commit_acts h)
  exact audited_run (atomic_updateAccountStatus a) hids hok
    ((touching_updateAccountStatus targeted_user).from _)

theorem atomic_answering {α : Type} {x : Service α} (hx : Tx.Atomic x) : Tx.Atomic (answering x) :=
  Tx.atomic_tryExcept hx fun _ => (Tx.quiet_bind Tx.quiet_rollback fun _ => Tx.quiet_raise _).atomic

theorem atomic_reconcileRequest (a : DecideArgs) : Tx.Atomic (reconcileRequest a) := by
  refine Tx.atomic_bind (by simp) fun _ => Tx.atomic_bind (by simp) fun record =>
    Tx.atomic_bind (by simp) fun _ => ?_
  cases a.decision with
  | release => exact atomic_answering (atomic_releaseModelRequest _)
  | settle =>
    exact Tx.atomic_then (atomic_answering (atomic_settleModelRequest _)) fun _ => Tx.returns_pure _

theorem touching_reconcileRequest {a : DecideArgs} :
    Tx.KeepsFrom (touching (Targeted d "model_request" a.requestId)) (.fresh d)
      (reconcileRequest a) := by
  refine Tx.keepsFrom_select_bind (Tx.keepsFrom_orRaise_bind fun record _ => ?_)
  refine Tx.keepsFrom_add_bind (touching_insertAction _) ?_
  cases a.decision with
  | release =>
    exact keepsFrom_answering (touching_releaseModelRequest targeted_request fun r hr =>
      targeted_walletOfRequest hr)
  | settle =>
    refine Tx.keepsFrom_bind (keepsFrom_answering ?_) fun _ _ t _ => (Tx.keeps_pure _).from t
    exact touching_settleModelRequest targeted_request fun r hr => targeted_walletOfRequest hr

theorem audited_reconcileRequest {a : DecideArgs}
    (hids : ∀ x ∈ d.actions, x.operationId ≠ a.operationId) :
    Audited d (Tx.run (reconcileRequest a) d).2 := by
  have hok (u : Unit) (t : Session DB) (h : reconcileRequest a (.fresh d) = (.ok u, t)) :
      t.committed = d ∨ Acted "model_request" a.requestId a.operationId t.committed := by
    simp only [reconcileRequest, Tx.bind_ok, Tx.select_ok, Tx.orRaise_ok, Tx.add_ok] at h
    obtain ⟨_, _, ⟨-, rfl⟩, record, _, ⟨-, rfl⟩, _, _, rfl, h⟩ := h
    have hbound := bound_insertAction
      (operatorAction a.operator a.operationId (some a.requestId) "model_request"
      a.requestId a.decision.action record.status.text a.decision.afterStatus) d
    cases hdecision : a.decision with
    | release =>
      simp only [hdecision, answering_ok] at h hbound
      exact releaseModelRequest_writes (fun _ _ => Acted.grow) hbound h
    | settle =>
      simp only [hdecision, Tx.bind_ok, answering_ok, Tx.pure_ok] at h hbound
      obtain ⟨_, _, h, -, rfl⟩ := h
      exact .inr ((settles_settleModelRequest (fun _ _ => Acted.grow) _).committed _ _ _ hbound h)
  exact audited_run (atomic_reconcileRequest a) hids hok touching_reconcileRequest

theorem audited_disposeRefundRisk {a : ResolveArgs} {op : Operator} {operationId : String}
    (hids : ∀ x ∈ d.actions, x.operationId ≠ operationId) :
    Audited d (Tx.run (disposeRefundRisk a op operationId) d).2 := by
  have hatomic : Tx.Atomic (disposeRefundRisk a op operationId) := by
    refine atomic_conflictsAs
      (atomic_answering (Tx.atomic_bind (quiet_resolveRefundRisk a) fun _ => ?_))
    exact Tx.atomic_bind (by simp) fun _ => Tx.atomic_commit_return _
  have hok (r : RiskResolution) (t : Session DB)
    (h : disposeRefundRisk a op operationId (.fresh d) = (.ok r, t)) :
      t.committed = d ∨ Acted "payment_refund" a.refundId operationId t.committed := by
    simp only [disposeRefundRisk, conflictsAs_ok, answering_ok, Tx.bind_ok,
      Tx.add_ok, Tx.pure_ok] at h
    obtain ⟨resolution, s, -, _, _, rfl, _, _, h, -, rfl⟩ := h
    exact .inr (commit_acts h)
  have htouch : Tx.KeepsFrom (touching (Targeted d "payment_refund" a.refundId)) (.fresh d)
      (disposeRefundRisk a op operationId) := by
    refine Tx.keepsFrom_tryExcept (keepsFrom_answering ?_) (fun _ _ => rfl)
      fun e s a t h => by simp at h
    refine Tx.keepsFrom_bind (touching_resolveRefundRisk targeted_refund fun r hr =>
      (targeted_ofRefund hr).1) fun _ _ t _ => ?_
    exact (Tx.keeps_bind (Tx.keeps_add (touching_insertAction _)) fun _ =>
      keeps_then_return (by simp) _).from t
  exact audited_run hatomic hids hok htouch

theorem audited_claimReconciliation {a : ReconcileArgs}
    (hids : ∀ x ∈ d.actions, x.operationId ≠ a.operationId) :
    Audited d (Tx.run (claimReconciliation a) d).2 := by
  have hok (o : PaymentOrder) (t : Session DB) (h : claimReconciliation a (.fresh d) = (.ok o, t)) :
      t.committed = d ∨ Acted "payment_order" a.orderId a.operationId t.committed := by
    iterate 6 obtain ⟨_, _, -, h⟩ := (Tx.bind_ok ..).1 h
    simp only [Tx.bind_ok, Tx.add_ok, Tx.pure_ok] at h
    obtain ⟨_, _, rfl, _, _, h, -, rfl⟩ := h
    exact .inr (commit_acts h)
  exact audited_run (atomic_claimReconciliation a) hids hok
    ((touching_claimReconciliation targeted_order).from _)

theorem audited_answerReconciliation {a : ReconcileAnswer}
    (hevent : a.event.orderId = a.claim.orderId)
    (hkind : validEvent a.event.eventType ≠ some .refunded)
    (hids : ∀ x ∈ d.actions, x.operationId ≠ a.claim.operationId) :
    Audited d (Tx.run (answerReconciliation a) d).2 := by
  have hatomic : Tx.Atomic (answerReconciliation a) :=
    Tx.atomic_bind (by simp) fun _ => atomic_answering (atomic_applyWebhook _)
  have hok (b : Bool) (t : Session DB) (h : answerReconciliation a (.fresh d) = (.ok b, t)) :
      t.committed = d ∨ Acted "payment_order" a.claim.orderId a.claim.operationId t.committed := by
    simp only [answerReconciliation, Tx.bind_ok, Tx.add_ok, answering_ok] at h
    obtain ⟨_, _, rfl, h⟩ := h
    exact applyWebhook_writes (fun _ _ => Acted.grow)
      (bound_insertAction (reconcileAction a a.claim.operationId) d) hkind h
  have htouch : Tx.KeepsFrom (touching (Targeted d "payment_order" a.claim.orderId)) (.fresh d)
      (answerReconciliation a) := by
    refine Tx.keepsFrom_add_bind (touching_insertAction _)
      (keepsFrom_answering (touching_applyWebhook hkind ?_ fun o ho => ?_))
    · rw [hevent]
      exact targeted_order
    · exact targeted_walletOfOrder (hevent ▸ ho)
  exact audited_run hatomic hids hok htouch

theorem audited_closeReconciliation (a : ReconcileAnswer) (duplicate : Bool) :
    Audited d (Tx.run (closeReconciliation a duplicate) d).2 := by
  have htouch : Keeps (touching fun _ => False) (closeReconciliation a duplicate) :=
    touching_closeReconciliation ..
  exact .of_same fun x => htouch.run d x not_false

theorem audited_keepReconciling {orderId : Id} {reason : String}
    (horder : ∀ o, d.orders.get? orderId = some o → o.status.isEarly = false) :
    Audited d (Tx.run (keepReconciling orderId reason) d).2 := by
  have hatomic : Tx.Atomic (keepReconciling orderId reason) :=
    Tx.atomic_bind (by simp) fun _ => by simp
  rcases Tx.run_cases hatomic d with heq | ⟨u, t, h, heq⟩ <;> rw [heq]
  · exact .refl d
  · simp only [keepReconciling, Tx.bind_ok, Tx.execute_ok, Tx.commit_ok] at h
    obtain ⟨n, _, ⟨d', hd, rfl⟩, d'', hc, rfl⟩ := h
    obtain rfl := Option.some.inj hc
    obtain ⟨-, rfl, -⟩ := updateOrders_ok.1 hd
    refine .of_same fun x => ?_
    cases x with
    | order i =>
      refine Table.map_get?_update (f := fun o : PaymentOrder => { o with
        status := .pendingReconciliation
        riskReason := some reason }) (fun _ => rfl) fun o ho hp => ?_
      simp only [Bool.and_eq_true, decide_eq_true_eq] at hp
      obtain ⟨rfl, hs | hs⟩ := hp
      · have hearly := horder o (by rw [Table.key_of_get? ho]; exact ho)
        simp [hs, OrderStatus.isEarly] at hearly
      · exact hs.symm
    | _ => rfl

theorem audited_refundUncertain {orderId refundId : Id} {orderReason refundReason : String}
    (hrefund : ∀ r, d.refunds.get? refundId = some r → r.claimed = false) :
    Audited d (Tx.run (refundUncertain orderId refundId orderReason refundReason) d).2 := by
  have hatomic : Tx.Atomic (refundUncertain orderId refundId orderReason refundReason) :=
    Tx.atomic_bind (by simp) fun _ => Tx.atomic_bind (by simp) fun _ => by simp
  rcases Tx.run_cases hatomic d with heq | ⟨u, t, h, heq⟩ <;> rw [heq]
  · exact .refl d
  · simp only [refundUncertain, Tx.bind_ok, Tx.execute_ok, Tx.commit_ok] at h
    obtain ⟨_, _, ⟨d₁, h₁, rfl⟩, _, _, ⟨d₂, h₂, rfl⟩, d₃, hc, rfl⟩ := h
    obtain rfl := Option.some.inj hc
    obtain ⟨-, rfl, -⟩ := updateOrders_ok.1 h₁
    obtain ⟨-, rfl, -⟩ := updateRefunds_ok.1 h₂
    refine .of_same fun x => ?_
    cases x with
    | order i =>
      exact Table.map_get?_update
        (f := fun o : PaymentOrder => { o with riskReason := some orderReason }) (fun _ => rfl)
        fun _ _ _ => rfl
    | refund i =>
      refine Table.map_get?_update (f := fun r : PaymentRefund => { r with
        status := .pendingReconciliation
        riskReason := some refundReason }) (fun _ => rfl) fun r hr hp => ?_
      simp only [Bool.and_eq_true, decide_eq_true_eq] at hp
      obtain ⟨rfl, hs⟩ := hp
      have hfree := hrefund r (by rw [Table.key_of_get? hr]; exact hr)
      simp [PaymentRefund.claimed, hs] at hfree
    | _ => rfl

end Calls

/-! ## Refund commands -/

theorem reclaimRefund_id {existing r : PaymentRefund} {now lease : Time}
    {s t : Session DB} {b : Bool}
    (h : reclaimRefund existing now lease s = (.ok (r, b), t)) : r.id = existing.id := by
  have hregrant {p : PaymentRefund → Bool} {next : RefundStatus} {s : Session DB}
      (h : regrantRefund existing p next now s = (.ok (r, b), t)) : r.id = existing.id := by
    simp only [regrantRefund, Tx.bind_ok, Tx.pure_ok, Prod.mk.injEq] at h
    obtain ⟨_, _, -, _, _, -, _, _, -, ⟨rfl, -⟩, -⟩ := h
    rfl
  cases hs : existing.status <;> simp only [reclaimRefund, hs] at h
  case requesting | retrying =>
    obtain ⟨_, _, -, h⟩ := (Tx.bind_ok ..).1 h
    exact hregrant h
  case pendingReconciliation => exact hregrant h
  case refunded | risk =>
    simp only [Tx.bind_ok, Tx.pure_ok, Prod.mk.injEq] at h
    obtain ⟨_, _, -, ⟨rfl, -⟩, -⟩ := h
    rfl
  case resolved => simp at h

theorem reclaimRefund_granted {a : PrepareRefundArgs} {existing r : PaymentRefund}
    {d : DB} {t : Session DB}
    (hfound : d.refunds.get? existing.id = some existing)
    (h : reclaimRefund existing a.now a.lease (.fresh d) = (.ok (r, true), t)) :
    (existing.status = .pendingReconciliation ∨ existing.claimed ∧
      existing.claimStartedAt ≤ a.now - a.lease) ∧
      ∃ x, t.committed.refunds.get? r.id = some x ∧ x.orderId = existing.orderId ∧
        x.idempotencyKey = existing.idempotencyKey := by
  rw [← reclaimRefund_id h] at hfound
  rcases reclaimRefund_ok h with ⟨hfalse, -⟩ | ⟨-, hgrant⟩
  · cases hfalse
  cases hgrant with
  | again x next found free hnext refunds =>
    obtain rfl := Option.some.inj (hfound.symm.trans found)
    refine ⟨free.imp_right fun ⟨hc, hle⟩ => ⟨hc, Int.le_sub_right_of_add_le hle⟩,
      reclaimedRefund next a.now existing, ?_, rfl, rfl⟩
    rw [refunds]
    exact Table.get?_modify_self found (reclaimedRefund next a.now) fun _ => rfl
  | first claimed since insert =>
    rw [(Table.insert?_eq_some.1 insert).1] at hfound
    cases hfound

section Granted

variable {a : PrepareRefundArgs} {d : DB} {r : PaymentRefund} {t : Session DB}

theorem prepareRefund_commands (h : prepareRefund a (.fresh d) = (.ok (r, true), t)) :
    ∃ x, t.committed.refunds.get? r.id = some x ∧ x.orderId = a.orderId ∧
      x.idempotencyKey = a.idempotencyKey := by
  simp only [prepareRefund, Tx.bind_ok, Tx.raiseIf_ok, Tx.select_ok] at h
  obtain ⟨_, _, ⟨-, rfl⟩, existing, _, ⟨hex, rfl⟩, h⟩ := h
  cases existing with
  | some existing =>
    obtain ⟨hfound, horder, hkey⟩ := refundWithKey_some hex.symm
    obtain ⟨x, hx, hxorder, hxkey⟩ := (reclaimRefund_granted hfound h).2
    exact ⟨x, hx, hxorder.trans horder, hxkey.trans hkey⟩
  | none =>
    obtain ⟨-, order, amount, currency, horder, -, rfl, hinsert, -⟩ := commandRefund_ok h
    have hid : order.id = a.orderId := Table.key_of_get? horder
    refine ⟨newRefund a.refundId order none a.idempotencyKey amount currency
      a.createdAt, ?_, hid, rfl⟩
    rw [Table.get?_insert hinsert, if_pos rfl]

theorem refundGranted_ok {b : Bool} (h : refundGranted a (.fresh d) = (.ok (r, b), t)) :
    (∃ o, d.orders.get? a.orderId = some o ∧ o.paymentAmountMinor ≠ none ∧
      o.paymentCurrency ≠ none ∧
      o.providerTransactionId ≠ none) ∧ prepareRefund a (.fresh d) = (.ok (r, b), t) := by
  simp only [refundGranted, Tx.bind_ok, Tx.select_ok, Tx.orRaise_ok, answering_ok] at h
  obtain ⟨_, _, ⟨rfl, rfl⟩, order, _, ⟨hfound, rfl⟩, h⟩ := h
  obtain ⟨hfound, hquoted⟩ := Option.filter_eq_some_iff.1 hfound
  exact ⟨⟨order, hfound, of_decide_eq_true hquoted⟩, h⟩

theorem grantable_of_granted (h : refundGranted a (.fresh d) = (.ok (r, true), t)) :
    a.Grantable d := by
  obtain ⟨⟨o, ho, hamount, hcurrency, htransaction⟩, h⟩ := refundGranted_ok h
  simp only [prepareRefund, Tx.bind_ok, Tx.raiseIf_ok, Tx.select_ok] at h
  obtain ⟨_, _, ⟨hkey, rfl⟩, existing, _, ⟨hex, rfl⟩, h⟩ := h
  have hex : refundWithKey a.orderId a.idempotencyKey d = existing := hex.symm
  refine ⟨hkey, o, ho, hamount, hcurrency, htransaction, ?_⟩
  rw [hex]
  cases existing with
  | some existing =>
    exact (reclaimRefund_granted (refundWithKey_some hex).1 h).1
  | none =>
    obtain ⟨-, order, amount, currency, horder, hpaid, rfl, hinsert, hu⟩ := commandRefund_ok h
    obtain rfl := Option.some.inj (ho.symm.trans horder)
    refine ⟨hpaid, fun x hx hxo => ?_, (Table.insert?_eq_some.1 hinsert).1⟩
    -- The index on the order of a refund lets no second one in.
    rw [uniqueRefunds, Bool.and_eq_true, unique_iff, unique_iff,
      (Table.insert?_eq_some.1 hinsert).2] at hu
    have hapart := (List.pairwise_append.1 hu.1).2.2 x hx _ (List.mem_singleton.2 rfl) _ rfl _ rfl
    exact hapart (hxo.trans (Table.key_of_get? ho).symm)

theorem audited_refundGranted (h : ¬ a.Grantable d) : Audited d (Tx.run (refundGranted a) d).2 := by
  have hatomic : Tx.Atomic (refundGranted a) :=
    Tx.atomic_bind (by simp) fun _ => Tx.atomic_bind (by simp) fun _ =>
      atomic_answering (atomic_prepareRefund a)
  rcases Tx.run_cases hatomic d with heq | ⟨⟨r, b⟩, t, hrun, heq⟩ <;> rw [heq]
  · exact .refl d
  · rcases prepareRefund_ok (refundGranted_ok hrun).2 with ⟨-, hc⟩ | ⟨rfl, -⟩
    · rw [hc]
      exact .refl d
    · exact absurd (grantable_of_granted hrun) h

end Granted

theorem audited_refundConfirmed {a : ApplyRefundArgs} {op : Operator} {operationId : String}
    {refundId : Id} {d : DB}
    {refund : PaymentRefund} (hcommand : refundWithKey a.orderId a.idempotencyKey d = some refund)
    (hid : refund.id = refundId) (howned : d.books.Owned)
    (hids : ∀ x ∈ d.actions, x.operationId ≠ operationId) :
    Audited d (Tx.run (refundConfirmed a op operationId refundId) d).2 := by
  subst hid
  have hatomic : Tx.Atomic (refundConfirmed a op operationId refund.id) := by
    refine Tx.atomic_bind (by simp) fun _ => atomic_answering ?_
    exact Tx.atomic_then_commit (atomic_applyRefund _) (fun _ _ _ h => applyRefund_returns h)
      fun _ => Tx.returns_pure _
  have hsettles : Tx.Settles (Acted "payment_refund" refund.id operationId) (do
      let refund ← applyRefund a
      Tx.commit
      return refund : Service PaymentRefund) :=
    Tx.settles_bind (binds_applyRefund keepsMoney_actionsGrow (fun _ _ => Acted.grow)
      keepsRisk_actionsGrow a) fun r =>
      Tx.settles_then_return Tx.settles_commit r
  have hok (r : PaymentRefund) (t : Session DB)
    (h : refundConfirmed a op operationId refund.id (.fresh d) = (.ok r, t)) :
      t.committed = d ∨ Acted "payment_refund" refund.id operationId t.committed := by
    simp only [refundConfirmed, Tx.bind_ok (Tx.add _), Tx.add_ok, answering_ok] at h
    obtain ⟨_, _, rfl, h⟩ := h
    exact .inr (hsettles.committed _ r t
      (bound_insertAction (operatorAction op operationId none "payment_refund" refund.id
      "payment_refund" "refunding" "refunded") d) h)
  obtain ⟨hfound, horder, -⟩ := refundWithKey_some hcommand
  obtain ⟨hwallet, huser, hrefundOrder⟩ := targeted_ofRefund hfound
  have htouch : Tx.KeepsFrom (touching (Targeted d "payment_refund" refund.id)) (.fresh d)
      (refundConfirmed a op operationId refund.id) := by
    refine Tx.keepsFrom_add_bind (touching_insertAction _)
      (keepsFrom_answering (Tx.keepsFrom_bind ?_ fun _ r t _ => ?_))
    · refine touching_applyRefund hcommand targeted_refund (horder ▸ hrefundOrder) fun o ho => ?_
      obtain ⟨o', ho', huserId⟩ := howned.refunds refund (Table.mem_of_get? hfound)
      rw [horder] at ho'
      obtain rfl := Option.some.inj (ho.symm.trans ho')
      rw [huserId]
      exact ⟨huser, hwallet⟩
    · exact (keeps_then_return (by simp) r).from t
  exact audited_run hatomic hids hok htouch

/-! ## Runs -/

/-- An order that an operator has reconciled, or that has ended, stays so. -/
def orderLate (i : Id) : Track DB :=
  orderTrack i (fun o o' => o.status.isEarly = false → o'.status.isEarly = false) (fun _ => id)
    fun _ _ _ h h' => h' ∘ h

theorem keepsAll_orderLate (i : Id) : KeepsAll (orderLate i) where
  toKeepsMoney := keepsMoney_orderTrack fun _ _ h => h.late
  toKeepsRisk := keepsRisk_orderTrack
  toKeepsActivation := keepsActivation_orderTrack
  toKeepsClaims := keepsClaims_orderTrack
  reconcile _ := by
    refine ⟨fun _ _ => updateOrders_orderTrack fun _ _ _ _ => rfl,
      updateOrders_orderTrack fun _ _ _ => id, fun _ => ?_⟩
    refine updateOrders_orderTrack fun o _ _ h => ?_
    unfold progressedOrder
    dsimp only
    split
    · rfl
    · exact h

/-- A refund stays with its order, under its key. -/
def refundCommand (i : Id) : Track DB :=
  refundTrack i (fun r r' => r'.orderId = r.orderId ∧ r'.idempotencyKey = r.idempotencyKey)
    (fun _ => ⟨rfl, rfl⟩)
    fun _ _ _ h h' => ⟨h'.1.trans h.1, h'.2.trans h.2⟩

theorem keepsAll_refundCommand (i : Id) : KeepsAll (refundCommand i) where
  toKeepsMoney := keepsMoney_refundTrack fun _ _ h => h.command
  toKeepsActivation := keepsActivation_refundTrack
  atRisk _ := updateRefunds_refundTrack fun _ _ _ => ⟨rfl, rfl⟩
  regrant _ _ _ _ _ _ := updateRefunds_refundTrack fun _ _ _ => ⟨rfl, rfl⟩
  uncertain _ _ := updateRefunds_refundTrack fun _ _ _ => ⟨rfl, rfl⟩
  reconcile := keepsReconcile_refundTrack

namespace Part

theorem after_keeps {K : Track DB} (h : KeepsAll K) (d : DB) (parts : List Part) :
    K.rel d (Run.after exec d parts) :=
  have along : Run.Along exec (fun _ _ => True) d parts :=
  Run.along_of_forall d fun _ _ _ => trivial
  Run.relates K.refl (fun _ _ _ => K.trans) (fun _ p _ => p.exec_keeps h _) along

theorem after_moves (d : DB) (parts : List Part) :
    Moves (.adapter True) d.books (Run.after exec d parts).books :=
  have along : Run.Along exec (fun _ _ => True) d parts :=
  Run.along_of_forall d fun _ _ _ => trivial
  Run.relates (R := fun d e => Moves (.adapter True) d.books e.books) (fun _ => .refl)
    (fun _ _ _ => .trans)
    (fun _ p _ => p.exec_moves _) along

theorem late_of_claimed {d₀ : DB} {past : List Part} {orderId : Id}
    (h : Done d₀ past fun p e => p.claims orderId e) {o : PaymentOrder}
    (ho : (Run.after exec d₀ past).orders.get? orderId = some o) : o.status.isEarly = false := by
  obtain ⟨before, p, after, rfl, hclaims⟩ := h
  obtain ⟨a, -, o₀, ho₀, -, -, horders⟩ := claims_ok hclaims
  have hget : (p.exec (Run.after exec d₀ before)).orders.get? orderId =
      some (reconcilingOrder a.now (o₀.status = .checkoutRequesting) o₀) := by
    rw [horders]
    exact Table.get?_modify_self ho₀ (reconcilingOrder a.now (o₀.status = .checkoutRequesting))
      (fun _ => rfl)
  rw [Run.after_append, Run.after_cons] at ho
  obtain ⟨o', ho', hlate⟩ := after_keeps (keepsAll_orderLate orderId) _ after _ hget
  obtain rfl := Option.some.inj (ho.symm.trans ho')
  exact hlate rfl

theorem command_of_granted {d₀ : DB} (hd₀ : d₀.Opened) {past : List Part}
    {c : PrepareRefundArgs} {refundId : Id}
    (h : Done d₀ past fun p e => ∃ r, p = session (.refundGranted c) ∧
      (refundGranted c (.fresh e)).1 = .ok (r, true) ∧
      r.id = refundId) :
    ∃ r, refundWithKey c.orderId c.idempotencyKey (Run.after exec d₀ past) =
      some r ∧ r.id = refundId := by
  have hindexed : (Run.after exec d₀ past).Indexed :=
    after_keeps keepsAll_indexed d₀ past hd₀.indexed
  obtain ⟨before, p, after, rfl, r, rfl, hrun, rfl⟩ := h
  obtain ⟨x, hx, horder, hkey⟩ := prepareRefund_commands (refundGranted_ok (Prod.ext hrun rfl)).2
  have hexec : (session (.refundGranted c)).exec (Run.after exec d₀ before) =
      (refundGranted c (.fresh (Run.after exec d₀ before))).2.committed := by
    rw [Part.exec, Kunlun.exec, Op.service, run_discard, Tx.run]
  rw [← hexec] at hx
  rw [Run.after_append, Run.after_cons] at hindexed ⊢
  obtain ⟨y, hy, hyorder, hykey⟩ := after_keeps (keepsAll_refundCommand r.id) _ after _ hx
  have hmem := Table.mem_of_get? hy
  cases hfound : refundWithKey c.orderId c.idempotencyKey (Run.after exec _ after) with
  | none =>
    have hno := List.find?_eq_none.1 hfound y hmem
    simp [hyorder, hykey, horder, hkey] at hno
  | some z =>
    obtain ⟨hz, hzorder, -⟩ := refundWithKey_some hfound
    have hunique := hindexed.refunds
    rw [uniqueRefunds, Bool.and_eq_true] at hunique
    obtain rfl := unique_injective hunique.1 (Table.mem_of_get? hz) hmem
      (hzorder.trans (hyorder.trans horder).symm)
    exact ⟨z, rfl, Table.key_of_get? hy⟩

end Part

/-- In every run, what a commit of an operator's call changes is audited, but for the grant of a
refund command and the answer that leaves a claimed refund for reconciliation. -/
theorem operators_audited {d₀ : DB} (hd₀ : d₀.Opened) (past : List Part) {p : Part}
    (hop : p.ofOperator)
    (hcall : p.Continues d₀ past)
    (hids : ∀ x ∈ (Run.after Part.exec d₀ past).actions, x.operationId ∉ p.operationIds)
    (h : ¬ p.Unaudited (Run.after Part.exec d₀ past)) :
    Audited (Run.after Part.exec d₀ past) (p.exec (Run.after Part.exec d₀ past)) := by
  have hdrawn {operationId : String} (hp : p.operationIds = [operationId]) :
      ∀ x ∈ (Run.after Part.exec d₀ past).actions, x.operationId ≠ operationId := by
    intro x hx heq
    exact hids x hx (by rw [hp]; exact List.mem_singleton.2 heq)
  cases p with
  | answered a => exact audited_answerReconciliation hcall.1 hcall.2 (hdrawn rfl)
  | closed a duplicate => exact audited_closeReconciliation a duplicate
  | session op =>
    show Audited _ (exec op _)
    unfold exec
    cases op with
    | updateAccountStatus a =>
      rw [Op.service, run_discard]
      exact audited_updateAccountStatus (hdrawn rfl)
    | reconcileRequest a =>
      rw [Op.service, run_discard]
      exact audited_reconcileRequest (hdrawn rfl)
    | disposeRefundRisk a op operationId =>
      rw [Op.service, run_discard]
      exact audited_disposeRefundRisk (hdrawn rfl)
    | claimReconciliation a =>
      rw [Op.service, run_discard]
      exact audited_claimReconciliation (hdrawn rfl)
    | reconcileFailed orderId code | reconcileManual orderId status =>
      rw [Op.service, run_discard]
      exact audited_keepReconciling fun o ho => Part.late_of_claimed hcall ho
    | refundGranted a =>
      rw [Op.service, run_discard]
      exact audited_refundGranted h
    | refundFailed orderId refundId code | refundUnconfirmed orderId refundId status =>
      rw [Op.service, run_discard]
      exact audited_refundUncertain fun r hr => Bool.eq_false_iff.2 fun hclaimed =>
        h ⟨r, hr, hclaimed⟩
    | refundConfirmed a op operationId refundId =>
      rw [Op.service, run_discard]
      obtain ⟨before, p, after, hpast, c, r, hp, horder, hkey, hrun, hid⟩ := hcall
      obtain ⟨refund, hfound, hrefund⟩ :=
        Part.command_of_granted hd₀ ⟨before, p, after, hpast, r, hp, hrun, hid⟩
      rw [horder, hkey] at hfound
      have howned := Moves.owned (Part.after_moves d₀ past)
        ⟨forall_nil hd₀.orders _, forall_nil hd₀.refunds _⟩
      exact audited_refundConfirmed hfound hrefund howned (hdrawn rfl)
    | _ => cases hop

/-- An operator is granted the refund of the order that `paid` pays. -/
theorem grant_unaudited :
    ¬ ∀ (past : List Part) (p : Part), p.ofOperator → p.Continues DB.empty past →
      (∀ x ∈ (Run.after Part.exec DB.empty past).actions, x.operationId ∉ p.operationIds) →
      Audited (Run.after Part.exec DB.empty past) (p.exec (Run.after Part.exec DB.empty past)) := by
  intro h
  have haudited := h (paid.map Part.session)
    (.session (.refundGranted ⟨"o", "refund", 0, refundClaimLease, "r", 0⟩)) rfl
    trivial (by decide +kernel)
  obtain ⟨x, hx, -⟩ := haudited (.order "o") (by unfold Object.Same; decide +kernel)
  revert x
  decide +kernel

theorem operators_audited_freeze :
    Audited (Run.after Part.exec DB.empty
      [.session (.registerIdentity ⟨"u", "u@example.com", "", .active, some 0⟩)])
      (Part.exec (.session (.updateAccountStatus
        ⟨"u", true, ⟨"operator", "users:write", "token", none, "fraud"⟩, "op", 0⟩))
        (Run.after Part.exec DB.empty
          [.session (.registerIdentity ⟨"u", "u@example.com", "", .active, some 0⟩)])) :=
  operators_audited opened_empty _ rfl trivial (by decide +kernel) not_false

end Kunlun
