import Kunlun.Moves.Orders
import Kunlun.Moves.Refunds

/-!
# Provider events and operators move the books
-/

namespace Kunlun

variable {env : Env}

/-! ## Refund events -/

theorem carries_recordEvent (a : WebhookArgs) (order : PaymentOrder) (status : WebhookStatus) :
    Carries env (recordEvent a order status) :=
  carries_add (neutral_insertEvent _)

theorem carries_completeRefund (a : WebhookArgs) (order : PaymentOrder)
    (key providerRefundId : String) :
    Carries env (completeRefund a order key providerRefundId) := by
  unfold completeRefund
  refine carries_bind (carries_recordEvent ..) fun _ =>
    carries_bind (carries_applyRefund _) fun _ => ?_
  exact carries_bind carries_commit fun _ => carries_pure _

theorem carries_applyRefundEvent (a : WebhookArgs) (order : PaymentOrder)
    (providerRefundId : String) :
    Carries env (applyRefundEvent a order providerRefundId) := by
  unfold applyRefundEvent
  split
  · refine carries_bind (carries_select _) fun _ => carries_bind (carries_raiseIf ..) fun _ => ?_
    refine carries_bind (carries_recordEvent ..) fun _ => ?_
    exact carries_bind (carries_conflictsAs _ carries_commit) fun _ => carries_pure _
  · refine carries_bind (carries_select _) fun active => ?_
    split
    · exact carries_bind (carries_raiseIf ..) fun _ => carries_completeRefund ..
    · exact carries_raise _
  · exact carries_completeRefund ..
  · exact carries_raise _

/-! ## Payment events -/

theorem progressedOrder_edit {test : Prop} {a : WebhookArgs} {order : PaymentOrder}
    (kind : EventStatus)
    (hopen : order.status.isOpen)
    (htx : order.providerTransactionId = none ∨ order.providerTransactionId =
      some a.providerTransactionId) :
    OrderEdit test order (progressedOrder a kind order) ∧
      order.status.Progress (progressedOrder a kind order).status := by
  have hknown : (if truthy order.providerTransactionId then order.providerTransactionId
      else some a.providerTransactionId) = some a.providerTransactionId := by
    rcases htx with h | h <;> simp [h, truthy]
  have htx' : (progressedOrder a kind order).providerTransactionId =
      some a.providerTransactionId := by
    unfold progressedOrder
    cases kind <;> simp only [hknown] <;> split <;> rfl
  refine ⟨⟨?_, ?_, ?_, fun h => ?_, fun t ht => .inl ?_⟩, ?_⟩
  iterate 3
    unfold progressedOrder
    cases kind <;> simp only <;> split <;> rfl
  · exact absurd h.2.1 (by simp [htx'])
  · rw [htx', ← ht]
    rcases htx with h | h
    · simp [h] at ht
    · exact h.symm
  · refine .inr ⟨hopen, ?_⟩
    unfold progressedOrder
    cases kind with
    | failed => exact .inr (.inl rfl)
    | closed => exact .inr (.inr rfl)
    | pending | paid | refunded =>
      simp only
      split
      · exact .inl rfl
      · exact .inl hopen

theorem carriesFrom_applyProgressEvent {a : WebhookArgs} {order : PaymentOrder} (kind : EventStatus)
    {s : Session DB} (hs : Staged s) (hfound : s.work.orders.get? order.id = some order)
    (htx : order.providerTransactionId = none ∨ order.providerTransactionId =
      some a.providerTransactionId) :
    CarriesFrom env (applyProgressEvent a order kind) s := by
  refine carriesFrom_atomic ?_ fun r t h => ?_
  · refine Tx.atomic_bind (by simp) fun _ => Tx.atomic_bind (Tx.quiet_add _) fun _ => ?_
    refine Tx.atomic_bind (Tx.quiet_add _) fun _ => ?_
    exact Tx.atomic_then (atomic_conflictsAs Tx.atomic_commit) fun _ => Tx.returns_pure _
  · simp only [applyProgressEvent, recordEvent, setOrder, Tx.bind_ok, Tx.raiseIf_ok,
      conflictsAs_ok, Tx.pure_ok] at h
    obtain ⟨_, _, ⟨hopen, rfl⟩, _, s₁, h1, _, s₂, h2, _, s₃, h3, -, rfl⟩ := h
    have hs₂ := (hs.stages.add (neutral_insertEvent _).effect h1).add (effect_setOrder ..) h2
    obtain ⟨hb, ht⟩ := hs₂.commit h3
    refine ⟨?_, ht⟩
    rw [hs.orders] at hfound
    have m : Move env (DB.books _) _ :=
      .progress (fun o => o.id = order.id) (progressedOrder a kind) (progressedOrder_id a kind)
      fun o ho hp => by
        obtain rfl : o = order := Table.eq_of_mem_of_key ho (Table.mem_of_get? hfound)
          (of_decide_eq_true hp)
        exact progressedOrder_edit kind (by simpa using hopen) htx
    rw [hb]
    exact .single m

theorem atomic_creditOrder (a : WebhookArgs) (order : PaymentOrder) :
    Tx.Atomic (creditOrder a order) := by
  unfold creditOrder
  refine Tx.atomic_bind (Tx.quiet_add _) fun _ => Tx.atomic_bind (by simp) fun _ => ?_
  refine Tx.atomic_bind (by simp) fun _ => Tx.atomic_bind (by simp) fun _ =>
    Tx.atomic_bind (by simp) fun _ => ?_
  refine Tx.atomic_bind (Tx.quiet_add _) fun _ =>
    Tx.atomic_bind (quiet_postTransaction ..) fun _ => ?_
  refine Tx.atomic_bind (Tx.quiet_add _) fun _ => ?_
  exact Tx.atomic_then (atomic_conflictsAs Tx.atomic_commit) fun _ => Tx.returns_pure _

theorem carriesFrom_creditOrder {a : WebhookArgs} {order : PaymentOrder}
    {s : Session DB} (hs : Staged s)
    (hfound : s.work.orders.get? order.id = some order)
    (htx : order.providerTransactionId = none ∨ order.providerTransactionId =
      some a.providerTransactionId) :
    CarriesFrom env (creditOrder a order) s := by
  refine carriesFrom_atomic (atomic_creditOrder a order) fun r t h => ?_
  simp only [creditOrder, recordEvent, setBalance, Tx.bind_ok, Tx.rollbackIf_ok, Tx.select_ok,
    Tx.orRaise_ok, conflictsAs_ok, Tx.pure_ok] at h
  obtain ⟨_, s₁, h1, n, _, h2, _, _, ⟨hn, rfl⟩, _, _, ⟨rfl, rfl⟩, wallet, s₂, ⟨hwallet, rfl⟩,
    _, s₃, h3, _, s₄, h4, _, s₅, h5, _, s₆, h6, -, rfl⟩ := h
  obtain rfl := not_not.1 hn
  obtain ⟨o, ho, hopen, hs₂⟩ := (hs.stages.add (neutral_insertEvent _).effect h1).updateOrder h2
  rw [hs.orders] at hfound
  obtain rfl : order = o := Option.some.inj (hfound.symm.trans ho)
  have hwallet' : s.committed.books.wallets.get? order.userId = some wallet := by
    rw [← hwallet]
    exact congrArg (fun b => b.wallets.get? order.userId) hs₂.work.symm
  obtain ⟨j, ledger, hj, hkey, hl, hs₄⟩ := (hs₂.add (effect_setBalance ..) h3).postTransaction h4
  obtain ⟨hb, ht⟩ := (hs₄.add (neutral_insertOutbox _).effect h5).commit h6
  refine ⟨?_, ht⟩
  have htx' (t : String) (h : order.providerTransactionId = some t) :
      some a.providerTransactionId = some t := by
    rcases htx with hn | hn
    · simp [hn] at h
    · rw [← hn, h]
  have m : Move env s.committed.books _ :=
    .credit order (paidOrder a.providerTransactionId) (fun _ => rfl) j
    .paymentCredit hfound hopen ⟨rfl, rfl, rfl, fun h => absurd h.1 (by simp [paidOrder]),
      fun t h => .inl (htx' t h)⟩
    rfl rfl (by simpa using hj) hl
      ⟨a.provider ++ ":" ++ a.eventId, by simp [hkey, String.append_assoc]⟩
  have hwallets : s.committed.books.wallets.modify order.userId (fun w => { w with
        balanceMicrousd := wallet.balanceMicrousd + order.creditAmountMicrousd }) =
      s.committed.books.wallets.modify order.userId fun w => { w with
        balanceMicrousd := w.balanceMicrousd + order.creditAmountMicrousd } :=
    Table.modify_congr hwallet' rfl
  simp only [hb, hwallets]
  exact .single m

/-! ## Events -/

theorem carries_dispatchEvent (a : WebhookArgs) : Carries env (dispatchEvent a) := by
  refine carries_of_from fun s hs => ?_
  unfold dispatchEvent
  refine carriesFrom_bind (by simp) (by simp) fun found hfound => ?_
  refine carriesFrom_bind (by simp) (by simp) fun order horder => ?_
  simp only [Tx.select_ok, Tx.orRaise_ok, and_true] at hfound horder
  subst hfound
  obtain ⟨hget, -⟩ := Option.filter_eq_some_iff.1 horder
  rw [← Table.key_of_get? hget] at hget
  refine carriesFrom_bind (by simp) (by simp) fun _ _ => ?_
  refine carriesFrom_bind (by simp) (by simp) fun _ htx => ?_
  simp only [Tx.raiseIf_ok, and_true] at htx
  have htx' : order.providerTransactionId = none ∨ order.providerTransactionId =
      some a.providerTransactionId := by
    by_cases h : order.providerTransactionId = none
    · exact .inl h
    · exact .inr (not_not.1 fun h' => htx ⟨h, h'⟩)
  refine carriesFrom_bind (by simp) (by simp) fun kind _ => ?_
  have hprogress (kind : EventStatus) : CarriesFrom env (applyProgressEvent a order kind) s :=
    carriesFrom_applyProgressEvent kind hs hget htx'
  have hpaid : CarriesFrom env (applyPaidEvent a order) s := by
    unfold applyPaidEvent
    split
    · exact carriesFrom_creditOrder hs hget htx'
    · exact (carries_bind (carries_raiseIf ..) fun _ => carries_bind carries_rollback fun _ =>
        carries_pure _).from hs
  have hraise (f : Unit → Service Bool) (hf : CarriesFrom env (f ()) s) :
      CarriesFrom env (Tx.raiseIf (a.providerRefundId ≠ none)
        (.paymentDomain "非退款事件不得携带退款标识" 409) >>= f) s :=
    carriesFrom_bind (by simp) (by simp) fun _ _ => hf
  cases kind with
  | refunded =>
    cases h : a.providerRefundId.filter fun x => decide (x ≠ "") with
    | some providerRefundId => exact (carries_applyRefundEvent ..).from hs
    | none => exact (carries_raise _).from hs
  | paid => exact hraise _ hpaid
  | pending => exact hraise _ (hprogress .pending)
  | failed => exact hraise _ (hprogress .failed)
  | closed => exact hraise _ (hprogress .closed)

theorem carries_applyWebhook (a : WebhookArgs) : Carries env (applyWebhook a) := by
  unfold applyWebhook
  refine carries_bind (carries_raiseIf ..) fun _ =>
    carries_bind (carries_select _) fun existing => ?_
  cases existing with
  | some existing =>
    exact carries_bind (carries_raiseIf ..) fun _ => carries_bind carries_rollback
      fun _ => carries_pure _
  | none =>
    refine carries_bind (carries_select _) fun _ => carries_bind (carries_raiseIf ..) fun _ => ?_
    exact carries_dispatchEvent a

/-! ## Routes -/

theorem edit_of_note {test : Prop} {o o' : PaymentOrder} (hu : o'.userId = o.userId)
    (hp : o'.provider = o.provider)
    (hc : o'.creditAmountMicrousd = o.creditAmountMicrousd)
    (ht : o'.providerTransactionId = o.providerTransactionId)
    (hurl : o'.checkoutUrl = o.checkoutUrl) (hs : o'.status = o.status) :
    OrderEdit test o o' ∧ o.status.Progress o'.status := by
  refine ⟨⟨hu, hp, hc, fun h => ?_, fun _ h => .inl (ht.trans h)⟩, .inl hs⟩
  rw [PaymentOrder.Claimable, hs, ht, hurl] at h
  exact h

theorem carries_answerReconciliation (a : ReconcileAnswer) : Carries env (answerReconciliation a) :=
  carries_bind (carries_add (neutral_insertAction _)) fun _ =>
    carries_answering (carries_applyWebhook _)

theorem carries_closeReconciliation (a : ReconcileAnswer) (duplicate : Bool) :
    Carries env (closeReconciliation a duplicate) := by
  refine carries_bind ?_ fun _ => ?_
  · unfold auditDuplicate
    exact carries_ite _ (fun _ => carries_add (neutral_insertAction _)) fun _ => carries_pure _
  · refine carries_atomic ?_ fun s b t hs h => ?_
    · exact Tx.atomic_bind (by simp) fun _ => Tx.atomic_commit_return _
    · simp only [Tx.bind_ok, Tx.execute_ok, Tx.pure_ok] at h
      obtain ⟨_, _, ⟨d, hd, rfl⟩, _, _, hc, -, rfl⟩ := h
      refine updateOrders_commit hs (fun o _ => ?_) hd hc
      exact edit_of_note rfl rfl rfl rfl rfl rfl

theorem carries_applyReconciliation (a : ReconcileAnswer) : Carries env (applyReconciliation a) :=
  carries_bind (carries_add (neutral_insertAction _)) fun _ =>
    carries_bind (carries_answering (carries_applyWebhook _)) fun duplicate =>
      carries_closeReconciliation a duplicate

theorem carries_refundGranted (a : PrepareRefundArgs) : Carries env (refundGranted a) :=
  carries_bind (carries_select _) fun _ => carries_bind (carries_orRaise ..) fun _ =>
    carries_answering (carries_prepareRefund a)

theorem carries_refundUncertain (orderId refundId : Id) (orderReason refundReason : String) :
    Carries env (refundUncertain orderId refundId orderReason refundReason) := by
  refine carries_atomic ?_ fun s u t hs h => ?_
  · exact Tx.atomic_bind (by simp) fun _ => Tx.atomic_bind (by simp) fun _ => Tx.atomic_commit
  · simp only [refundUncertain, Tx.bind_ok, Tx.execute_ok, Tx.commit_ok] at h
    obtain ⟨_, _, ⟨d₁, h1, rfl⟩, _, _, ⟨d₂, h2, rfl⟩, d, ha, rfl⟩ := h
    refine ⟨?_, .pure⟩
    have m₁ : Moves env s.committed.books d₁.books := by
      refine updateOrders_moves hs (fun o _ => ?_) h1
      exact edit_of_note rfl rfl rfl rfl rfl rfl
    obtain ⟨-, rfl, -⟩ := updateRefunds_ok.1 h2
    have m₂ : Move env d₁.books _ := .reissue
      (fun r => decide (r.id = refundId) && decide (r.status = .requesting ∨ r.status = .retrying))
      (fun r => { r with status := .pendingReconciliation, riskReason := some refundReason })
        (fun _ => rfl)
      fun r _ hp => by
        simp only [Bool.and_eq_true, decide_eq_true_eq] at hp
        refine ⟨⟨rfl, rfl, rfl, fun _ => rfl⟩, ?_, rfl⟩
        rcases hp.2 with h | h <;> simp [h, RefundStatus.isActive]
    rw [applyAll_neutral hs.pending ha]
    exact .tail m₁ m₂

theorem carries_refundConfirmed (a : ApplyRefundArgs) (op : Operator)
    (operationId : String) (refundId : Id) :
    Carries env (refundConfirmed a op operationId refundId) := by
  refine carries_bind (carries_add (neutral_insertAction _)) fun _ => carries_answering ?_
  exact carries_bind (carries_applyRefund a) fun _ =>
    carries_bind carries_commit fun _ => carries_pure _

theorem carries_reconcileRequest (a : DecideArgs) : Carries env (reconcileRequest a) := by
  unfold reconcileRequest
  refine carries_bind (carries_select _) fun _ => carries_bind (carries_orRaise ..) fun record => ?_
  refine carries_bind (carries_add (neutral_insertAction _)) fun _ => ?_
  cases a.decision with
  | release =>
    refine carries_answering (carries_releaseModelRequest fun _ => ⟨?_, rfl, rfl⟩)
    simp [operatorRelease, RequestStatus.outstanding]
  | settle inputTokens outputTokens upstreamCost =>
    refine carries_bind (carries_answering (carries_settleModelRequest fun _ => ?_))
      fun _ => carries_pure _
    simp [operatorSettle, RequestStatus.outstanding]

end Kunlun
