import Kunlun.Raises.Payments

/-!
# Refunds, provider events and operators raise plain exceptions
-/

namespace Kunlun

/-! ## Refunds -/

theorem raises_regrantRefund (existing : PaymentRefund) (unchanged : PaymentRefund → Bool)
    (next : RefundStatus)
    (now : Time) (s : Session DB) :
    Tx.Raises (regrantRefund existing unchanged next now) s (·.isPlain) :=
  Tx.raises_bind (Tx.raises_execute _ rfl) fun _ _ _ =>
    Tx.raises_bind (Tx.raises_rollbackIf rfl) fun _ _ _ =>
    Tx.raises_bind (Tx.raises_commit rfl) fun _ _ _ => by simp

theorem raises_reclaimRefund (existing : PaymentRefund) (now lease : Time) (s : Session DB) :
    Tx.Raises (reclaimRefund existing now lease) s (·.isPlain) := by
  unfold reclaimRefund
  split
  · exact Tx.raises_bind (by simp) fun _ _ _ => by simp
  · exact Tx.raises_bind (by simp) fun _ _ _ => by simp
  · exact Tx.raises_bind (Tx.raises_rollbackIf rfl) fun _ _ _ => raises_regrantRefund ..
  · exact Tx.raises_bind (Tx.raises_rollbackIf rfl) fun _ _ _ => raises_regrantRefund ..
  · exact Tx.raises_bind (by simp) fun _ _ _ => Tx.raises_raise rfl
  · exact raises_regrantRefund ..

theorem raises_prepareRefund (a : PrepareRefundArgs) (s : Session DB) :
    Tx.Raises (prepareRefund a) s (·.isPlain) := by
  unfold prepareRefund
  refine Tx.raises_bind (Tx.raises_raiseIf rfl) fun _ _ _ =>
    Tx.raises_bind (by simp) fun existing _ _ => ?_
  cases existing with
  | some existing => exact raises_reclaimRefund ..
  | none =>
    refine Tx.raises_bind (by simp) fun _ _ _ =>
      Tx.raises_bind (Tx.raises_orRaise rfl) fun _ _ _ => ?_
    refine Tx.raises_bind (Tx.raises_orRaise rfl) fun _ _ _ =>
      Tx.raises_bind (Tx.raises_orRaise rfl) fun _ _ _ => ?_
    refine Tx.raises_bind (by simp) fun _ _ _ =>
      Tx.raises_bind (Tx.raises_execute _ rfl) fun _ _ _ => ?_
    refine Tx.raises_bind (Tx.raises_rollbackIf rfl) fun _ _ _ => ?_
    exact Tx.raises_bind (raises_conflictsAs (Tx.raises_commit rfl) rfl) fun _ _ _ => by simp

theorem raises_finishRefund (a : ApplyRefundArgs) (order : PaymentOrder)
    (refund : PaymentRefund) (s : Session DB) :
    Tx.Raises (finishRefund a order refund) s (·.isPlain) :=
  Tx.raises_bind (by simp [setOrder]) fun _ _ _ => Tx.raises_bind (by simp) fun _ _ _ =>
    Tx.raises_bind (raises_conflictsAs (Tx.raises_commit rfl) rfl) fun _ _ _ => by simp

theorem raises_reverseCredit (a : ApplyRefundArgs) (order : PaymentOrder)
    (refund : PaymentRefund) (s : Session DB) :
    Tx.Raises (reverseCredit a order refund) s (·.isPlain) := by
  have hpos := order.creditPositive
  unfold reverseCredit
  refine Tx.raises_bind (by simp) fun _ _ _ => Tx.raises_bind (Tx.raises_orRaise rfl)
    fun wallet _ _ => ?_
  refine Tx.raises_ite (fun _ => ?_) fun hshort => ?_
  · refine Tx.raises_bind (by simp [setBalance]) fun _ _ _ =>
      Tx.raises_bind (by simp [setRefund]) fun _ _ _ => ?_
    refine Tx.raises_bind (raises_postTransaction (length_pair (by simp) ?_ ?_) (by simp))
      fun _ _ _ => ?_
    · omega
    · omega
    · exact raises_finishRefund ..
  · refine Tx.raises_bind (by simp [setBalance]) fun _ _ _ =>
      Tx.raises_bind (raises_applyUserFreeze ..) fun _ _ _ => ?_
    refine Tx.raises_bind (by simp [setOrder]) fun _ _ _ =>
      Tx.raises_bind (by simp [setRefund]) fun _ _ _ => ?_
    refine Tx.raises_bind (raises_postTransaction ?_ ?_) fun _ _ _ => raises_finishRefund ..
    -- the balance is short of the credit, so the risk leg is written beside the clearing leg
    · refine two_le_normalized (.tail _ (.head _)) (.tail _ (.tail _ (.head _))) (by simp) ?_ ?_
      · simp only [ne_eq, neg_eq_zero]
        omega
      · simp only [ne_eq]
        omega
    · simp

theorem raises_applyRefund (a : ApplyRefundArgs) (s : Session DB) :
    Tx.Raises (applyRefund a) s (·.isPlain) := by
  unfold applyRefund
  refine Tx.raises_bind (by simp) fun _ _ _ =>
    Tx.raises_bind (Tx.raises_orRaise rfl) fun _ _ _ => ?_
  refine Tx.raises_bind (by simp) fun _ _ _ => Tx.raises_bind (by simp) fun existing _ _ => ?_
  split
  · exact Tx.raises_bind (Tx.raises_raiseIf rfl) fun _ _ _ => by simp
  · refine Tx.raises_bind (Tx.raises_orRaise rfl) fun _ _ _ =>
      Tx.raises_bind (Tx.raises_raiseIf rfl) fun _ _ _ => ?_
    refine Tx.raises_bind (Tx.raises_orRaise rfl) fun _ _ _ =>
      Tx.raises_bind (Tx.raises_orRaise rfl) fun _ _ _ => ?_
    refine Tx.raises_bind ?_ fun _ _ _ => raises_reverseCredit ..
    unfold openRefund
    cases existing with
    | none =>
      refine Tx.raises_bind (by simp) fun _ _ _ => ?_
      exact Tx.raises_bind (raises_conflictsAs (Tx.raises_flush rfl) rfl) fun _ _ _ => by simp
    | some refund =>
      refine Tx.raises_bind (Tx.raises_raiseIf rfl) fun _ _ _ =>
        Tx.raises_bind (Tx.raises_raiseIf rfl) fun _ _ _ => ?_
      exact Tx.raises_bind (by simp [setRefund]) fun _ _ _ => by simp

/-! ## Shortfalls -/

theorem length_dispositionEntries {outstanding : Int} (recovered : Int) (hpos : 0 < outstanding) :
    2 ≤ (normalized (dispositionEntries outstanding recovered)).length := by
  have hrisk : (Account.platformRisk, outstanding) ∈ dispositionEntries outstanding recovered := by
    simp [dispositionEntries]
  by_cases h : recovered = 0
  · have hloss : (Account.platformLoss, -(outstanding - recovered)) ∈ dispositionEntries
        outstanding recovered := by
      simp [dispositionEntries, h, hpos.ne']
    exact two_le_normalized hrisk hloss (by simp) (by simp; omega) (by simp; omega)
  · have havailable : (Account.customerAvailable, -recovered) ∈ dispositionEntries
        outstanding recovered := by
      simp [dispositionEntries, h]
    exact two_le_normalized hrisk havailable (by simp) (by simp; omega) (by simpa using h)

theorem sum_dispositionEntries (outstanding recovered : Int) :
    ((dispositionEntries outstanding recovered).map (·.2)).sum = 0 := by
  unfold dispositionEntries
  split_ifs <;> simp <;> omega

theorem raises_resolveRefundRisk (a : ResolveArgs) (s : Session DB) :
    Tx.Raises (resolveRefundRisk a) s (·.isPlain) := by
  unfold resolveRefundRisk
  refine Tx.raises_bind (Tx.raises_raiseIf rfl) fun _ _ _ =>
    Tx.raises_bind (by simp) fun _ _ _ => ?_
  refine Tx.raises_bind (Tx.raises_orRaise rfl) fun refund _ _ =>
    Tx.raises_bind (by simp) fun existing _ _ => ?_
  cases existing with
  | some existing => exact Tx.raises_bind (Tx.raises_raiseIf rfl) fun _ _ _ => by simp
  | none =>
    refine Tx.raises_bind (Tx.raises_raiseIf rfl) fun _ _ _ =>
      Tx.raises_bind (by simp) fun _ _ _ => ?_
    refine Tx.raises_bind (Tx.raises_orRaise rfl) fun _ _ _ =>
      Tx.raises_bind (by simp) fun net _ _ => ?_
    refine Tx.raises_bind (Tx.raises_raiseIf rfl) fun _ _ hnet =>
      Tx.raises_bind (by simp) fun _ _ _ => ?_
    have hpos := not_le.1 ((Tx.raiseIf_ok ..).1 hnet).1
    refine Tx.raises_bind (Tx.raises_orRaise rfl) fun wallet _ _ => ?_
    refine Tx.raises_bind (Tx.raises_raiseIf rfl) fun _ _ _ =>
      Tx.raises_bind (Tx.raises_raiseIf rfl) fun _ _ _ => ?_
    refine Tx.raises_bind (by simp [setBalance]) fun _ _ _ => ?_
    refine Tx.raises_bind (raises_postTransaction (length_dispositionEntries _ hpos)
      (sum_dispositionEntries ..)) fun _ _ _ => ?_
    refine Tx.raises_bind (by simp [setRefund]) fun _ _ _ =>
      Tx.raises_bind (by simp [setOrder]) fun _ _ _ => ?_
    exact Tx.raises_bind (by simp) fun _ _ _ => by simp

theorem raises_disposeRefundRisk (a : ResolveArgs) (op : Operator)
    (operationId : String) (s : Session DB) :
    Tx.Raises (disposeRefundRisk a op operationId) s (·.isPlain) := by
  refine raises_conflictsAs (raises_answering ?_) rfl
  refine Tx.raises_bind (raises_resolveRefundRisk ..) fun _ _ _ =>
    Tx.raises_bind (by simp) fun _ _ _ => ?_
  exact Tx.raises_bind (Tx.raises_commit rfl) fun _ _ _ => by simp

/-! ## Provider events -/

theorem raises_completeRefund (a : WebhookArgs) (order : PaymentOrder)
    (key providerRefundId : String)
    (s : Session DB) : Tx.Raises (completeRefund a order key providerRefundId) s (·.isPlain) :=
  Tx.raises_bind (by simp [recordEvent]) fun _ _ _ =>
    Tx.raises_bind (raises_applyRefund ..) fun _ _ _ =>
    Tx.raises_bind (Tx.raises_commit rfl) fun _ _ _ => by simp

theorem raises_applyRefundEvent (a : WebhookArgs) (order : PaymentOrder) (providerRefundId : String)
    (s : Session DB) : Tx.Raises (applyRefundEvent a order providerRefundId) s (·.isPlain) := by
  unfold applyRefundEvent
  split
  · refine Tx.raises_bind (by simp) fun _ _ _ =>
      Tx.raises_bind (Tx.raises_raiseIf rfl) fun _ _ _ => ?_
    refine Tx.raises_bind (by simp [recordEvent]) fun _ _ _ => ?_
    exact Tx.raises_bind (raises_conflictsAs (Tx.raises_commit rfl) rfl) fun _ _ _ => by simp
  · refine Tx.raises_bind (by simp) fun active _ _ => ?_
    split
    · exact Tx.raises_bind (Tx.raises_raiseIf rfl) fun _ _ _ => raises_completeRefund ..
    · exact Tx.raises_raise rfl
  · exact raises_completeRefund ..
  · exact Tx.raises_raise rfl

theorem raises_applyProgressEvent (a : WebhookArgs) (order : PaymentOrder)
    (kind : EventStatus) (s : Session DB) :
    Tx.Raises (applyProgressEvent a order kind) s (·.isPlain) :=
  Tx.raises_bind (Tx.raises_raiseIf rfl) fun _ _ _ =>
    Tx.raises_bind (by simp [recordEvent]) fun _ _ _ =>
    Tx.raises_bind (by simp [setOrder]) fun _ _ _ =>
      Tx.raises_bind (raises_conflictsAs (Tx.raises_commit rfl) rfl) fun _ _ _ => by simp

theorem raises_applyPaidEvent (a : WebhookArgs) (order : PaymentOrder) (s : Session DB) :
    Tx.Raises (applyPaidEvent a order) s (·.isPlain) := by
  have hpos := order.creditPositive
  refine Tx.raises_ite (fun _ => ?_) fun _ => ?_
  · unfold creditOrder
    refine Tx.raises_bind (by simp [recordEvent]) fun _ _ _ =>
      Tx.raises_bind (Tx.raises_execute _ rfl) fun _ _ _ => ?_
    refine Tx.raises_bind (Tx.raises_rollbackIf rfl) fun _ _ _ =>
      Tx.raises_bind (by simp) fun _ _ _ => ?_
    refine Tx.raises_bind (Tx.raises_orRaise rfl) fun _ _ _ =>
      Tx.raises_bind (by simp [setBalance]) fun _ _ _ => ?_
    refine Tx.raises_bind (raises_postTransaction (length_pair (by simp) ?_ ?_) (by simp))
      fun _ _ _ => ?_
    · omega
    · omega
    · refine Tx.raises_bind (by simp) fun _ _ _ => ?_
      exact Tx.raises_bind (raises_conflictsAs (Tx.raises_commit rfl) rfl) fun _ _ _ => by simp
  · exact Tx.raises_bind (Tx.raises_raiseIf rfl) fun _ _ _ =>
      Tx.raises_bind (by simp) fun _ _ _ => by simp

theorem raises_applyWebhook (a : WebhookArgs) (s : Session DB) :
    Tx.Raises (applyWebhook a) s (·.isPlain) := by
  unfold applyWebhook
  refine Tx.raises_bind (Tx.raises_raiseIf rfl) fun _ _ _ =>
    Tx.raises_bind (by simp) fun existing _ _ => ?_
  cases existing with
  | some existing =>
    exact Tx.raises_bind (Tx.raises_raiseIf rfl) fun _ _ _ =>
      Tx.raises_bind (by simp) fun _ _ _ => by simp
  | none =>
    refine Tx.raises_bind (by simp) fun _ _ _ =>
      Tx.raises_bind (Tx.raises_raiseIf rfl) fun _ _ _ => ?_
    unfold dispatchEvent
    refine Tx.raises_bind (by simp) fun _ _ _ => Tx.raises_bind (Tx.raises_orRaise rfl)
      fun order _ _ => ?_
    refine Tx.raises_bind (Tx.raises_raiseIf rfl) fun _ _ _ =>
      Tx.raises_bind (Tx.raises_raiseIf rfl) fun _ _ _ => ?_
    refine Tx.raises_bind (Tx.raises_orRaise rfl) fun kind _ _ => ?_
    split
    · exact raises_applyRefundEvent ..
    · exact Tx.raises_raise rfl
    · refine Tx.raises_bind (Tx.raises_raiseIf rfl) fun _ _ _ => ?_
      split
      · exact raises_applyPaidEvent ..
      · exact raises_applyProgressEvent ..

/-! ## Routes -/

theorem raises_applyReconciliation (a : ReconcileAnswer) (s : Session DB) :
    Tx.Raises (applyReconciliation a) s (·.isPlain) := by
  unfold applyReconciliation
  refine Tx.raises_bind (by simp) fun _ _ _ =>
    Tx.raises_bind (raises_answering (raises_applyWebhook ..)) fun _ _ _ => ?_
  refine Tx.raises_bind (Tx.raises_ite (fun _ => by simp) fun _ => by simp) fun _ _ _ => ?_
  exact Tx.raises_bind (Tx.raises_execute _ rfl) fun _ _ _ => Tx.raises_bind (Tx.raises_commit rfl)
    fun _ _ _ => by simp

theorem raises_refundGranted (a : PrepareRefundArgs) (s : Session DB) :
    Tx.Raises (refundGranted a) s (·.isPlain) :=
  Tx.raises_bind (by simp) fun _ _ _ => Tx.raises_bind (Tx.raises_orRaise rfl) fun _ _ _ =>
    raises_answering (raises_prepareRefund ..)

theorem raises_refundUncertain (orderId refundId : Id)
    (orderReason refundReason : String) (s : Session DB) :
    Tx.Raises (refundUncertain orderId refundId orderReason refundReason) s (·.isPlain) :=
  Tx.raises_bind (Tx.raises_execute _ rfl) fun _ _ _ => raises_updateCommit ..

theorem raises_refundConfirmed (a : ApplyRefundArgs) (op : Operator)
    (operationId : String) (refundId : Id)
    (s : Session DB) : Tx.Raises (refundConfirmed a op operationId refundId) s (·.isPlain) :=
  Tx.raises_bind (by simp) fun _ _ _ =>
    raises_answering (Tx.raises_bind (raises_applyRefund ..) fun _ _ _ =>
    Tx.raises_bind (Tx.raises_commit rfl) fun _ _ _ => by simp)

end Kunlun
