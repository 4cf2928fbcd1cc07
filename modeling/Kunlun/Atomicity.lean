import Kunlun.Moves.Webhook

/-!
# What a call that raises leaves behind

A money operation commits once, as the last thing it does, and so leaves nothing when it
raises. Where `apply_webhook` commits after `apply_refund` has, nothing is left to write.
-/

namespace Kunlun

/-! ## Refunds -/

theorem flushed_conflictsAs_commit {α : Type} (e : Exc) (a : α) :
    Tx.Flushed (conflictsAs e Tx.commit >>= fun _ => pure a : Service α) := by
  constructor
  intro s b t h
  simp only [Tx.bind_ok, conflictsAs_ok, Tx.commit_ok, Tx.pure_ok] at h
  obtain ⟨_, _, ⟨d, -, rfl⟩, -, rfl⟩ := h
  rfl

theorem flushed_finishRefund (a : ApplyRefundArgs) (order : PaymentOrder) (refund : PaymentRefund) :
    Tx.Flushed (finishRefund a order refund) :=
  Tx.flushed_bind fun _ => Tx.flushed_bind fun _ => flushed_conflictsAs_commit ..

theorem flushed_reverseCredit (a : ApplyRefundArgs) (order : PaymentOrder)
    (refund : PaymentRefund) :
    Tx.Flushed (reverseCredit a order refund) := by
  refine Tx.flushed_bind fun _ => Tx.flushed_bind fun wallet => Tx.flushed_ite _ ?_ ?_
  · exact Tx.flushed_bind fun _ => Tx.flushed_bind fun _ => Tx.flushed_bind fun _ =>
      flushed_finishRefund ..
  · refine Tx.flushed_bind fun _ => Tx.flushed_bind fun _ => Tx.flushed_bind fun _ => ?_
    exact Tx.flushed_bind fun _ => Tx.flushed_bind fun _ => flushed_finishRefund ..

theorem applyRefund_returns {a : ApplyRefundArgs} {s t : Session DB} {r : PaymentRefund}
    (h : applyRefund a s = (.ok r, t)) : t.committed = s.committed ∨ t.pending = [] := by
  simp only [applyRefund, Tx.bind_ok, Tx.select_ok, Tx.orRaise_ok] at h
  obtain ⟨_, _, ⟨-, rfl⟩, _, _, ⟨-, rfl⟩, found, _, ⟨-, rfl⟩, existing, _, ⟨-, rfl⟩, h⟩ := h
  cases hdone : existing.filter fun r => r.status = .refunded ∨ r.status = .risk with
  | some refund =>
    simp only [hdone, Tx.bind_ok, Tx.raiseIf_ok, Tx.pure_ok] at h
    obtain ⟨_, _, ⟨-, rfl⟩, -, rfl⟩ := h
    exact .inl rfl
  | none =>
    simp only [hdone, Tx.bind_ok] at h
    obtain ⟨order, _, -, _, _, -, _, _, -, _, _, -, refund, s₁, -, h⟩ := h
    exact .inr ((flushed_reverseCredit a order refund).pending s₁ r t h)

theorem atomic_prepareRefund (a : PrepareRefundArgs) : Tx.Atomic (prepareRefund a) := by
  have hregrant (existing : PaymentRefund) (p : PaymentRefund → Bool)
    (next : RefundStatus) (now : Time) :
      Tx.Atomic (regrantRefund existing p next now) :=
    Tx.atomic_bind (by simp) fun _ => Tx.atomic_bind (by simp) fun _ => Tx.atomic_commit_return _
  have hreclaim (existing : PaymentRefund) (now lease : Time) :
      Tx.Atomic (reclaimRefund existing now lease) := by
    unfold reclaimRefund
    split
    · exact Tx.atomic_bind (by simp) fun _ => (Tx.quiet_pure _).atomic
    · exact Tx.atomic_bind (by simp) fun _ => (Tx.quiet_pure _).atomic
    · exact Tx.atomic_bind (by simp) fun _ => hregrant ..
    · exact Tx.atomic_bind (by simp) fun _ => hregrant ..
    · exact Tx.atomic_bind (by simp) fun _ => (Tx.quiet_raise _).atomic
    · exact hregrant ..
  unfold prepareRefund
  refine Tx.atomic_bind (by simp) fun _ => Tx.atomic_bind (by simp) fun existing => ?_
  cases existing with
  | none => exact atomic_commandRefund a
  | some existing => exact hreclaim ..

/-! ## Events -/

theorem atomic_completeRefund (a : WebhookArgs) (order : PaymentOrder)
    (key providerRefundId : String) :
    Tx.Atomic (completeRefund a order key providerRefundId) :=
  Tx.atomic_bind (Tx.quiet_add _) fun _ =>
    Tx.atomic_then_commit (atomic_applyRefund _) (fun _ _ _ h => applyRefund_returns h)
      fun _ => Tx.returns_pure _

theorem atomic_applyRefundEvent (a : WebhookArgs) (order : PaymentOrder)
    (providerRefundId : String) :
    Tx.Atomic (applyRefundEvent a order providerRefundId) := by
  unfold applyRefundEvent
  split
  · refine Tx.atomic_bind (by simp) fun _ => Tx.atomic_bind (by simp) fun _ => ?_
    refine Tx.atomic_bind (Tx.quiet_add _) fun _ => ?_
    exact Tx.atomic_then (atomic_conflictsAs Tx.atomic_commit) fun _ => Tx.returns_pure _
  · refine Tx.atomic_bind (by simp) fun active => ?_
    split
    · exact Tx.atomic_bind (by simp) fun _ => atomic_completeRefund ..
    · exact (Tx.quiet_raise _).atomic
  · exact atomic_completeRefund ..
  · exact (Tx.quiet_raise _).atomic

theorem atomic_applyProgressEvent (a : WebhookArgs) (order : PaymentOrder) (kind : EventStatus) :
    Tx.Atomic (applyProgressEvent a order kind) := by
  refine Tx.atomic_bind (by simp) fun _ => Tx.atomic_bind (Tx.quiet_add _) fun _ => ?_
  refine Tx.atomic_bind (Tx.quiet_add _) fun _ => ?_
  exact Tx.atomic_then (atomic_conflictsAs Tx.atomic_commit) fun _ => Tx.returns_pure _

theorem atomic_applyPaidEvent (a : WebhookArgs) (order : PaymentOrder) :
    Tx.Atomic (applyPaidEvent a order) := by
  refine Tx.atomic_ite _ (atomic_creditOrder a order) ?_
  exact Tx.atomic_bind (by simp) fun _ => Tx.atomic_bind (by simp) fun _ => (Tx.quiet_pure _).atomic

theorem atomic_dispatchEvent (a : WebhookArgs) : Tx.Atomic (dispatchEvent a) := by
  unfold dispatchEvent
  repeat refine Tx.atomic_bind (by simp) fun _ => ?_
  split
  · exact atomic_applyRefundEvent ..
  · exact (Tx.quiet_raise _).atomic
  · refine Tx.atomic_bind (by simp) fun _ => ?_
    split
    · exact atomic_applyPaidEvent ..
    · exact atomic_applyProgressEvent ..

theorem atomic_applyWebhook (a : WebhookArgs) : Tx.Atomic (applyWebhook a) := by
  unfold applyWebhook
  refine Tx.atomic_bind (by simp) fun _ => Tx.atomic_bind (by simp) fun existing => ?_
  cases existing with
  | some existing =>
    exact Tx.atomic_bind (by simp) fun _ => Tx.atomic_bind (by simp) fun _ =>
      (Tx.quiet_pure _).atomic
  | none =>
    refine Tx.atomic_bind (by simp) fun _ => Tx.atomic_bind (by simp) fun _ =>
      atomic_dispatchEvent a

/-! ## Checkouts -/

/-- The order of a checkout whose claim has expired. -/
def expiredOrder (o : PaymentOrder) : PaymentOrder :=
  { o with status := .pendingReconciliation, riskReason := some "checkout_claim_expired" }

/-- What a raised `prepare_checkout` may have committed. -/
def CheckoutExpired (orderId : Id) (now lease : Time) (d d' : DB) : Prop :=
  ∃ o, d.orders.get? orderId = some o ∧ o.status = .checkoutRequesting ∧
    claimLive o.checkoutClaimStartedAt now lease = false ∧
    d' = { d with orders := d.orders.modify orderId expiredOrder fun _ => rfl }

theorem expireCheckoutClaim_leaves {order : PaymentOrder} (now lease : Time) {d : DB}
    (hfound : d.orders.get? order.id = some order) (hstatus : order.status = .checkoutRequesting) :
    Tx.Leaves (expireCheckoutClaim order now lease) (.fresh d) fun d' =>
      d' = d ∨ CheckoutExpired order.id now lease d d' := by
  refine Tx.leaves_bind ((Tx.quiet_rollbackIf ..).leaves (.inl rfl)) fun _ s h => ?_
  obtain ⟨hlive, rfl⟩ := (Tx.rollbackIf_ok ..).1 h
  refine Tx.leaves_bind ((Tx.quiet_execute _).leaves (.inl rfl)) fun n s h => ?_
  obtain ⟨d₁, hd, rfl⟩ := (Tx.execute_ok ..).1 h
  refine Tx.leaves_bind ((Tx.quiet_rollbackIf ..).leaves (.inl rfl)) fun _ s h => ?_
  obtain ⟨hn, rfl⟩ := (Tx.rollbackIf_ok ..).1 h
  obtain rfl := not_not.1 hn
  obtain ⟨o, ho, -, rfl⟩ := updateOrders_one hd
  have key : Tx.Leaves (Tx.commit : Service Unit)
      { Session.fresh d with work := { (Session.fresh d).work with
      orders := (Session.fresh d).work.orders.modify order.id expiredOrder
        fun _ => rfl } } fun d' =>
      d' = d ∨ CheckoutExpired order.id now lease d d' := by
    refine Tx.atomic_commit.leaves (.inl rfl) fun u t hc =>
      .inr ⟨order, hfound, hstatus, by simpa using hlive, ?_⟩
    obtain ⟨d₂, h₂, rfl⟩ := (Tx.commit_ok ..).1 hc
    exact (Option.some.inj h₂).symm
  refine Tx.leaves_bind key fun u t hc => (Tx.quiet_raise _).leaves ?_
  have hleft := key
  rw [Tx.Leaves] at hleft
  rw [← congrArg (fun r => r.2.committed) hc]
  exact hleft

theorem atomic_claimCheckout (order : PaymentOrder) (now : Time) :
    Tx.Atomic (claimCheckout order now) := by
  repeat refine Tx.atomic_bind (by simp) fun _ => ?_
  exact Tx.atomic_commit_return _

theorem prepareCheckout_raises {orderId : Id} {now lease : Time} {d : DB} {e : Exc}
    (h : (Tx.run (prepareCheckout orderId now lease) d).1 = .error e) :
    (Tx.run (prepareCheckout orderId now lease) d).2 = d ∨
      CheckoutExpired orderId now lease d (Tx.run (prepareCheckout orderId now lease) d).2 := by
  rw [Tx.run] at h ⊢
  rcases hrun : prepareCheckout orderId now lease (.fresh d) with ⟨r, t⟩
  rw [hrun] at h
  obtain rfl : r = .error e := h
  dsimp only
  unfold prepareCheckout at hrun
  obtain hc | ⟨_, -, hrun⟩ := Tx.read_bind_error (by simp) (by simp) hrun
  · exact .inl hc
  obtain hc | ⟨_, -, hrun⟩ := Tx.read_bind_error (by simp) (by simp) hrun
  · exact .inl hc
  obtain hc | ⟨_, -, hrun⟩ := Tx.read_bind_error (by simp) (by simp) hrun
  · exact .inl hc
  obtain hc | ⟨_, -, hrun⟩ := Tx.read_bind_error (by simp) (by simp) hrun
  · exact .inl hc
  obtain hc | ⟨_, hfound, hrun⟩ := Tx.read_bind_error (by simp) (by simp) hrun
  · exact .inl hc
  obtain hc | ⟨order, horder, hbranch⟩ := Tx.read_bind_error (by simp) (by simp) hrun
  · exact .inl hc
  obtain ⟨rfl, -⟩ := (Tx.select_ok ..).1 hfound
  have horder : d.orders.get? orderId = some order := ((Tx.orRaise_ok ..).1 horder).1
  obtain rfl := Table.key_of_get? horder
  by_cases hknown : truthy order.checkoutUrl ∧ truthy order.providerTransactionId
  · rw [if_pos hknown] at hbranch
    cases hbranch
  rw [if_neg hknown] at hbranch
  by_cases hstatus : order.status = .checkoutRequesting
  · rw [if_pos hstatus] at hbranch
    have hleft := expireCheckoutClaim_leaves now lease horder hstatus
    rw [Tx.Leaves, hbranch] at hleft
    exact hleft
  · rw [if_neg hstatus] at hbranch
    have := (atomic_claimCheckout order now).committed (.fresh d) e (by rw [hbranch])
    rw [hbranch] at this
    exact .inl this

/-- A money operation that raises has committed nothing, in any session; the checkout of an
order may have ended a claim that had expired. -/
theorem raised_leaves_no_trace :
    (∀ a, Tx.Atomic (createOrder a)) ∧ (∀ a, Tx.Atomic (applyWebhook a)) ∧
    (∀ a, Tx.Atomic (prepareRefund a)) ∧
    (∀ a, Tx.Atomic (applyRefund a)) ∧ (∀ a, Tx.Atomic (resolveRefundRisk a)) ∧
    (∀ a, Tx.Atomic (reserveModelRequest a)) ∧ (∀ a, Tx.Atomic (settleModelRequest a)) ∧
    (∀ a, Tx.Atomic (releaseModelRequest a)) ∧
    (∀ userId amount budgetId now createdAt,
      Tx.Atomic (createBudget userId amount budgetId now createdAt)) ∧
    ∀ orderId now lease d e, (Tx.run (prepareCheckout orderId now lease) d).1 = .error e →
      (Tx.run (prepareCheckout orderId now lease) d).2 = d ∨
        CheckoutExpired orderId now lease d (Tx.run (prepareCheckout orderId now lease) d).2 :=
  ⟨atomic_createOrder, atomic_applyWebhook, atomic_prepareRefund, atomic_applyRefund,
    fun a => (quiet_resolveRefundRisk a).atomic, atomic_reserveModelRequest,
      atomic_settleModelRequest,
    atomic_releaseModelRequest, atomic_createBudget, fun _ _ _ _ _ h => prepareCheckout_raises h⟩

/-- A checkout that has been claimed, and not answered. -/
def requestedCheckout : DB :=
  let registered := (Tx.run (registerIdentity ⟨"u", "u@example.com", "", .active, some 0⟩)
    DB.empty).2
  let ordered := (Tx.run (createOrder ⟨"u", "provider", 100, "CNY", true, 500, "q", 5, 1, "key",
    some 3, "o"⟩) registered).2
  (Tx.run (prepareCheckout "o" 0 checkoutClaimLease) ordered).2

theorem raised_leaves_no_trace_expired :
    CheckoutExpired "o" checkoutClaimLease checkoutClaimLease requestedCheckout
      (Tx.run (prepareCheckout "o" checkoutClaimLease checkoutClaimLease) requestedCheckout).2 := by
  rcases raised_leaves_no_trace.2.2.2.2.2.2.2.2.2 "o" checkoutClaimLease
    checkoutClaimLease requestedCheckout (.paymentDomain "支付创建状态不确定，已转人工对账" 503) (by rfl) with h | h
  · exact absurd (congrArg (fun d => (d.orders.get? "o").map (·.status)) h) (by decide +kernel)
  · exact h

end Kunlun
