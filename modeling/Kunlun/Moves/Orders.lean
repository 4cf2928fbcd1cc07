import Kunlun.Effects
import Kunlun.Moves.Billing
import Kunlun.Routes

/-!
# Orders and their checkouts move the books
-/

namespace Kunlun

variable {env : Env}

/-! ## Test payments -/

theorem atomic_createTestOrder (a : TestOrderArgs) : Tx.Atomic (createTestOrder a) := by
  unfold createTestOrder
  split
  · exact Tx.atomic_bind (by simp) fun _ => by simp
  · exact (Tx.quiet_raise _).atomic

theorem createTestOrder_moves (a : TestOrderArgs) (d : DB)
    (hfresh : env.orderId d.books a.orderId) :
    Moves env d.books (Tx.run (createTestOrder a) d).2.books := by
  refine run_moves (atomic_createTestOrder ..) fun o t h => ?_
  unfold createTestOrder at h
  split at h
  · rename_i hamount
    simp [Session.fresh, insertOrder_ok] at h
    obtain ⟨⟨orders, ⟨hi, huser, -⟩, rfl⟩, -⟩ := h
    have m : Move env d.books _ := .place (testOrder a hamount.1) hfresh (mem_users.2 huser) rfl hi
    exact .single m
  · simp at h

@[simp]
theorem quiet_overtaken (eventId rawDigest : String) (e : Exc) :
    Tx.Quiet (overtaken eventId rawDigest e) := by
  unfold overtaken
  repeat refine Tx.quiet_bind (by simp) fun _ => ?_
  simp

theorem atomic_creditTestOrder (a : TestWebhookArgs) (event : TestEvent) (amount : Int)
    (order : PaymentOrder) :
    Tx.Atomic (creditTestOrder a event amount order) := by
  unfold creditTestOrder
  repeat refine Tx.atomic_bind (by simp) fun _ => ?_
  refine Tx.atomic_ite _ (quiet_overtaken ..).atomic ?_
  repeat refine Tx.atomic_bind (by simp) fun _ => ?_
  simp

theorem atomic_processTestWebhook (a : TestWebhookArgs) : Tx.Atomic (processTestWebhook a) := by
  unfold processTestWebhook
  repeat refine Tx.atomic_bind (by simp) fun _ => ?_
  split
  · exact Tx.atomic_bind (by simp) fun _ => (Tx.quiet_pure _).atomic
  · repeat refine Tx.atomic_bind (by simp) fun _ => ?_
    exact Tx.atomic_ite _ (quiet_overtaken ..).atomic
      (Tx.atomic_tryExcept (atomic_creditTestOrder ..) fun _ => (quiet_overtaken ..).atomic)

theorem creditTestOrder_moves {a : TestWebhookArgs} {event : TestEvent}
    {order : PaymentOrder} {d : DB}
    {t : Session DB} {b : Bool} (htest : env.test) (found : d.orders.get? order.id = some order)
    (hprovider : order.provider = "test_hmac") (hpending : order.status = .pending)
    (h : creditTestOrder a event order.creditAmountMicrousd order (.fresh d) = (.ok b, t)) :
    Moves env d.books t.committed.books := by
  simp only [creditTestOrder, Tx.bind_ok, Tx.add_ok, Tx.execute_ok, Session.fresh,
    Tx.ite_ok, Tx.commit_ok, Tx.pure_ok] at h
  obtain ⟨_, _, rfl, n, _, ⟨d₁, hd, rfl⟩, ⟨-, h⟩ | ⟨hn, h⟩⟩ := h
  · rw [(quiet_overtaken ..).eq h]
  · obtain rfl := not_not.1 hn
    obtain ⟨-, -, -, rfl⟩ := updateOrders_one hd
    obtain ⟨_, _, ⟨_, hw, rfl⟩, _, _, hpost, _, _, rfl, _, _, ⟨_, hout, rfl⟩, -, rfl⟩ := h
    obtain ⟨rfl, -⟩ := Prod.mk.inj (Option.some.inj hw)
    obtain ⟨j, d₂, ledger, hpend, hj, hkey, hl, rfl⟩ := postTransaction_moves hpost
    have hbooks := applyAll_neutral (by simp [neutral_insertEvent]) hpend
    obtain rfl : _ = _ := by simpa [DB.insertOutbox] using hout
    have hledger : d.books.ledger.insert? j = some ledger := by
      rw [show d.books.ledger = d₂.books.ledger by rw [hbooks]; rfl]
      exact hl
    have hpend' : order.status.isOpen := by simp [hpending, OrderStatus.isOpen]
    have m : Move env d.books _ := .credit order
      (fun o => { o with status := .paid, providerTransactionId := some event.eventId })
        (fun _ => rfl) j .credit
      found hpend' ⟨rfl, rfl, rfl, by simp [PaymentOrder.Claimable], fun _ _ => .inr ⟨htest,
        hprovider⟩⟩ rfl rfl
      (by simpa using hj) hledger
        ⟨"test_hmac:" ++ event.eventId, by rw [hkey, ← String.append_assoc]; rfl⟩
    change Moves env d.books { d₂.books with ledger := ledger }
    rw [hbooks]
    exact .single m

theorem processTestWebhook_moves (a : TestWebhookArgs) (d : DB) (htest : env.test) :
    Moves env d.books (Tx.run (processTestWebhook a) d).2.books := by
  refine run_moves (atomic_processTestWebhook _) fun b t h => ?_
  simp only [processTestWebhook, Tx.bind_ok, Tx.raiseIf_ok, Tx.lift_ok, Tx.orRaise_ok,
    Tx.select_ok] at h
  obtain ⟨_, _, ⟨-, rfl⟩, event, _, ⟨-, rfl⟩, _, _, ⟨-, rfl⟩, amount, _, ⟨-, rfl⟩, existing,
    _, ⟨-, rfl⟩, h⟩ := h
  cases existing with
  | some existing =>
    simp only [Tx.bind_ok, Tx.raiseIf_ok, Tx.pure_ok] at h
    obtain ⟨_, _, ⟨-, rfl⟩, -, rfl⟩ := h
    exact .refl
  | none =>
    simp only [Tx.bind_ok, Tx.raiseIf_ok, Tx.orRaise_ok, Tx.select_ok, Tx.ite_ok,
      Tx.tryExcept_ok] at h
    obtain ⟨_, _, ⟨rfl, rfl⟩, order, _, ⟨hfound, rfl⟩, _, _, ⟨hamount, rfl⟩,
      ⟨-, h⟩ | ⟨hpending, h⟩⟩ := h
    · rw [(quiet_overtaken ..).eq h]
      exact .refl
    · obtain ⟨hget, hprovider⟩ := Option.filter_eq_some_iff.1 hfound
      have hid := Table.key_of_get? hget
      obtain rfl := not_not.1 hamount
      rcases h with h | ⟨e, s', hraise, -, h⟩
      · exact creditTestOrder_moves htest (by rw [hid]; exact hget) (by simpa using hprovider)
          (not_not.1 hpending) h
      · have := (atomic_creditTestOrder ..).committed _ e (by rw [hraise])
        rw [hraise] at this
        rw [(quiet_overtaken ..).eq h, this]
        exact .refl

/-! ## Live orders -/

@[simp]
theorem atomic_insertNewOrder (a : OrderArgs) (order : PaymentOrder) :
    Tx.Atomic (insertNewOrder a order) := by
  unfold insertNewOrder
  refine Tx.atomic_bind (by simp) fun _ => Tx.atomic_tryExcept (by simp) fun _ => Tx.Quiet.atomic ?_
  repeat refine Tx.quiet_bind (by simp) fun _ => ?_
  simp

theorem atomic_insertBelowCap (a : OrderArgs) (order : PaymentOrder) (maxOpenOrders : Int) :
    Tx.Atomic (insertBelowCap a order maxOpenOrders) := by
  unfold insertBelowCap
  refine Tx.atomic_bind (by simp) fun _ => Tx.atomic_bind (by simp) fun existing => ?_
  cases existing with
  | some existing =>
    repeat refine Tx.atomic_bind (by simp) fun _ => ?_
    exact (Tx.quiet_pure _).atomic
  | none =>
    refine Tx.atomic_bind (by simp) fun _ => Tx.atomic_bind (by simp) fun _ => ?_
    exact atomic_insertNewOrder ..

theorem atomic_createOrder (a : OrderArgs) : Tx.Atomic (createOrder a) := by
  unfold createOrder
  split
  · repeat refine Tx.atomic_bind (by simp) fun _ => ?_
    split
    · exact Tx.atomic_bind (by simp) fun _ => (Tx.quiet_pure _).atomic
    · exact atomic_insertBelowCap ..
    · exact atomic_insertNewOrder ..
  · exact (Tx.quiet_raise _).atomic

theorem insertNewOrder_moves {a : OrderArgs} {order o : PaymentOrder} {d : DB} {t : Session DB}
    (hfresh : env.orderId d.books order.id) (hstatus : order.status = .pending)
    (h : insertNewOrder a order (.fresh d) = (.ok o, t)) : Moves env d.books t.committed.books := by
  simp only [insertNewOrder, Tx.bind_ok, Tx.add_ok, Tx.tryExcept_ok, Tx.commit_ok, Tx.pure_ok,
    Session.fresh] at h
  obtain ⟨_, _, rfl, ⟨_, _, ⟨d', hd, rfl⟩, -, rfl⟩ | ⟨e, s', he, -, h⟩⟩ := h
  · simp only [List.nil_append, Tx.applyAll_cons, Tx.applyAll_nil, Option.some.injEq,
      exists_eq_right] at hd
    obtain ⟨orders, hi, ⟨huser, -⟩, rfl⟩ := insertOrder_ok.1 hd
    have m : Move env d.books _ := .place order hfresh (mem_users.2 huser) hstatus hi
    exact .single m
  · have hc := (Tx.atomic_commit_return order).committed _ e (by rw [he])
    rw [he] at hc
    simp only [Tx.rollback_ok, Tx.select_ok, Tx.orRaise_ok, Tx.raiseIf_ok] at h
    obtain ⟨_, _, rfl, _, _, ⟨-, rfl⟩, _, _, ⟨-, rfl⟩, _, _, ⟨-, rfl⟩, -, rfl⟩ := h
    rw [show (Session.fresh s'.committed).committed = s'.committed from rfl, hc]

theorem insertBelowCap_moves {a : OrderArgs} {order o : PaymentOrder} {maxOpenOrders : Int} {d : DB}
    {t : Session DB} (hfresh : env.orderId d.books order.id) (hstatus : order.status = .pending)
    (h : insertBelowCap a order maxOpenOrders (.fresh d) = (.ok o, t)) :
    Moves env d.books t.committed.books := by
  simp only [insertBelowCap, Tx.bind_ok, Tx.raiseIf_ok, Tx.select_ok] at h
  obtain ⟨_, _, ⟨-, rfl⟩, found, _, ⟨-, rfl⟩, h⟩ := h
  cases found with
  | some existing =>
    simp only [Tx.bind_ok, Tx.rollbackIf_ok, Tx.rollback_ok, Tx.pure_ok] at h
    obtain ⟨_, _, ⟨-, rfl⟩, _, _, rfl, -, rfl⟩ := h
    exact .refl
  | none =>
    simp only [Tx.bind_ok, Tx.rollbackIf_ok, Tx.select_ok] at h
    obtain ⟨_, _, ⟨-, rfl⟩, _, _, ⟨-, rfl⟩, h⟩ := h
    exact insertNewOrder_moves hfresh hstatus h

theorem createOrder_moves (a : OrderArgs) (d : DB) (hfresh : env.orderId d.books a.orderId) :
    Moves env d.books (Tx.run (createOrder a) d).2.books := by
  refine run_moves (atomic_createOrder a) fun o t h => ?_
  unfold createOrder at h
  split at h
  · simp only [Tx.bind_ok, Tx.raiseIf_ok, Tx.select_ok, Tx.orRollback_ok, Tx.rollbackIf_ok] at h
    obtain ⟨_, _, ⟨-, rfl⟩, _, _, ⟨-, rfl⟩, _, _, ⟨-, rfl⟩, _, _, ⟨-, rfl⟩, _, _, ⟨-, rfl⟩,
      existing, _, ⟨-, rfl⟩, h⟩ := h
    cases existing with
    | some existing =>
      simp only [Tx.bind_ok, Tx.raiseIf_ok, Tx.pure_ok] at h
      obtain ⟨_, _, ⟨-, rfl⟩, -, rfl⟩ := h
      exact .refl
    | none =>
      cases hcap : a.maxOpenOrders with
      | none =>
        simp only [hcap] at h
        exact insertNewOrder_moves hfresh rfl h
      | some maxOpenOrders =>
        simp only [hcap] at h
        exact insertBelowCap_moves hfresh rfl h
  · simp at h

/-! ## Checkouts -/

theorem updateOrders_moves {s : Session DB} {p : PaymentOrder → Bool}
    {f : PaymentOrder → PaymentOrder}
    {hf : ∀ o, (f o).id = o.id} {d : DB} {n : Nat} (hs : Staged s)
    (edit : ∀ o, p o → OrderEdit env.test o (f o) ∧ o.status.Progress (f o).status)
    (h : DB.updateOrders p f hf s.work = some (d, n)) : Moves env s.committed.books d.books := by
  rw [← hs.work]
  obtain ⟨-, rfl, -⟩ := updateOrders_ok.1 h
  have m : Move env s.work.books _ := .progress p f hf fun o _ hp => edit o hp
  exact .single m

theorem updateOrders_commit {s t : Session DB} {p : PaymentOrder → Bool}
    {f : PaymentOrder → PaymentOrder}
    {hf : ∀ o, (f o).id = o.id} {d : DB} {n : Nat} {u : Unit} (hs : Staged s)
    (edit : ∀ o, p o → OrderEdit env.test o (f o) ∧ o.status.Progress (f o).status)
    (h : DB.updateOrders p f hf s.work = some (d, n))
    (hc : (Tx.commit : Service Unit) { s with work := d } = (.ok u, t)) :
    Moves env s.committed.books t.committed.books ∧ Staged t := by
  have m := updateOrders_moves hs edit h
  obtain ⟨d', ha, rfl⟩ := (Tx.commit_ok ..).1 hc
  refine ⟨?_, .pure⟩
  rw [applyAll_neutral hs.pending ha]
  exact m

theorem carries_expireCheckoutClaim (order : PaymentOrder) (now lease : Time) :
    Carries env (expireCheckoutClaim order now lease) := by
  unfold expireCheckoutClaim
  refine carries_bind (carries_rollbackIf ..) fun _ => ⟨fun s hs => ?_, fun s r t hs h => ?_⟩
  · refine Tx.leaves_bind ((Tx.quiet_execute _).leaves .refl) fun n t h => ?_
    obtain ⟨d, hd, rfl⟩ := (Tx.execute_ok ..).1 h
    refine Tx.leaves_bind ((Tx.quiet_rollbackIf ..).leaves .refl) fun _ t h => ?_
    obtain ⟨-, rfl⟩ := (Tx.rollbackIf_ok ..).1 h
    have key (u : Unit) (t : Session DB)
        (hc : (Tx.commit : Service Unit) { s with work := d } = (.ok u, t)) :
        Moves env s.committed.books t.committed.books := by
      refine (updateOrders_commit hs (fun o hq => ?_) hd hc).1
      simp only [Bool.and_eq_true, decide_eq_true_eq] at hq
      exact ⟨OrderEdit.of_same rfl rfl rfl rfl (by simp),
        .inr ⟨by simp [hq.2.1, OrderStatus.isOpen], .inl rfl⟩⟩
    exact Tx.leaves_bind (Tx.atomic_commit.leaves .refl key) fun u t hc =>
      (Tx.quiet_raise _).leaves (key u t hc)
  · simp at h

theorem carries_claimCheckout (order : PaymentOrder) (now : Time) :
    Carries env (claimCheckout order now) := by
  unfold claimCheckout
  refine carries_bind (carries_rollbackIf ..) fun _ => carries_atomic ?_ fun s r t hs h => ?_
  · refine Tx.atomic_bind (by simp) fun _ => Tx.atomic_bind (by simp) fun _ => ?_
    exact Tx.atomic_commit_return _
  · simp only [Tx.bind_ok, Tx.execute_ok, Tx.rollbackIf_ok, Tx.pure_ok] at h
    obtain ⟨n, _, ⟨d, hd, rfl⟩, _, _, ⟨-, rfl⟩, _, _, hc, -, rfl⟩ := h
    refine updateOrders_commit hs (fun o hq => ?_) hd hc
    simp only [Bool.and_eq_true, decide_eq_true_eq] at hq
    exact ⟨OrderEdit.of_same rfl rfl rfl rfl (by simp [claimedOrder]),
      .inr ⟨by simp [hq.2.1, OrderStatus.isOpen], .inl rfl⟩⟩

theorem carries_prepareCheckout (orderId : Id) (now lease : Time) :
    Carries env (prepareCheckout orderId now lease) := by
  unfold prepareCheckout
  refine carries_bind (carries_select _) fun _ => carries_bind (carries_orRaise ..) fun _ => ?_
  refine carries_bind (carries_select _) fun _ => carries_bind (carries_orRollback ..) fun _ => ?_
  refine carries_bind (carries_select _) fun _ => carries_bind (carries_orRaise ..) fun order => ?_
  refine carries_ite _ (fun _ => carries_bind carries_rollback fun _ => carries_pure _) fun _ => ?_
  exact carries_ite _ (fun _ => carries_expireCheckoutClaim ..) fun _ => carries_claimCheckout ..

theorem carries_updateOrders (p : PaymentOrder → Bool) (f : PaymentOrder → PaymentOrder)
    (hf : ∀ o, (f o).id = o.id)
    (edit : ∀ o, p o → OrderEdit env.test o (f o) ∧ o.status.Progress (f o).status) :
    Carries env (do
      let _ ← Tx.execute (DB.updateOrders p f hf)
      Tx.commit : Service Unit) := by
  refine carries_atomic (Tx.atomic_bind (by simp) fun _ => Tx.atomic_commit) fun s u t hs h => ?_
  simp only [Tx.bind_ok, Tx.execute_ok] at h
  obtain ⟨n, _, ⟨d, hd, rfl⟩, hc⟩ := h
  exact updateOrders_commit hs edit hd hc

theorem carries_checkoutFailed (orderId : Id) (code : String) :
    Carries env (checkoutFailed orderId code) := by
  refine carries_updateOrders _ _ _ fun o hq => ?_
  simp only [Bool.and_eq_true, decide_eq_true_eq] at hq
  have hopen : o.status.isOpen := by simp [hq.2, OrderStatus.isOpen]
  exact ⟨OrderEdit.of_same rfl rfl rfl rfl (by simp), .inr ⟨hopen, .inl rfl⟩⟩

theorem carries_keepReconciling (orderId : Id) (reason : String) :
    Carries env (keepReconciling orderId reason) := by
  refine carries_updateOrders _ _ _ fun o hq => ?_
  simp only [Bool.and_eq_true, decide_eq_true_eq] at hq
  have hopen : o.status.isOpen := by
    rcases hq.2 with h | h <;> simp [h, OrderStatus.isOpen]
  exact ⟨OrderEdit.of_same rfl rfl rfl rfl (by simp), .inr ⟨hopen, .inl rfl⟩⟩

theorem carries_checkoutAnswered (orderId : Id) (checkout : CheckoutResult) :
    Carries env (checkoutAnswered orderId checkout) := by
  unfold checkoutAnswered
  refine carries_atomic ?_ fun s u t hs h => ?_
  · exact Tx.atomic_bind (by simp) fun _ => Tx.atomic_bind (by simp) fun _ => Tx.atomic_commit
  · simp only [Tx.bind_ok, Tx.execute_ok, Tx.rollbackIf_ok] at h
    obtain ⟨n, _, ⟨d, hd, rfl⟩, _, _, ⟨-, rfl⟩, hc⟩ := h
    refine updateOrders_commit hs (fun o hq => ?_) hd hc
    simp only [Bool.and_eq_true, decide_eq_true_eq] at hq
    refine ⟨⟨rfl, rfl, rfl, fun h => ?_, fun t ht => ?_⟩,
      .inr ⟨by simp [hq.2.1, OrderStatus.isOpen], .inl ?_⟩⟩
    · exact absurd h.2.1 (by simp [checkedOutOrder])
    · simp [hq.2.2] at ht
    · simp only [checkedOutOrder]
      split <;> rfl

/-! ## Reconciliation claims -/

theorem flushOrder_moves {i : Id} {f : PaymentOrder → PaymentOrder}
    {hf : ∀ o, (f o).id = o.id} {d d' : DB}
    (edit : ∀ o, d.orders.get? i = some o → OrderEdit env.test o (f o) ∧
      o.status.Progress (f o).status)
    (h : DB.flushing (DB.updateOrders (fun o => o.id = i) f hf) d = some d') :
    Moves env d.books d'.books := by
  obtain ⟨-, rfl⟩ := flushOrders_ok.1 h
  have m : Move env d.books _ := .progress (fun o => o.id = i) f hf fun o ho hp =>
    edit o (by rw [← of_decide_eq_true hp]; exact Table.get?_of_mem ho)
  exact .single m

theorem carries_claimReconciliation (a : ReconcileArgs) : Carries env (claimReconciliation a) := by
  unfold claimReconciliation
  refine carries_atomic ?_ fun s o t hs h => ?_
  · repeat refine Tx.atomic_bind (by simp [setOrder]) fun _ => ?_
    exact Tx.atomic_commit_return _
  · simp only [Tx.bind_ok, Tx.select_ok, Tx.orRaise_ok, Tx.rollbackIf_ok, Tx.raiseIf_ok,
      setOrder, Tx.add_ok, Tx.commit_ok, Tx.pure_ok] at h
    obtain ⟨_, _, ⟨rfl, rfl⟩, order, _, ⟨hfound, rfl⟩, _, _, ⟨-, rfl⟩, _, _, ⟨hopen, rfl⟩, _, s,
      ⟨-, rfl⟩, _, _, rfl, _, _, rfl, _, _, ⟨d, hd, rfl⟩, -, rfl⟩ := h
    obtain ⟨hget, -⟩ := Option.filter_eq_some_iff.1 hfound
    refine ⟨?_, .pure⟩
    simp only [Tx.applyAll_append, Tx.applyAll_cons, Tx.applyAll_nil, Option.some.injEq,
      exists_eq_right] at hd
    obtain ⟨d₂, ⟨d₁, h1, h3⟩, h4⟩ := hd
    have hbooks := applyAll_neutral hs.pending h1
    have horders : d₁.orders = s.work.orders := congrArg Books.orders hbooks
    have m : Moves env d₁.books d₂.books := flushOrder_moves (fun o ho => ?_) h3
    · rw [neutral_insertAction _ _ _ h4, ← hs.work, ← hbooks]
      exact m
    · rw [horders, Table.key_of_get? hget, hget] at ho
      obtain rfl := Option.some.inj ho
      exact ⟨OrderEdit.of_same rfl rfl rfl rfl (by simp [reconcilingOrder]),
        .inr ⟨by simpa using hopen, .inl rfl⟩⟩

end Kunlun
