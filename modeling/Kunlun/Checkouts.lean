import Kunlun.Gateway

/-!
# One checkout for an order

A checkout is claimed once in the life of its order, an answer that comes late changes
nothing, and the transaction id of the provider is written once.
-/

namespace Kunlun

/-! ## The claim -/

/-- The call may create the checkout of the order. -/
def Op.claims (orderId : Id) (op : Op) (d : DB) : Bool :=
  match op with
  | .prepareCheckout i now lease =>
    match (Tx.run (Kunlun.prepareCheckout i now lease) d).1 with
    | .ok (_, claimed) => decide (i = orderId) && claimed
    | .error _ => false
  | _ => false

/-- The order is there, and its checkout can no longer be claimed. -/
def Claimed (orderId : Id) (d : DB) : Prop := ∃ o, d.orders.get? orderId = some o ∧ ¬ o.Claimable

/-- A claim finds an order that may be claimed, and leaves one that may not. -/
theorem prepareCheckout_claims {orderId : Id} {now lease : Time} {d : DB}
    {r : PaymentOrder} {t : Session DB}
    (h : prepareCheckout orderId now lease (.fresh d) = (.ok (r, true), t)) :
    (∃ o, d.orders.get? orderId = some o ∧ o.Claimable) ∧ Claimed orderId t.committed := by
  simp only [prepareCheckout, Tx.bind_ok, Tx.select_ok, Tx.orRaise_ok, Tx.orRollback_ok] at h
  obtain ⟨_, _, ⟨-, rfl⟩, _, _, ⟨-, rfl⟩, _, _, ⟨-, rfl⟩, _, _, ⟨-, rfl⟩, _, _, ⟨rfl, rfl⟩, order,
    _, ⟨hfound, rfl⟩, h⟩ := h
  have hfound : d.orders.get? orderId = some order := hfound
  obtain rfl := Table.key_of_get? hfound
  split at h
  · simp at h
  · split at h
    · simp [expireCheckoutClaim] at h
    · simp only [claimCheckout, Tx.bind_ok, Tx.rollbackIf_ok, Tx.execute_ok,
        Tx.commit_ok, Tx.pure_ok] at h
      obtain ⟨_, _, ⟨hopen, rfl⟩, n, _, ⟨d', hd, rfl⟩, _, _, ⟨hn, rfl⟩, _, _,
        ⟨d'', hc, rfl⟩, -, rfl⟩ := h
      obtain rfl := not_not.1 hn
      obtain ⟨o, ho, -, rfl⟩ := updateOrders_one hd
      obtain rfl := Option.some.inj hc
      obtain rfl := Option.some.inj (hfound.symm.trans ho)
      push Not at hopen
      exact ⟨⟨order, hfound, hopen⟩, claimedOrder now order,
        Table.get?_modify_self hfound (claimedOrder now)
          (fun _ => rfl), by simp [PaymentOrder.Claimable, claimedOrder]⟩

theorem Op.claims_spec {orderId : Id} {op : Op} {d : DB} (h : op.claims orderId d) :
    (∃ o, d.orders.get? orderId = some o ∧ o.Claimable) ∧ Claimed orderId (exec op d) := by
  cases op with
  | prepareCheckout i now lease =>
    simp only [Op.claims] at h
    split at h
    · rename_i r claimed hrun
      simp only [Bool.and_eq_true, decide_eq_true_eq] at h
      obtain ⟨rfl, rfl⟩ := h
      rw [exec, Op.service, run_discard]
      exact prepareCheckout_claims (Prod.ext hrun rfl)
    · cases h
  | _ => cases h

/-! ## What no call changes -/

/-- The calls from any database, with the test adapter or without it. -/
def Env.adapter (test : Prop) : Env := ⟨fun _ _ => True, fun _ _ => True, test, False⟩

theorem exec_order {test : Prop} {op : Op} {d : DB} (htest : op.onTestAdapter → test)
    {i : Id} {o : PaymentOrder}
    (h : d.orders.get? i = some o) : ∃ o', (exec op d).orders.get? i = some o' ∧
    OrderPath test o o' :=
  have m : Moves (.adapter test) d.books (exec op d).books :=
    exec_moves htest ⟨nofun, fun _ _ => trivial, fun _ _ => trivial⟩
  Moves.order m h

theorem Claimed.exec {orderId : Id} {d : DB} (h : Claimed orderId d) (op : Op) :
    Claimed orderId (exec op d) := by
  obtain ⟨o, ho, hc⟩ := h
  obtain ⟨o', ho', hp⟩ := exec_order (fun _ => trivial) ho
  exact ⟨o', ho', fun h => hc (hp.edit.claimable h)⟩

theorem claims_once (orderId : Id) (d : DB) (ops : List Op) :
    Run.count exec (Op.claims orderId) d ops ≤ 1 := by
  refine Run.count_le_one (I := fun _ => True)
    (fun _ _ _ _ => trivial) (fun s op _ _ h => (Op.claims_spec h).2)
      (fun s op _ _ hs => ⟨?_, hs.exec op⟩) trivial
    (Run.along_of_forall d fun _ _ _ => trivial)
  cases hc : op.claims orderId s with
  | false => rfl
  | true =>
    obtain ⟨o, ho, hno⟩ := hs
    obtain ⟨o', ho', hyes⟩ := (Op.claims_spec hc).1
    obtain rfl := Option.some.inj (ho.symm.trans ho')
    exact absurd hyes hno

theorem after_order {test : Prop} {d : DB} {ops : List Op}
    (hops : ∀ op ∈ ops, op.onTestAdapter → test) {i : Id}
    {o : PaymentOrder} (h : d.orders.get? i = some o) :
    ∃ o', (Run.after exec d ops).orders.get? i = some o' ∧ OrderPath test o o' := by
  induction ops generalizing d o with
  | nil => exact ⟨o, h, .refl o⟩
  | cons op rest ih =>
    obtain ⟨o₁, h1, hp⟩ := exec_order (hops op (.head _)) h
    obtain ⟨o₂, h2, hp'⟩ := ih (fun op hop => hops op (.tail _ hop)) h1
    exact ⟨o₂, h2, hp.trans hp'⟩

/-! ## Late answers -/

theorem updateOrders_frame {p : PaymentOrder → Bool} {f : PaymentOrder → PaymentOrder}
    {hf : ∀ o, (f o).id = o.id}
    {d e : DB} {n : Nat} {o : PaymentOrder} (h : DB.updateOrders p f hf d = some (e, n))
    (ho : d.orders.get? o.id = some o) (hp : p o = false) : e.orders.get? o.id = some o := by
  obtain ⟨-, rfl, -⟩ := updateOrders_ok.1 h
  refine (Table.get?_update d.orders p f hf o.id).trans ?_
  rw [ho]
  simp [hp]

theorem atomic_checkoutFailed (orderId : Id) (code : String) :
    Tx.Atomic (checkoutFailed orderId code) :=
  Tx.atomic_bind (by simp) fun _ => by simp

theorem atomic_checkoutAnswered (orderId : Id) (checkout : CheckoutResult) :
    Tx.Atomic (checkoutAnswered orderId checkout) :=
  Tx.atomic_bind (by simp) fun _ => Tx.atomic_bind (by simp) fun _ => by simp

theorem checkoutFailed_frame {orderId : Id} {code : String} {d : DB} {o : PaymentOrder}
    (ho : d.orders.get? o.id = some o) (hs : o.id ≠ orderId ∨ o.status ≠ .checkoutRequesting) :
    (exec (.checkoutFailed orderId code) d).orders.get? o.id = some o := by
  rw [exec, Op.service, run_discard]
  rcases Tx.run_cases (atomic_checkoutFailed orderId code) d with heq | ⟨u, t, h, heq⟩ <;> rw [heq]
  · exact ho
  · simp only [checkoutFailed, Tx.bind_ok, Tx.execute_ok, Tx.commit_ok] at h
    obtain ⟨n, _, ⟨e, he, rfl⟩, d', hc, rfl⟩ := h
    obtain rfl := Option.some.inj hc
    exact updateOrders_frame he ho (by rcases hs with hs | hs <;> simp [hs])

theorem checkoutAnswered_frame {orderId : Id} {checkout : CheckoutResult}
    {d : DB} {o : PaymentOrder}
    (ho : d.orders.get? o.id = some o) (hs : o.id ≠ orderId ∨ o.status ≠ .checkoutRequesting) :
    (exec (.checkoutAnswered orderId checkout) d).orders.get? o.id = some o := by
  rw [exec, Op.service, run_discard]
  rcases Tx.run_cases (atomic_checkoutAnswered orderId checkout) d with
    heq | ⟨u, t, h, heq⟩ <;> rw [heq]
  · exact ho
  · simp only [checkoutAnswered, Tx.bind_ok, Tx.execute_ok, Tx.rollbackIf_ok, Tx.commit_ok] at h
    obtain ⟨n, _, ⟨e, he, rfl⟩, _, _, ⟨-, rfl⟩, d', hc, rfl⟩ := h
    obtain rfl := Option.some.inj hc
    exact updateOrders_frame he ho (by rcases hs with hs | hs <;> simp [hs])

/-! ## Runs -/

/-- One checkout for an order, no answer after the claim has ended, and one transaction id: in every
run for the orders of a live provider, and for all orders where the test adapter is not at work. -/
theorem checkout_once (d : DB) (ops : List Op) :
    (∀ orderId, Run.count exec (Op.claims orderId) d ops ≤ 1) ∧
    (∀ o ∈ (Run.after exec d ops).orders.rows, o.status ≠ .checkoutRequesting →
      ∀ orderId code checkout, (exec (.checkoutFailed orderId code)
        (Run.after exec d ops)).orders.get? o.id = some o ∧
      (exec (.checkoutAnswered orderId checkout) (Run.after exec d ops)).orders.get? o.id =
        some o) ∧
    ∀ o ∈ (Run.after exec d ops).orders.rows, ∀ t, o.providerTransactionId = some t →
      (o.provider ≠ "test_hmac" → ∀ more : List Op,
        ∃ o', (Run.after exec d (ops ++ more)).orders.get? o.id = some o' ∧
          o'.providerTransactionId = some t) ∧
      ∀ more : List Op, (∀ op ∈ more, op.onTestAdapter = false) →
        ∃ o', (Run.after exec d (ops ++ more)).orders.get? o.id = some o' ∧
          o'.providerTransactionId = some t := by
  refine ⟨fun orderId => claims_once orderId d ops, fun o ho hs orderId code checkout => ?_,
    fun o ho t ht => ?_⟩
  · have hget := Table.get?_of_mem ho
    exact ⟨checkoutFailed_frame hget (.inr hs), checkoutAnswered_frame hget (.inr hs)⟩
  · have hkept (more : List Op) (htest : ∀ op ∈ more, op.onTestAdapter → o.provider ≠ "test_hmac") :
        ∃ o', (Run.after exec d (ops ++ more)).orders.get? o.id = some o' ∧
          o'.providerTransactionId = some t := by
      rw [Run.after_append]
      obtain ⟨o', ho', hp⟩ := after_order htest (Table.get?_of_mem ho)
      rcases hp.edit.transaction t ht with h | ⟨hne, heq⟩
      · exact ⟨o', ho', h⟩
      · exact absurd heq hne
    exact ⟨fun hlive more => hkept more fun _ _ _ => hlive,
      fun more hmore => hkept more fun op hop htest => by simp [hmore op hop] at htest⟩

/-- A checkout that the provider has answered. -/
def checkout : List Op := [
  .registerIdentity ⟨"u", "u@example.com", "", .active, some 0⟩,
  .createOrder ⟨"u", "provider", 100, "CNY", true, 500, "q", 5, 1, "key", some 3, "o"⟩,
  .prepareCheckout "o" 0 checkoutClaimLease,
  .checkoutAnswered "o" ⟨"pending", "https://example.com", "transaction"⟩]

theorem checkout_once_answered :
    Run.count exec (Op.claims "o") DB.empty checkout = 1 ∧
      ∃ o, (Run.after exec DB.empty (checkout ++ [.checkoutFailed "o" "late"])).orders.get? "o" =
        some o ∧
        o.providerTransactionId = some "transaction" :=
  have honce := (checkout_once DB.empty checkout).2.2
    ⟨"o", "u", "provider", 500, some 100, some "CNY", 5, 1, some "q", some "key", .pending,
      some "transaction", some "https://example.com", none, none, none, by decide⟩
    (by decide +kernel) "transaction" rfl
  ⟨by decide +kernel, honce.1 (by decide) [.checkoutFailed "o" "late"]⟩

end Kunlun
