import Kunlun.Raises.Billing
import Kunlun.Moves.Refunds

/-!
# Payments raise plain exceptions
-/

namespace Kunlun

/-! ## Accounts -/

theorem raises_registerIdentity (user : User) (s : Session DB) :
    Tx.Raises (registerIdentity user) s (·.isPlain) :=
  Tx.raises_bind (by simp) fun _ _ _ => Tx.raises_bind (by simp) fun _ _ _ => Tx.raises_commit rfl

theorem raises_applyUserFreeze (userId : Id) (now : Time) (s : Session DB) :
    Tx.Raises (applyUserFreeze userId now) s (·.isPlain) := by
  unfold applyUserFreeze
  refine Tx.raises_bind (by simp) fun found _ _ => ?_
  cases found with
  | none => simp
  | some _ =>
    refine Tx.raises_bind (by simp) fun _ _ _ => ?_
    iterate 4 refine Tx.raises_bind (Tx.raises_execute _ rfl) fun _ _ _ => ?_
    simp

theorem raises_consumeResetToken (tokenId : Id) (now : Time) (s : Session DB) :
    Tx.Raises (consumeResetToken tokenId now) s (·.isPlain) :=
  Tx.raises_execute _ rfl

theorem raises_resetPassword (a : ResetArgs) (s : Session DB) :
    Tx.Raises (resetPassword a) s (·.isPlain) := by
  unfold resetPassword
  refine Tx.raises_bind (by simp) fun found _ _ => ?_
  split
  · simp
  · refine Tx.raises_bind (by simp) fun user _ _ => ?_
    cases user with
    | none =>
      refine Tx.raises_bind (raises_consumeResetToken ..) fun _ _ _ => ?_
      exact Tx.raises_bind (Tx.raises_commit rfl) fun _ _ _ => by simp
    | some _ =>
      refine Tx.raises_bind (Tx.raises_lift fun e he => ?_) fun _ _ _ =>
        Tx.raises_bind (by simp) fun again _ _ => ?_
      · cases h : a.passwordHash with
        | ok x => simp [h, Except.mapError] at he
        | error m =>
          simp [h, Except.mapError] at he
          subst he
          rfl
      · cases again with
        | none => simp
        | some record =>
          refine Tx.raises_bind (raises_consumeResetToken ..) fun changed _ _ =>
            Tx.raises_ite (fun _ => ?_) fun _ => ?_
          · exact Tx.raises_bind (by simp) fun _ _ _ => by simp
          · refine Tx.raises_bind (by simp) fun _ _ _ =>
              Tx.raises_bind (Tx.raises_execute _ rfl) fun _ _ _ => ?_
            refine Tx.raises_bind (Tx.raises_execute _ rfl) fun _ _ _ => ?_
            exact Tx.raises_bind (Tx.raises_commit rfl) fun _ _ _ => by simp

theorem raises_issueEmailVerification (userId : Id) (a : TokenArgs) (s : Session DB) :
    Tx.Raises (issueEmailVerification userId a) s (·.isPlain) := by
  unfold issueEmailVerification consumeEmailTokens
  refine Tx.raises_bind (by simp) fun _ _ _ =>
    Tx.raises_bind (Tx.raises_orRaise rfl) fun _ _ _ => ?_
  refine Tx.raises_bind (Tx.raises_execute _ rfl) fun _ _ _ =>
    Tx.raises_bind (by simp) fun _ _ _ => ?_
  refine Tx.raises_bind (Tx.raises_commit rfl) fun _ _ _ =>
    Tx.raises_ite (fun _ => by simp) fun _ => ?_
  refine Tx.raises_bind (Tx.raises_execute _ rfl) fun _ _ _ => ?_
  exact Tx.raises_bind (Tx.raises_commit rfl) fun _ _ _ => Tx.raises_raise rfl

theorem raises_consumeEmailVerification (digest : String) (now : Time) (s : Session DB) :
    Tx.Raises (consumeEmailVerification digest now) s (·.isPlain) := by
  unfold consumeEmailVerification consumeEmailTokens
  refine Tx.raises_bind (by simp) fun found _ _ => ?_
  split
  · simp
  · refine Tx.raises_bind (by simp) fun user _ _ => ?_
    cases user with
    | none => exact Tx.raises_bind (by simp) fun _ _ _ => by simp
    | some user =>
      refine Tx.raises_bind (Tx.raises_execute _ rfl) fun changed _ _ =>
        Tx.raises_ite (fun _ => ?_) fun _ => ?_
      · exact Tx.raises_bind (by simp) fun _ _ _ => by simp
      · refine Tx.raises_bind (by simp) fun _ _ _ => ?_
        exact Tx.raises_bind (Tx.raises_commit rfl) fun _ _ _ => by simp

theorem raises_requestPasswordReset (email : String) (a : TokenArgs) (s : Session DB) :
    Tx.Raises (requestPasswordReset email a) s (·.isPlain) := by
  unfold requestPasswordReset consumeResetTokens
  refine Tx.raises_bind (by simp) fun found _ _ => ?_
  split
  · simp
  · refine Tx.raises_bind (Tx.raises_execute _ rfl) fun _ _ _ =>
      Tx.raises_bind (by simp) fun _ _ _ => ?_
    refine Tx.raises_bind (Tx.raises_commit rfl) fun _ _ _ =>
      Tx.raises_ite (fun _ => by simp) fun _ => ?_
    exact Tx.raises_bind (Tx.raises_execute _ rfl) fun _ _ _ => Tx.raises_commit rfl

theorem raises_login (a : LoginArgs) (s : Session DB) : Tx.Raises (login a) s (·.isPlain) :=
  Tx.raises_bind (by simp) fun _ _ _ => Tx.raises_bind (Tx.raises_orRaise rfl) fun _ _ _ =>
    Tx.raises_bind (by simp) fun _ _ _ => Tx.raises_commit rfl

theorem raises_logoutAll (userId : Id) (s : Session DB) :
    Tx.Raises (logoutAll userId) s (·.isPlain) :=
  Tx.raises_bind (Tx.raises_execute _ rfl) fun _ _ _ => Tx.raises_commit rfl

theorem raises_enforceKeyLimit (userId : Id) (maxActiveKeys : Int) (s : Session DB) :
    Tx.Raises (enforceKeyLimit userId maxActiveKeys) s fun e => e.isPlain ∧
    (Exc.http e.message 409).isPlain := by
  unfold enforceKeyLimit
  refine Tx.raises_bind (Tx.raises_raiseIf ⟨rfl, rfl⟩) fun _ _ _ =>
    Tx.raises_bind (by simp) fun _ _ _ => ?_
  refine Tx.raises_bind (Tx.raises_raiseIf ⟨rfl, rfl⟩) fun _ _ _ =>
    Tx.raises_bind (by simp) fun _ _ _ => ?_
  exact Tx.raises_raiseIf ⟨rfl, rfl⟩

theorem raises_createKey (a : KeyArgs) (s : Session DB) :
    Tx.Raises (createKey a) s (·.isPlain) := by
  have hlimit := raises_enforceKeyLimit a.userId a.maxActiveKeys s
  refine Tx.raises_bind (Tx.raises_tryExcept (hlimit.mono fun _ => And.left) fun e t h =>
    ?_) fun _ _ _ => ?_
  · exact Tx.raises_raise (hlimit.of_error e t h).2
  · exact Tx.raises_bind (by simp) fun _ _ _ => Tx.raises_commit rfl

theorem raises_revokeKey (userId keyId : Id) (s : Session DB) :
    Tx.Raises (revokeKey userId keyId) s (·.isPlain) :=
  Tx.raises_bind (Tx.raises_execute _ rfl) fun _ _ _ =>
    Tx.raises_bind (Tx.raises_rollbackIf rfl) fun _ _ _ =>
    Tx.raises_commit rfl

theorem raises_updateAccountStatus (a : AccountStatusArgs) (s : Session DB) :
    Tx.Raises (updateAccountStatus a) s (·.isPlain) := by
  unfold updateAccountStatus
  refine Tx.raises_bind (by simp) fun _ _ _ =>
    Tx.raises_bind (Tx.raises_orRaise rfl) fun user _ _ => ?_
  refine Tx.raises_bind ?_ fun _ _ _ => Tx.raises_bind (by simp) fun _ _ _ => Tx.raises_commit rfl
  unfold changeStatus
  refine Tx.raises_ite (fun _ => Tx.raises_ite (fun _ => by simp) fun _ => ?_) fun _ => ?_
  · exact Tx.raises_bind (raises_applyUserFreeze ..) fun _ _ _ => by simp
  · refine Tx.raises_bind (Tx.raises_raiseIf rfl) fun _ _ _ =>
      Tx.raises_bind (Tx.raises_raiseIf rfl) fun _ _ _ => ?_
    refine Tx.raises_bind (by simp) fun _ _ _ => Tx.raises_bind (Tx.raises_raiseIf rfl)
      fun _ _ _ => by simp

/-! ## Test payments -/

theorem raises_createTestOrder (a : TestOrderArgs) (s : Session DB) :
    Tx.Raises (createTestOrder a) s (·.isPlain) := by
  unfold createTestOrder
  split
  · exact Tx.raises_bind (by simp) fun _ _ _ => Tx.raises_bind (Tx.raises_commit rfl)
      fun _ _ _ => by simp
  · exact Tx.raises_raise rfl

theorem raises_overtaken {eventId rawDigest : String} {e : Exc} (he : e.isPlain) (s : Session DB) :
    Tx.Raises (overtaken eventId rawDigest e) s (·.isPlain) :=
  Tx.raises_bind (by simp) fun _ _ _ => Tx.raises_bind (by simp) fun _ _ _ =>
    Tx.raises_bind (Tx.raises_raiseIf he) fun _ _ _ => by simp

theorem length_pair {a b : Account} {x y : Int} (hab : a ≠ b) (hx : x ≠ 0) (hy : y ≠ 0) :
    2 ≤ (normalized [(a, x), (b, y)]).length :=
  two_le_normalized (.head _) (.tail _ (.head _)) (by simp [hab]) hx hy

theorem raises_creditTestOrder {a : TestWebhookArgs} {event : TestEvent} {amount : Int}
    {order : PaymentOrder}
    (hpos : 0 < amount) (s : Session DB) :
    Tx.Raises (creditTestOrder a event amount order) s (·.isPlain) := by
  unfold creditTestOrder
  refine Tx.raises_bind (by simp) fun _ _ _ =>
    Tx.raises_bind (Tx.raises_execute _ rfl) fun _ _ _ => ?_
  refine Tx.raises_ite (fun _ => raises_overtaken rfl _) fun _ => ?_
  refine Tx.raises_bind (Tx.raises_execute _ rfl) fun _ _ _ => ?_
  refine Tx.raises_bind (raises_postTransaction (length_pair (by simp) ?_ ?_) (by simp))
    fun _ _ _ => ?_
  · omega
  · omega
  · refine Tx.raises_bind (by simp) fun _ _ _ => ?_
    exact Tx.raises_bind (Tx.raises_commit rfl) fun _ _ _ => by simp

theorem raises_processTestWebhook (a : TestWebhookArgs) (s : Session DB) :
    Tx.Raises (processTestWebhook a) s (·.isPlain) := by
  unfold processTestWebhook
  refine Tx.raises_bind (Tx.raises_raiseIf rfl) fun _ _ _ =>
    Tx.raises_bind (Tx.raises_lift fun e he => ?_) fun event _ _ => ?_
  · cases h : a.body with
    | event _ => simp [h, TestBody.read] at he
    | notJson | notObject =>
      simp [h, TestBody.read] at he
      subst he
      rfl
  · refine Tx.raises_bind (Tx.raises_raiseIf rfl) fun _ _ _ =>
      Tx.raises_bind (Tx.raises_orRaise rfl) fun _ _ _ => ?_
    refine Tx.raises_bind (by simp) fun existing _ _ => ?_
    cases existing with
    | some existing => exact Tx.raises_bind (Tx.raises_raiseIf rfl) fun _ _ _ => by simp
    | none =>
      refine Tx.raises_bind (by simp) fun _ _ _ => Tx.raises_bind (Tx.raises_orRaise rfl)
        fun order _ _ => ?_
      refine Tx.raises_bind (Tx.raises_raiseIf rfl) fun _ _ hamount => ?_
      have heq := not_not.1 ((Tx.raiseIf_ok ..).1 hamount).1
      refine Tx.raises_ite (fun _ => raises_overtaken rfl _) fun _ => ?_
      have hpos := order.creditPositive
      exact Tx.raises_tryExcept (raises_creditTestOrder (by omega) _) fun _ _ _ =>
        raises_overtaken rfl _

/-! ## Orders -/

theorem raises_insertNewOrder (a : OrderArgs) (order : PaymentOrder) (s : Session DB) :
    Tx.Raises (insertNewOrder a order) s (·.isPlain) := by
  unfold insertNewOrder
  refine Tx.raises_bind (by simp) fun _ _ _ => Tx.raises_tryExcept ?_ fun _ _ _ => ?_
  · exact Tx.raises_bind (Tx.raises_commit rfl) fun _ _ _ => by simp
  · refine Tx.raises_bind (by simp) fun _ _ _ => Tx.raises_bind (by simp) fun _ _ _ => ?_
    refine Tx.raises_bind (Tx.raises_orRaise rfl) fun _ _ _ => ?_
    exact Tx.raises_bind (Tx.raises_raiseIf rfl) fun _ _ _ => by simp

theorem raises_insertBelowCap (a : OrderArgs) (order : PaymentOrder)
    (maxOpenOrders : Int) (s : Session DB) :
    Tx.Raises (insertBelowCap a order maxOpenOrders) s (·.isPlain) := by
  unfold insertBelowCap
  refine Tx.raises_bind (Tx.raises_raiseIf rfl) fun _ _ _ =>
    Tx.raises_bind (by simp) fun existing _ _ => ?_
  cases existing with
  | some existing =>
    refine Tx.raises_bind (Tx.raises_rollbackIf rfl) fun _ _ _ =>
      Tx.raises_bind (by simp) fun _ _ _ => by simp
  | none =>
    refine Tx.raises_bind (by simp) fun _ _ _ =>
      Tx.raises_bind (Tx.raises_rollbackIf rfl) fun _ _ _ => ?_
    exact raises_insertNewOrder ..

theorem raises_createOrder (a : OrderArgs) (s : Session DB) :
    Tx.Raises (createOrder a) s (·.isPlain) := by
  unfold createOrder
  split
  · refine Tx.raises_bind (Tx.raises_raiseIf rfl) fun _ _ _ =>
      Tx.raises_bind (Tx.raises_raiseIf rfl) fun _ _ _ => ?_
    refine Tx.raises_bind (by simp) fun _ _ _ =>
      Tx.raises_bind (Tx.raises_orRollback rfl) fun _ _ _ => ?_
    refine Tx.raises_bind (Tx.raises_rollbackIf rfl) fun _ _ _ =>
      Tx.raises_bind (by simp) fun existing _ _ => ?_
    split
    · exact Tx.raises_bind (Tx.raises_raiseIf rfl) fun _ _ _ => by simp
    · exact raises_insertBelowCap ..
    · exact raises_insertNewOrder ..
  · exact Tx.raises_raise rfl

theorem raises_prepareCheckout (orderId : Id) (now lease : Time) (s : Session DB) :
    Tx.Raises (prepareCheckout orderId now lease) s (·.isPlain) := by
  unfold prepareCheckout
  refine Tx.raises_bind (by simp) fun _ _ _ =>
    Tx.raises_bind (Tx.raises_orRaise rfl) fun _ _ _ => ?_
  refine Tx.raises_bind (by simp) fun _ _ _ =>
    Tx.raises_bind (Tx.raises_orRollback rfl) fun _ _ _ => ?_
  refine Tx.raises_bind (by simp) fun _ _ _ => Tx.raises_bind (Tx.raises_orRaise rfl)
    fun order _ _ => ?_
  refine Tx.raises_ite (fun _ => Tx.raises_bind (by simp) fun _ _ _ => by simp) fun _ =>
    Tx.raises_ite (fun _ => ?_) fun _ => ?_
  · refine Tx.raises_bind (Tx.raises_rollbackIf rfl) fun _ _ _ =>
      Tx.raises_bind (Tx.raises_execute _ rfl) fun _ _ _ => ?_
    refine Tx.raises_bind (Tx.raises_rollbackIf rfl) fun _ _ _ =>
      Tx.raises_bind (Tx.raises_commit rfl) fun _ _ _ => ?_
    exact Tx.raises_raise rfl
  · refine Tx.raises_bind (Tx.raises_rollbackIf rfl) fun _ _ _ =>
      Tx.raises_bind (Tx.raises_execute _ rfl) fun _ _ _ => ?_
    refine Tx.raises_bind (Tx.raises_rollbackIf rfl) fun _ _ _ =>
      Tx.raises_bind (Tx.raises_commit rfl) fun _ _ _ => ?_
    simp

theorem raises_updateCommit (f : DB → Option (DB × Nat)) (s : Session DB) :
    Tx.Raises (do let _ ← Tx.execute f; Tx.commit : Service Unit) s (·.isPlain) :=
  Tx.raises_bind (Tx.raises_execute _ rfl) fun _ _ _ => Tx.raises_commit rfl

theorem raises_checkoutAnswered (orderId : Id) (checkout : CheckoutResult) (s : Session DB) :
    Tx.Raises (checkoutAnswered orderId checkout) s (·.isPlain) :=
  Tx.raises_bind (Tx.raises_execute _ rfl) fun _ _ _ =>
    Tx.raises_bind (Tx.raises_rollbackIf rfl) fun _ _ _ => Tx.raises_commit rfl

theorem raises_claimReconciliation (a : ReconcileArgs) (s : Session DB) :
    Tx.Raises (claimReconciliation a) s (·.isPlain) := by
  unfold claimReconciliation
  refine Tx.raises_bind (by simp) fun _ _ _ => Tx.raises_bind (Tx.raises_orRaise rfl)
    fun order _ _ => ?_
  refine Tx.raises_bind (Tx.raises_rollbackIf rfl) fun _ _ _ =>
    Tx.raises_bind (Tx.raises_raiseIf rfl) fun _ _ _ => ?_
  refine Tx.raises_bind (Tx.raises_rollbackIf rfl) fun _ _ _ =>
    Tx.raises_bind (by simp [setOrder]) fun _ _ _ => ?_
  refine Tx.raises_bind (by simp) fun _ _ _ => Tx.raises_bind (Tx.raises_commit rfl)
    fun _ _ _ => by simp

end Kunlun
