import Kunlun.Lib.Keeps
import Kunlun.Routes

/-!
# What the writes of the services keep

A relation on the tables is kept by a service if each statement of the service keeps it. The
statements are named here table by table, so that a relation is checked against them once.
-/

namespace Kunlun

abbrev Kept (K : Track DB) (w : DB → Option DB) : Prop := Tx.Kept K w

abbrev Keeps (K : Track DB) {α : Type} (x : Service α) : Prop := Tx.Keeps K x

/-- Most writes to a user freeze the account, or leave its status. -/
def UserEdit (u u' : User) : Prop := u'.status = .frozen ∨ u'.status = u.status

/-- The writes of credentials. What inserts sessions and keys of the API may be left out. -/
structure KeepsAccounts (K : Track DB) (issues : Prop := True) : Prop where
  accessSession : issues → ∀ x, Kept K (DB.insertAccessSession x)
  apiKey : issues → ∀ k, Kept K (DB.insertApiKey k)
  emailToken : ∀ t, Kept K (DB.insertEmailToken t)
  resetToken : ∀ t, Kept K (DB.insertResetToken t)
  users : ∀ p f hf, (∀ u, p u → UserEdit u (f u)) → Kept K (DB.flushing (DB.updateUsers p f hf))
  accessSessions : ∀ p, Kept K (DB.flushing
    (DB.updateAccessSessions p (fun x => { x with revoked := true }) DB.id_revokedSession))
  apiKeys : ∀ p, Kept K (DB.flushing
    (DB.updateApiKeys p (fun k => { k with status := .revoked }) DB.id_revokedKey))
  emailTokens : ∀ p f hf, Kept K (DB.flushing (DB.updateEmailTokens p f hf))
  resetTokens : ∀ p f hf, Kept K (DB.flushing (DB.updateResetTokens p f hf))
  outbox : ∀ x, Kept K (DB.insertOutbox x)
  action : ∀ x, Kept K (DB.insertAction x)

/-- The two writes that make an account active. -/
structure KeepsActivation (K : Track DB) : Prop where
  verify : ∀ userId now, Kept K (DB.flushing (DB.updateUsers (fun u => u.id = userId)
    fun u => { u with status := .active, emailVerifiedAt := some now }))
  unfreeze : ∀ userId, Kept K (DB.flushing (DB.updateUsers (fun u => u.id = userId)
    fun u => { u with status := .active }))

theorem of_insert_unique {T : Type} {t : Option T} {c : T → Bool} {put : T → DB} {e : DB}
    (h : (t.bind fun x => if c x then some (put x) else none) = some e) : ∃ x, e = put x := by
  obtain ⟨x, -, h⟩ := Option.bind_eq_some_iff.1 h
  obtain ⟨-, h⟩ := Option.ite_none_right_eq_some.1 h
  exact ⟨x, (Option.some.inj h).symm⟩

theorem of_insert {T : Type} {t : Option T} {put : T → DB} {e : DB}
    (h : t.map put = some e) : ∃ x, e = put x := by
  obtain ⟨x, -, h⟩ := Option.map_eq_some_iff.1 h
  exact ⟨x, h.symm⟩

theorem keepsAccounts_of {K : Track DB}
    (apart : ∀ d s k e r o a, K.rel d { d with
      accessSessions := s, apiKeys := k, emailTokens := e, resetTokens :=
        r, outbox := o, actions := a })
    (users : ∀ p f hf, (∀ u, p u → UserEdit u (f u)) →
      Kept K (DB.flushing (DB.updateUsers p f hf))) :
    KeepsAccounts K where
  users := users
  accessSession _ _ := ⟨fun d e h => by obtain ⟨t, rfl⟩ := of_insert_unique h; exact apart d t ..⟩
  apiKey _ _ := ⟨fun d e h => by obtain ⟨t, rfl⟩ := of_insert h; exact apart d _ t ..⟩
  emailToken _ := ⟨fun d e h => by obtain ⟨t, rfl⟩ := of_insert_unique h; exact apart d _ _ t ..⟩
  resetToken _ := ⟨fun d e h => by obtain ⟨t, rfl⟩ := of_insert_unique h; exact apart d _ _ _ t ..⟩
  accessSessions _ := ⟨fun d e h => by obtain rfl := Option.some.inj h; exact apart d ..⟩
  apiKeys _ := ⟨fun d e h => by obtain rfl := Option.some.inj h; exact apart d ..⟩
  emailTokens _ _ _ := ⟨fun d e h => by obtain rfl := Option.some.inj h; exact apart d ..⟩
  resetTokens _ _ _ := ⟨fun d e h => by obtain rfl := Option.some.inj h; exact apart d ..⟩
  outbox _ := ⟨fun d e h => by obtain rfl := Option.some.inj h; exact apart d ..⟩
  action _ := ⟨fun d e h => by obtain rfl := Option.some.inj h; exact apart d ..⟩

section Rules

variable {K : Track DB} {α β : Type}

theorem keeps_execute {f : DB → Option (DB × Nat)} (hf : Kept K (DB.flushing f)) :
    Keeps K (Tx.execute f : Service Nat) := Tx.keeps_execute hf

theorem keeps_conflictsAs {x : Service α} (e : Exc) (hx : Keeps K x) : Keeps K (conflictsAs e x) :=
  Tx.keeps_tryExcept hx fun _ => Tx.keeps_bind Tx.keeps_rollback fun _ => Tx.keeps_raise _

theorem keeps_answering {x : Service α} (hx : Keeps K x) : Keeps K (answering x) :=
  Tx.keeps_tryExcept hx fun _ => Tx.keeps_bind Tx.keeps_rollback fun _ => Tx.keeps_raise _

theorem keepsFrom_answering {x : Service α} {s : Session DB} (hx : Tx.KeepsFrom K s x) :
    Tx.KeepsFrom K s (answering x) :=
  Tx.keepsFrom_tryExcept hx (fun _ _ => rfl) fun e s a t h => by simp at h

theorem keeps_then_return {x : Service α} (hx : Keeps K x) (b : β) :
    Keeps K (x >>= fun _ => pure b) :=
  Tx.keeps_bind hx fun _ => Tx.keeps_pure b

end Rules

attribute [simp] Tx.keeps_pure Tx.keeps_raise Tx.keeps_lift Tx.keeps_select
  Tx.keeps_rollback Tx.keeps_raiseIf
  Tx.keeps_rollbackIf Tx.keeps_orRaise Tx.keeps_orRollback Tx.keeps_flush Tx.keeps_commit

/-! ## Accounts -/

namespace KeepsAccounts

variable {K : Track DB} {issues : Prop} (h : KeepsAccounts K issues)

include h

theorem applyUserFreeze (userId : Id) (now : Time) : Keeps K (applyUserFreeze userId now) := by
  refine Tx.keeps_bind (by simp) fun found => ?_
  cases found with
  | none => simp
  | some _ =>
    refine Tx.keeps_bind (Tx.keeps_add (h.users _ _ _ fun _ _ => .inl rfl)) fun _ => ?_
    refine Tx.keeps_bind (keeps_execute (h.apiKeys ..)) fun _ => ?_
    refine Tx.keeps_bind (keeps_execute (h.accessSessions ..)) fun _ => ?_
    refine Tx.keeps_bind (keeps_execute (h.emailTokens ..)) fun _ => ?_
    exact keeps_then_return (keeps_execute (h.resetTokens ..)) _

theorem issueEmailVerification (userId : Id) (a : TokenArgs) :
    Keeps K (issueEmailVerification userId a) := by
  refine Tx.keeps_bind (by simp) fun _ => Tx.keeps_bind (by simp) fun _ => ?_
  refine Tx.keeps_bind (keeps_execute (h.emailTokens ..)) fun _ => ?_
  refine Tx.keeps_bind (Tx.keeps_add (h.emailToken _)) fun _ => Tx.keeps_bind (by simp) fun _ => ?_
  refine Tx.keeps_ite _ (fun _ => by simp) fun _ => ?_
  refine Tx.keeps_bind (keeps_execute (h.emailTokens ..)) fun _ => ?_
  exact Tx.keeps_bind (by simp) fun _ => by simp

theorem consumeEmailVerification (ha : KeepsActivation K) (digest : String) (now : Time) :
    Keeps K (consumeEmailVerification digest now) := by
  refine Tx.keeps_bind (by simp) fun found => ?_
  split
  · simp
  · refine Tx.keeps_bind (by simp) fun user => ?_
    cases user with
    | none => exact keeps_then_return (by simp) _
    | some user =>
      refine Tx.keeps_bind (keeps_execute (h.emailTokens ..)) fun changed => ?_
      refine Tx.keeps_ite _ (fun _ => keeps_then_return (by simp) _) fun _ => ?_
      refine Tx.keeps_bind (Tx.keeps_add (ha.verify ..)) fun _ => ?_
      exact keeps_then_return (by simp) _

theorem requestPasswordReset (email : String) (a : TokenArgs) :
    Keeps K (requestPasswordReset email a) := by
  refine Tx.keeps_bind (by simp) fun found => ?_
  split
  · simp
  · refine Tx.keeps_bind (keeps_execute (h.resetTokens ..)) fun _ => ?_
    refine Tx.keeps_bind (Tx.keeps_add (h.resetToken _)) fun _ =>
      Tx.keeps_bind (by simp) fun _ => ?_
    refine Tx.keeps_ite _ (fun _ => by simp) fun _ => ?_
    exact Tx.keeps_bind (keeps_execute (h.resetTokens ..)) fun _ => by simp

theorem rotateCredentials (userId : Id) (passwordHash : String) :
    Keeps K (rotateCredentials userId passwordHash) := by
  refine Tx.keeps_bind (Tx.keeps_add (h.users _ _ _ fun _ _ => .inr rfl)) fun _ => ?_
  refine Tx.keeps_bind (keeps_execute (h.accessSessions ..)) fun _ => ?_
  refine Tx.keeps_bind (keeps_execute (h.apiKeys ..)) fun _ => ?_
  exact keeps_then_return (by simp) _

theorem resetPassword (a : ResetArgs) : Keeps K (resetPassword a) := by
  have hconsume (tokenId : Id) : Keeps K (consumeResetToken tokenId a.now) :=
    keeps_execute (h.resetTokens ..)
  refine Tx.keeps_bind (by simp) fun found => ?_
  split
  · simp
  · refine Tx.keeps_bind (by simp) fun user => ?_
    cases user with
    | none => exact Tx.keeps_bind (hconsume _) fun _ => keeps_then_return (by simp) _
    | some _ =>
      refine Tx.keeps_bind (by simp) fun _ => Tx.keeps_bind (by simp) fun again => ?_
      cases again with
      | none => simp
      | some record =>
        refine Tx.keeps_bind (hconsume _) fun changed => ?_
        exact Tx.keeps_ite _ (fun _ => keeps_then_return (by simp) _) fun _ =>
          h.rotateCredentials ..

theorem issueSession (hissues : issues) (a : LoginArgs) (user : User) :
    Keeps K (issueSession a user) :=
  Tx.keeps_bind (Tx.keeps_add (h.accessSession hissues _)) fun _ => by simp

theorem login (hissues : issues) (a : LoginArgs) : Keeps K (login a) :=
  Tx.keeps_bind (by simp) fun _ => Tx.keeps_bind (by simp) fun _ => h.issueSession hissues ..

theorem logoutAll (userId : Id) : Keeps K (logoutAll userId) :=
  Tx.keeps_bind (keeps_execute (h.accessSessions ..)) fun _ => by simp

omit h in
theorem enforceKeyLimit (userId : Id) (maxActiveKeys : Int) :
    Keeps K (enforceKeyLimit userId maxActiveKeys) := by
  unfold Kunlun.enforceKeyLimit
  repeat refine Tx.keeps_bind (by simp) fun _ => ?_
  simp

theorem createKey (hissues : issues) (a : KeyArgs) : Keeps K (createKey a) := by
  refine Tx.keeps_bind (Tx.keeps_tryExcept (enforceKeyLimit ..) fun _ => by simp) fun _ => ?_
  exact Tx.keeps_bind (Tx.keeps_add (h.apiKey hissues _)) fun _ => by simp

theorem revokeKey (userId keyId : Id) : Keeps K (revokeKey userId keyId) :=
  Tx.keeps_bind (keeps_execute (h.apiKeys ..)) fun _ => Tx.keeps_bind (by simp) fun _ => by simp

theorem updateAccountStatus {a : AccountStatusArgs} (ha : a.freeze = false → KeepsActivation K) :
    Keeps K (updateAccountStatus a) := by
  refine Tx.keeps_bind (by simp) fun _ => Tx.keeps_bind (by simp) fun user =>
    Tx.keeps_bind ?_ fun _ => ?_
  · refine Tx.keeps_ite _ (fun _ => Tx.keeps_ite _ (fun _ => by simp) fun _ => ?_) fun hf => ?_
    · exact keeps_then_return (h.applyUserFreeze ..) _
    · refine Tx.keeps_bind (by simp) fun _ => Tx.keeps_bind (by simp) fun _ => ?_
      refine Tx.keeps_bind (by simp) fun _ => Tx.keeps_bind (by simp) fun _ => ?_
      exact Tx.keeps_add ((ha (by simpa using hf)).unfreeze _)
  · exact Tx.keeps_bind (Tx.keeps_add (h.action _)) fun _ => by simp

end KeepsAccounts

/-! ## Money -/

/-- No operator has reconciled the order, and it has not ended. -/
def OrderStatus.isEarly : OrderStatus → Bool
  | .pending | .checkoutRequesting => true
  | _ => false

/-- Who opened an order, under which key, and on what quote. -/
def PaymentOrder.contract (o : PaymentOrder) :
    Id × Option String × String × Option Int × Option String × Int × Option String × Int × Int :=
  (o.userId, o.clientIdempotencyKey, o.provider, o.paymentAmountMinor, o.paymentCurrency,
    o.creditAmountMicrousd, o.quoteId, o.quoteNumerator, o.quoteDenominator)

/-- Most writes to an order leave its reconciliation claim, or end the order. -/
structure OrderStep (o o' : PaymentOrder) : Prop where
  contract : o'.contract = o.contract
  closed : o.status.isOpen = false → o'.status.isOpen = false
  late : o.status.isEarly = false → o'.status.isEarly = false
  claim : o'.status.isOpen → o'.reconciliationClaimStartedAt = o.reconciliationClaimStartedAt

section OrderStep

variable {o o' : PaymentOrder}

theorem OrderStep.same (hu : o'.contract = o.contract) (hs : o'.status = o.status)
    (hc : o'.reconciliationClaimStartedAt = o.reconciliationClaimStartedAt) : OrderStep o o' :=
  ⟨hu, fun h => by rw [hs, h], fun h => by rw [hs, h], fun _ => hc⟩

theorem OrderStep.opened (hu : o'.contract = o.contract) (hs : o.status.isOpen)
    (hc : o'.reconciliationClaimStartedAt = o.reconciliationClaimStartedAt)
    (hl : o.status.isEarly ∨ o'.status = .pendingReconciliation) : OrderStep o o' := by
  refine ⟨hu, fun h => by simp [h] at hs, fun h => ?_, fun _ => hc⟩
  rcases hl with hl | hl
  · simp [h] at hl
  · rw [hl]
    rfl

theorem OrderStep.ended (hu : o'.contract = o.contract)
    (hs : o'.status.isOpen = false) : OrderStep o o' := by
  refine ⟨hu, fun _ => hs, fun _ => ?_, fun h => by simp [hs] at h⟩
  cases h : o'.status <;> simp_all [OrderStatus.isOpen, OrderStatus.isEarly]

end OrderStep

/-- Most writes to a refund leave its claim, or end the refund. -/
structure RefundStep (r r' : PaymentRefund) : Prop where
  owner : r'.userId = r.userId
  command : r'.orderId = r.orderId ∧ r'.idempotencyKey = r.idempotencyKey
  claim : r'.status = r.status ∧ r'.claimStartedAt = r.claimStartedAt ∨ r'.status = .refunded ∨
    r'.status = .resolved

/-- The writes of wallets, orders, refunds and requests. -/
structure KeepsMoney (K : Track DB) (issues : Prop := True) :
    Prop extends KeepsAccounts K issues where
  user : ∀ u, Kept K (DB.insertUser u)
  wallet : ∀ w, Kept K (DB.insertWallet w)
  ledger : ∀ j, Kept K (DB.insertLedger j)
  order : ∀ o, Kept K (DB.insertOrder o)
  event : ∀ e, Kept K (DB.insertEvent e)
  refund : ∀ r, r.status ≠ .risk → Kept K (DB.insertRefund r)
  budget : ∀ b, Kept K (DB.insertBudget b)
  request : ∀ r, Kept K (DB.insertRequest r)
  wallets : ∀ p f hf, Kept K (DB.flushing (DB.updateWallets p f hf))
  orders : ∀ p f hf, (∀ o, p o → OrderStep o (f o)) → Kept K (DB.flushing (DB.updateOrders p f hf))
  refunds : ∀ p f hf, (∀ r, p r → RefundStep r (f r)) →
    Kept K (DB.flushing (DB.updateRefunds p f hf))
  budgets : ∀ p f hf, Kept K (DB.flushing (DB.updateBudgets p f hf))
  requests : ∀ p f hf, Kept K (DB.flushing (DB.updateRequests p f hf))

theorem of_update_unique {T : Type} {t : T} {c : Bool} {put : T → DB} {n : Nat} {e : DB}
    (h : Option.map Prod.fst (if c then some (put t, n) else none) = some e) : e = put t := by
  split at h
  · exact (Option.some.inj h).symm
  · cases h

/-- A relation that says nothing of wallets, journals, budgets and requests either is kept with
the writes of the other tables. -/
theorem keepsMoney_of {K : Track DB} {issues : Prop} (h : KeepsAccounts K issues)
    (apart : ∀ d w l b q, K.rel d { d with wallets := w, ledger := l, budgets := b, requests := q })
    (user : ∀ u, Kept K (DB.insertUser u)) (event : ∀ e, Kept K (DB.insertEvent e))
    (order : ∀ o, Kept K (DB.insertOrder o))
    (refund : ∀ r, r.status ≠ .risk → Kept K (DB.insertRefund r))
    (orders : ∀ p f hf, (∀ o, p o → OrderStep o (f o)) →
      Kept K (DB.flushing (DB.updateOrders p f hf)))
    (refunds : ∀ p f hf, (∀ r, p r → RefundStep r (f r)) →
      Kept K (DB.flushing (DB.updateRefunds p f hf))) :
    KeepsMoney K issues where
  toKeepsAccounts := h
  user := user
  event := event
  order := order
  refund := refund
  orders := orders
  refunds := refunds
  wallet _ := ⟨fun d e h => by obtain ⟨t, rfl⟩ := of_insert h; exact apart d t ..⟩
  ledger _ := ⟨fun d e h => by obtain ⟨t, rfl⟩ := of_insert h; exact apart d _ t ..⟩
  budget _ := ⟨fun d e h => by obtain ⟨t, rfl⟩ := of_insert h; exact apart d _ _ t ..⟩
  request _ := ⟨fun d e h => by obtain ⟨t, rfl⟩ := of_insert_unique h; exact apart d _ _ _ t⟩
  wallets _ _ _ := ⟨fun d e h => by obtain rfl := Option.some.inj h; exact apart d ..⟩
  budgets _ _ _ := ⟨fun d e h => by obtain rfl := Option.some.inj h; exact apart d ..⟩
  requests _ _ _ := ⟨fun d e h => by obtain rfl := Option.some.inj h; exact apart d ..⟩

/-- The write that puts a refund at risk. -/
structure KeepsRisk (K : Track DB) : Prop where
  atRisk : ∀ refundId, Kept K (DB.flushing (DB.updateRefunds (fun r => r.id = refundId)
    fun r => { r with status := .risk, riskReason := some "refund_balance_insufficient" }))

/-- The writes that grant a refund command again, and that give its claim up. -/
structure KeepsClaims (K : Track DB) : Prop where
  regrant : ∀ (refundId : Id) (unchanged : PaymentRefund → Bool) next now,
    next = .requesting ∨ next = .retrying →
    (∀ r, unchanged r → r.status.isActive) → Kept K (DB.flushing
      (DB.updateRefunds (fun r => decide (r.id = refundId) && unchanged r)
        (reclaimedRefund next now)))
  uncertain : ∀ refundId reason, Kept K (DB.flushing (DB.updateRefunds
    (fun r => decide (r.id = refundId) && decide (r.status = .requesting ∨ r.status = .retrying))
    fun r => { r with status := .pendingReconciliation, riskReason := some reason }))

/-- The writes of the reconciliation claim of an order that stays open. -/
structure KeepsReconcile (K : Track DB) (orderId : Id) : Prop where
  claim : ∀ now expired, Kept K
    (DB.flushing (DB.updateOrders (fun o => o.id = orderId) (reconcilingOrder now expired)))
  release : Kept K (DB.flushing (DB.updateOrders (fun o => o.id = orderId)
    fun o => { o with reconciliationClaimStartedAt := none }))
  pending : ∀ a, Kept K (DB.flushing
    (DB.updateOrders (fun o => o.id = orderId) (progressedOrder a .pending)
    (progressedOrder_id a .pending)))

/-- Every write of the services. -/
structure KeepsAll (K : Track DB) : Prop extends
    KeepsMoney K, KeepsRisk K, KeepsActivation K, KeepsClaims K where
  reconcile : ∀ orderId, KeepsReconcile K orderId

namespace KeepsMoney

variable {K : Track DB} {issues : Prop} (h : KeepsMoney K issues)

include h

theorem postTransaction (userId : Id) (kind : LedgerKind) (reference key : String)
    (entries : List (Account × Int)) :
    Keeps K (postTransaction userId kind reference key entries) := by
  unfold Kunlun.postTransaction
  split
  · exact Tx.keeps_bind (Tx.keeps_add (h.ledger _)) fun _ => by simp
  · simp

theorem registerIdentity (user : User) : Keeps K (registerIdentity user) :=
  Tx.keeps_bind (Tx.keeps_add (h.user _)) fun _ =>
    Tx.keeps_bind (Tx.keeps_add (h.wallet _)) fun _ => by simp

/-! ### Requests -/

theorem createBudget (userId : Id) (amount : Int) (budgetId : Id) (now createdAt : Time) :
    Keeps K (createBudget userId amount budgetId now createdAt) := by
  refine Tx.keeps_bind (by simp) fun _ => Tx.keeps_bind (keeps_execute (h.wallets ..)) fun _ => ?_
  refine Tx.keeps_bind (by simp) fun _ => Tx.keeps_bind (by simp) fun current => ?_
  cases current with
  | none => exact Tx.keeps_bind (Tx.keeps_add (h.budget _)) fun _ => keeps_then_return (by simp) _
  | some current =>
    refine Tx.keeps_bind (by simp) fun _ => Tx.keeps_bind (by simp) fun _ => ?_
    refine Tx.keeps_bind (Tx.keeps_add (h.budgets ..)) fun _ => ?_
    exact Tx.keeps_bind (Tx.keeps_add (h.budget _)) fun _ => keeps_then_return (by simp) _

theorem insertReserved (a : ReserveArgs) (price : ModelPrice) (amount estimatedInput : Int)
    (budgetId : Option Id) :
    Keeps K (insertReserved a price amount estimatedInput budgetId) :=
  Tx.keeps_bind (Tx.keeps_add (h.request _)) fun _ =>
    Tx.keeps_bind (h.postTransaction ..) fun _ => by simp

theorem admission (a : ReserveArgs) (price : ModelPrice) (amount estimatedInput : Int) :
    Keeps K (admission a price amount estimatedInput) := by
  refine Tx.keeps_bind (by simp) fun _ => Tx.keeps_bind (by simp) fun _ =>
    Tx.keeps_bind (by simp) fun _ => ?_
  refine Tx.keeps_bind (by simp) fun _ => Tx.keeps_bind (by simp) fun _ =>
    Tx.keeps_bind (by simp) fun _ => ?_
  refine Tx.keeps_bind (keeps_execute (h.wallets ..)) fun _ => Tx.keeps_bind (by simp) fun _ => ?_
  refine Tx.keeps_bind (by simp) fun budget =>
    Tx.keeps_bind (keeps_execute (h.wallets ..)) fun _ => ?_
  refine Tx.keeps_bind (by simp) fun _ => ?_
  cases budget with
  | none => exact h.insertReserved ..
  | some b =>
    refine Tx.keeps_bind (by simp) fun _ => Tx.keeps_bind (keeps_execute (h.budgets ..)) fun _ => ?_
    exact Tx.keeps_bind (by simp) fun _ => h.insertReserved ..

theorem reserveModelRequest (a : ReserveArgs) : Keeps K (reserveModelRequest a) := by
  unfold Kunlun.reserveModelRequest
  repeat refine Tx.keeps_bind (by simp) fun _ => ?_
  exact keeps_then_return (keeps_conflictsAs _ (h.admission ..)) _

theorem finishHold (request set : ModelRequest) (back charged : Int)
    (kind : LedgerKind) (key : String)
    (entries : List (Account × Int)) (written : Bool) :
    Keeps K (finishHold request set back charged kind key entries written) := by
  refine Tx.keeps_bind ?_ fun _ => Tx.keeps_bind (h.postTransaction ..) fun _ =>
    Tx.keeps_bind (by simp) fun _ => Tx.keeps_bind (Tx.keeps_add (h.requests ..)) fun _ => by simp
  refine Tx.keeps_bind (keeps_execute (h.wallets ..)) fun _ => Tx.keeps_bind (by simp) fun _ => ?_
  split
  · simp
  · exact Tx.keeps_bind (keeps_execute (h.budgets ..)) fun _ => by simp

theorem settleAdmitted (a : SettleArgs) (request : ModelRequest) :
    Keeps K (settleAdmitted a request) := by
  unfold Kunlun.settleAdmitted
  repeat refine Tx.keeps_bind (by simp) fun _ => ?_
  exact keeps_then_return (h.finishHold ..) _

theorem settleModelRequest (a : SettleArgs) : Keeps K (settleModelRequest a) := by
  refine Tx.keeps_bind ?_ fun _ => h.settleAdmitted ..
  exact Tx.keeps_bind (by simp) fun _ => Tx.keeps_bind (by simp) fun _ =>
    keeps_then_return (by simp) _

theorem releaseModelRequest (a : ReleaseArgs) : Keeps K (releaseModelRequest a) := by
  refine Tx.keeps_bind (by simp) fun found => ?_
  cases found with
  | none => simp
  | some request => exact h.finishHold ..

theorem markPendingReconciliation (a : MarkArgs) : Keeps K (markPendingReconciliation a) := by
  refine Tx.keeps_bind (by simp) fun found => ?_
  cases found with
  | none => simp
  | some request => exact Tx.keeps_bind (Tx.keeps_add (h.requests ..)) fun _ => by simp

theorem recoverStaleModelReservations (leaseSeconds : Int) (now : Time) :
    Keeps K (recoverStaleModelReservations leaseSeconds now) :=
  Tx.keeps_bind (by simp) fun _ => Tx.keeps_bind (keeps_execute (h.requests ..)) fun _ =>
    keeps_then_return (by simp) _

theorem reconcileRequest (a : DecideArgs) : Keeps K (reconcileRequest a) := by
  refine Tx.keeps_bind (by simp) fun _ => Tx.keeps_bind (by simp) fun record => ?_
  refine Tx.keeps_bind (Tx.keeps_add (h.action _)) fun _ => ?_
  cases a.decision with
  | release => exact keeps_answering (h.releaseModelRequest _)
  | settle inputTokens outputTokens upstreamCost =>
    exact keeps_then_return (keeps_answering (h.settleModelRequest _)) _

/-! ### Orders -/

theorem createTestOrder (a : TestOrderArgs) : Keeps K (createTestOrder a) := by
  unfold Kunlun.createTestOrder
  split
  · exact Tx.keeps_bind (Tx.keeps_add (h.order _)) fun _ => keeps_then_return (by simp) _
  · simp

omit h in
theorem overtaken (eventId rawDigest : String) (e : Exc) :
    Keeps K (overtaken eventId rawDigest e) := by
  unfold Kunlun.overtaken
  repeat refine Tx.keeps_bind (by simp) fun _ => ?_
  simp

theorem creditTestOrder (a : TestWebhookArgs) (event : TestEvent) (amount : Int)
    (order : PaymentOrder) :
    Keeps K (creditTestOrder a event amount order) := by
  refine Tx.keeps_bind (Tx.keeps_add (h.event _)) fun _ =>
    Tx.keeps_bind (keeps_execute (h.orders _ _ _ fun o _ => .ended rfl rfl)) fun _ => ?_
  refine Tx.keeps_ite _ (fun _ => overtaken ..) fun _ => ?_
  refine Tx.keeps_bind (keeps_execute (h.wallets ..)) fun _ =>
    Tx.keeps_bind (h.postTransaction ..) fun _ => ?_
  exact Tx.keeps_bind (Tx.keeps_add (h.outbox _)) fun _ => keeps_then_return (by simp) _

theorem processTestWebhook (a : TestWebhookArgs) : Keeps K (processTestWebhook a) := by
  unfold Kunlun.processTestWebhook
  repeat refine Tx.keeps_bind (by simp) fun _ => ?_
  split
  · exact keeps_then_return (by simp) _
  · repeat refine Tx.keeps_bind (by simp) fun _ => ?_
    refine Tx.keeps_ite _ (fun _ => overtaken ..) fun _ => ?_
    exact Tx.keeps_tryExcept (h.creditTestOrder ..) fun _ => overtaken ..

theorem insertNewOrder (a : OrderArgs) (order : PaymentOrder) :
    Keeps K (insertNewOrder a order) := by
  refine Tx.keeps_bind (Tx.keeps_add (h.order _)) fun _ =>
    Tx.keeps_tryExcept (keeps_then_return (by simp) _) fun _ => ?_
  repeat refine Tx.keeps_bind (by simp) fun _ => ?_
  simp

theorem createOrder (a : OrderArgs) : Keeps K (createOrder a) := by
  unfold Kunlun.createOrder
  split
  · repeat refine Tx.keeps_bind (by simp) fun _ => ?_
    split
    · exact keeps_then_return (by simp) _
    · refine Tx.keeps_bind (by simp) fun _ => Tx.keeps_bind (by simp) fun existing => ?_
      cases existing with
      | some existing => exact Tx.keeps_bind (by simp) fun _ => keeps_then_return (by simp) _
      | none =>
        exact Tx.keeps_bind (by simp) fun _ => Tx.keeps_bind (by simp) fun _ => h.insertNewOrder ..
    · exact h.insertNewOrder ..
  · simp

theorem prepareCheckout (orderId : Id) (now lease : Time) :
    Keeps K (prepareCheckout orderId now lease) := by
  unfold Kunlun.prepareCheckout
  repeat refine Tx.keeps_bind (by simp) fun _ => ?_
  refine Tx.keeps_ite _ (fun _ => keeps_then_return (by simp) _) fun _ =>
    Tx.keeps_ite _ (fun _ => ?_) fun _ => ?_
  · refine Tx.keeps_bind (by simp) fun _ =>
      Tx.keeps_bind (keeps_execute (h.orders _ _ _ fun o ho => ?_)) fun _ => ?_
    · exact .opened rfl (by simp at ho; simp [ho, OrderStatus.isOpen]) rfl (.inr rfl)
    · exact Tx.keeps_bind (by simp) fun _ => Tx.keeps_bind (by simp) fun _ => by simp
  · refine Tx.keeps_bind (by simp) fun _ =>
      Tx.keeps_bind (keeps_execute (h.orders _ _ _ fun o ho => ?_)) fun _ => ?_
    · simp at ho
      exact .opened rfl (by simp [ho, OrderStatus.isOpen]) rfl
        (.inl (by simp [ho, OrderStatus.isEarly]))
    exact Tx.keeps_bind (by simp) fun _ => keeps_then_return (by simp) _

theorem updateOrders (p : PaymentOrder → Bool) (f : PaymentOrder → PaymentOrder)
    (hf : ∀ o, (f o).id = o.id)
    (hstep : ∀ o, p o → OrderStep o (f o)) : Keeps K (do
      let _ ← Tx.execute (DB.updateOrders p f hf)
      Tx.commit : Service Unit) :=
  Tx.keeps_bind (keeps_execute (h.orders _ _ hf hstep)) fun _ => by simp

theorem checkoutFailed (orderId : Id) (code : String) : Keeps K (checkoutFailed orderId code) := by
  refine h.updateOrders _ _ _ fun o ho => .opened rfl ?_ rfl (.inr rfl)
  simp at ho
  simp [ho, OrderStatus.isOpen]

theorem checkoutAnswered (orderId : Id) (checkout : CheckoutResult) :
    Keeps K (checkoutAnswered orderId checkout) := by
  refine Tx.keeps_bind (keeps_execute (h.orders _ _ _ fun o ho => .opened rfl ?_ rfl (.inl ?_)))
    fun _ => ?_
  · simp at ho
    simp [ho, OrderStatus.isOpen]
  · simp at ho
    simp [ho, OrderStatus.isEarly]
  · exact Tx.keeps_bind (by simp) fun _ => by simp

theorem keepReconciling (orderId : Id) (reason : String) :
    Keeps K (keepReconciling orderId reason) := by
  refine h.updateOrders _ _ _ fun o ho => .opened rfl ?_ rfl (.inr rfl)
  simp at ho
  rcases ho.2 with hs | hs <;> simp [hs, OrderStatus.isOpen]

theorem claimReconciliation {a : ReconcileArgs} (hrec : KeepsReconcile K a.orderId) :
    Keeps K (claimReconciliation a) := by
  refine Tx.keeps_select_bind fun d => Tx.keeps_orRaise_bind fun order hfound => ?_
  have hid : order.id = a.orderId := Table.key_of_get? (Option.filter_eq_some_iff.1 hfound).1
  refine Tx.keeps_bind (by simp) fun _ => Tx.keeps_bind (by simp) fun _ =>
    Tx.keeps_bind (by simp) fun _ => ?_
  refine Tx.keeps_bind (Tx.keeps_add (hid ▸ hrec.claim ..)) fun _ =>
    Tx.keeps_bind (Tx.keeps_add (h.action _)) fun _ => ?_
  exact keeps_then_return (by simp) _

/-! ### Refunds -/

theorem prepareRefund (hclaims : KeepsClaims K) (a : PrepareRefundArgs) :
    Keeps K (prepareRefund a) := by
  have hregrant (existing : PaymentRefund) (p : PaymentRefund → Bool)
    (next : RefundStatus) (now : Time)
      (hnext : next = .requesting ∨ next = .retrying) (hp : ∀ r, p r → r.status.isActive) :
      Keeps K (regrantRefund existing p next now) := by
    refine Tx.keeps_bind (keeps_execute (hclaims.regrant _ _ _ _ hnext hp)) fun _ => ?_
    exact Tx.keeps_bind (by simp) fun _ => keeps_then_return (by simp) _
  have hactive (existing r : PaymentRefund) (hs : existing.status.isActive)
      (hr : decide (r.status = existing.status) && decide
        (r.claimStartedAt = existing.claimStartedAt)) :
      r.status.isActive := by
    rwa [of_decide_eq_true (Bool.and_eq_true_iff.1 hr).1]
  refine Tx.keeps_bind (by simp) fun _ => Tx.keeps_bind (by simp) fun existing => ?_
  cases existing with
  | some existing =>
    show Keeps K (reclaimRefund existing a.now a.lease)
    unfold reclaimRefund
    split
    · exact keeps_then_return (by simp) _
    · exact keeps_then_return (by simp) _
    · rename_i hs
      exact Tx.keeps_bind (by simp) fun _ =>
        hregrant _ _ _ _ (by split <;> simp) fun r => hactive existing r (by rw [hs]; rfl)
    · rename_i hs
      exact Tx.keeps_bind (by simp) fun _ =>
        hregrant _ _ _ _ (by split <;> simp) fun r => hactive existing r (by rw [hs]; rfl)
    · exact Tx.keeps_bind (by simp) fun _ => by simp
    · exact hregrant _ _ _ _ (by simp) fun r hr => by rw [of_decide_eq_true hr]; rfl
  | none =>
    unfold commandRefund
    refine Tx.keeps_bind (by simp) fun _ => Tx.keeps_bind (by simp) fun order => ?_
    refine Tx.keeps_bind (by simp) fun _ => Tx.keeps_bind (by simp) fun _ => ?_
    refine Tx.keeps_bind (Tx.keeps_add (h.refund _ (by simp [newRefund]))) fun _ => ?_
    refine Tx.keeps_bind (keeps_execute (h.orders _ _ _ fun o _ => .ended rfl rfl)) fun _ => ?_
    exact Tx.keeps_bind (by simp) fun _ => keeps_then_return (keeps_conflictsAs _ (by simp)) _

theorem finishRefund (a : ApplyRefundArgs) (order : PaymentOrder) (refund : PaymentRefund) :
    Keeps K (finishRefund a order refund) := by
  refine Tx.keeps_bind (Tx.keeps_add (h.orders _ _ _ fun o _ => .ended rfl rfl)) fun _ => ?_
  refine Tx.keeps_bind (Tx.keeps_add (h.outbox _)) fun _ => ?_
  exact keeps_then_return (keeps_conflictsAs _ (by simp)) _

theorem reverseInFull (a : ApplyRefundArgs) (order : PaymentOrder)
    (refund : PaymentRefund) (wallet : Wallet) :
    Keeps K (reverseInFull a order refund wallet) := by
  refine Tx.keeps_bind (Tx.keeps_add (h.wallets ..)) fun _ => ?_
  refine Tx.keeps_bind (Tx.keeps_add
    (h.refunds _ _ _ fun r _ => ⟨rfl, ⟨rfl, rfl⟩, .inr (.inl rfl)⟩)) fun _ => ?_
  exact Tx.keeps_bind (h.postTransaction ..) fun _ => h.finishRefund ..

theorem openRefund (a : ApplyRefundArgs) (order : PaymentOrder)
    (existing : Option PaymentRefund) (amount : Int)
    (currency : String) : Keeps K (openRefund a order existing amount currency) := by
  cases existing with
  | none =>
    refine Tx.keeps_bind (Tx.keeps_add (h.refund _ (by simp [newRefund]))) fun _ => ?_
    exact keeps_then_return (keeps_conflictsAs _ (by simp)) _
  | some refund =>
    refine Tx.keeps_bind (by simp) fun _ => Tx.keeps_bind (by simp) fun _ => ?_
    have hset : Keeps K (setRefund refund.id fun r =>
      { r with providerRefundId := some a.providerRefundId }) := by
      refine Tx.keeps_add (h.refunds _ _ _ ?_)
      exact fun _ _ => ⟨rfl, ⟨rfl, rfl⟩, .inl ⟨rfl, rfl⟩⟩
    exact keeps_then_return hset _

theorem applyRefund (hrisk : KeepsRisk K) (a : ApplyRefundArgs) : Keeps K (applyRefund a) := by
  unfold Kunlun.applyRefund
  repeat refine Tx.keeps_bind (by simp) fun _ => ?_
  split
  · exact keeps_then_return (by simp) _
  · repeat refine Tx.keeps_bind (by simp) fun _ => ?_
    refine Tx.keeps_bind (h.openRefund ..) fun refund => ?_
    refine Tx.keeps_bind (by simp) fun _ => Tx.keeps_bind (by simp) fun wallet => ?_
    refine Tx.keeps_ite _ (fun _ => h.reverseInFull ..) fun _ => ?_
    refine Tx.keeps_bind (Tx.keeps_add (h.wallets ..)) fun _ =>
      Tx.keeps_bind (h.applyUserFreeze ..) fun _ => ?_
    refine Tx.keeps_bind (Tx.keeps_add (h.orders _ _ _ fun o _ => .same rfl rfl rfl)) fun _ => ?_
    refine Tx.keeps_bind (Tx.keeps_add (hrisk.atRisk _)) fun _ => ?_
    exact Tx.keeps_bind (h.postTransaction ..) fun _ => h.finishRefund ..

theorem refundGranted (hclaims : KeepsClaims K) (a : PrepareRefundArgs) :
    Keeps K (refundGranted a) :=
  Tx.keeps_bind (by simp) fun _ => Tx.keeps_bind (by simp) fun _ =>
    keeps_answering (h.prepareRefund hclaims a)

theorem refundUncertain (hclaims : KeepsClaims K) (orderId refundId : Id)
    (orderReason refundReason : String) :
    Keeps K (refundUncertain orderId refundId orderReason refundReason) := by
  refine Tx.keeps_bind (keeps_execute (h.orders _ _ _ fun o _ => .same rfl rfl rfl)) fun _ => ?_
  exact Tx.keeps_bind (keeps_execute (hclaims.uncertain ..)) fun _ => by simp

theorem refundConfirmed (hrisk : KeepsRisk K) (a : ApplyRefundArgs) (op : Operator)
    (operationId : String)
    (refundId : Id) : Keeps K (refundConfirmed a op operationId refundId) := by
  refine Tx.keeps_bind (Tx.keeps_add (h.action _)) fun _ => keeps_answering ?_
  exact Tx.keeps_bind (h.applyRefund hrisk a) fun _ => keeps_then_return (by simp) _

theorem resolveRefundRisk (a : ResolveArgs) : Keeps K (resolveRefundRisk a) := by
  unfold Kunlun.resolveRefundRisk
  refine Tx.keeps_bind (by simp) fun _ => Tx.keeps_bind (by simp) fun _ =>
    Tx.keeps_bind (by simp) fun _ => ?_
  refine Tx.keeps_bind (by simp) fun existing => ?_
  cases existing with
  | some existing => exact keeps_then_return (by simp) _
  | none =>
    repeat refine Tx.keeps_bind (by simp) fun _ => ?_
    refine Tx.keeps_bind (Tx.keeps_add (h.wallets ..)) fun _ =>
      Tx.keeps_bind (h.postTransaction ..) fun _ => ?_
    refine Tx.keeps_bind (Tx.keeps_add
      (h.refunds _ _ _ fun r _ => ⟨rfl, ⟨rfl, rfl⟩, .inr (.inr rfl)⟩)) fun _ => ?_
    refine Tx.keeps_bind (Tx.keeps_add (h.orders _ _ _ fun o _ => .same rfl rfl rfl)) fun _ => ?_
    exact keeps_then_return (Tx.keeps_add (h.outbox _)) _

theorem disposeRefundRisk (a : ResolveArgs) (op : Operator) (operationId : String) :
    Keeps K (disposeRefundRisk a op operationId) := by
  refine keeps_conflictsAs _ (keeps_answering ?_)
  refine Tx.keeps_bind (h.resolveRefundRisk a) fun _ =>
    Tx.keeps_bind (Tx.keeps_add (h.action _)) fun _ => ?_
  exact keeps_then_return (by simp) _

/-! ### Events -/

theorem completeRefund (hrisk : KeepsRisk K) (a : WebhookArgs) (order : PaymentOrder)
    (key providerRefundId : String) :
    Keeps K (completeRefund a order key providerRefundId) := by
  refine Tx.keeps_bind (Tx.keeps_add (h.event _)) fun _ =>
    Tx.keeps_bind (h.applyRefund hrisk _) fun _ => ?_
  exact keeps_then_return (by simp) _

theorem applyRefundEvent (hrisk : KeepsRisk K) (a : WebhookArgs) (order : PaymentOrder)
    (providerRefundId : String) :
    Keeps K (applyRefundEvent a order providerRefundId) := by
  unfold Kunlun.applyRefundEvent
  split
  · refine Tx.keeps_bind (by simp) fun _ => Tx.keeps_bind (by simp) fun _ => ?_
    refine Tx.keeps_bind (Tx.keeps_add (h.event _)) fun _ =>
      keeps_then_return (keeps_conflictsAs _ (by simp)) _
  · refine Tx.keeps_bind (by simp) fun active => ?_
    split
    · exact Tx.keeps_bind (by simp) fun _ => h.completeRefund hrisk ..
    · simp
  · exact h.completeRefund hrisk ..
  · simp

theorem applyProgressEvent (a : WebhookArgs) (order : PaymentOrder) (kind : EventStatus)
    (hprogress : Kept K (DB.flushing
      (DB.updateOrders (fun o => o.id = order.id) (progressedOrder a kind)
      (progressedOrder_id a kind)))) : Keeps K (applyProgressEvent a order kind) := by
  refine Tx.keeps_bind (by simp) fun _ => Tx.keeps_bind (Tx.keeps_add (h.event _)) fun _ => ?_
  exact Tx.keeps_bind (Tx.keeps_add hprogress) fun _ =>
    keeps_then_return (keeps_conflictsAs _ (by simp)) _

theorem creditOrder (a : WebhookArgs) (order : PaymentOrder) : Keeps K (creditOrder a order) := by
  refine Tx.keeps_bind (Tx.keeps_add (h.event _)) fun _ =>
    Tx.keeps_bind (keeps_execute (h.orders _ _ _ fun o _ => .ended rfl rfl)) fun _ => ?_
  refine Tx.keeps_bind (by simp) fun _ => Tx.keeps_bind (by simp) fun _ =>
    Tx.keeps_bind (by simp) fun _ => ?_
  refine Tx.keeps_bind (Tx.keeps_add (h.wallets ..)) fun _ =>
    Tx.keeps_bind (h.postTransaction ..) fun _ => ?_
  refine Tx.keeps_bind (Tx.keeps_add (h.outbox _)) fun _ => ?_
  exact keeps_then_return (keeps_conflictsAs _ (by simp)) _

theorem applyWebhook {a : WebhookArgs}
    (hrisk : validEvent a.eventType = some .refunded → KeepsRisk K)
    (hrec : validEvent a.eventType = some .pending → KeepsReconcile K a.orderId) :
    Keeps K (applyWebhook a) := by
  refine Tx.keeps_bind (by simp) fun _ => Tx.keeps_bind (by simp) fun existing => ?_
  cases existing with
  | some existing => exact Tx.keeps_bind (by simp) fun _ => keeps_then_return (by simp) _
  | none =>
    refine Tx.keeps_bind (by simp) fun _ => Tx.keeps_bind (by simp) fun _ => ?_
    refine Tx.keeps_select_bind fun d => Tx.keeps_orRaise_bind fun order hfound => ?_
    have hid : order.id = a.orderId := Table.key_of_get? (Option.filter_eq_some_iff.1 hfound).1
    refine Tx.keeps_bind (by simp) fun _ => Tx.keeps_bind (by simp) fun _ =>
      Tx.keeps_orRaise_bind fun kind hkind => ?_
    have hkind := (Option.filter_eq_some_iff.1 hkind).1
    cases kind with
    | refunded =>
      cases a.providerRefundId.filter (· ≠ "") with
      | some providerRefundId => exact h.applyRefundEvent (hrisk hkind) ..
      | none => exact Tx.keeps_raise _
    | paid =>
      refine Tx.keeps_bind (by simp) fun _ => Tx.keeps_ite _ (fun _ => h.creditOrder ..) fun _ => ?_
      exact Tx.keeps_bind (by simp) fun _ => keeps_then_return (by simp) _
    | pending =>
      exact Tx.keeps_bind (by simp) fun _ =>
        h.applyProgressEvent _ _ _ (hid ▸ (hrec hkind).pending a)
    | failed | closed =>
      exact Tx.keeps_bind (by simp) fun _ =>
        h.applyProgressEvent _ _ _ (h.orders _ _ _ fun o _ => .ended rfl rfl)

theorem answerReconciliation {a : ReconcileAnswer}
    (hrisk : validEvent a.event.eventType = some .refunded → KeepsRisk K)
    (hevent : validEvent a.event.eventType = some .pending → KeepsReconcile K a.event.orderId) :
    Keeps K (answerReconciliation a) :=
  Tx.keeps_bind (Tx.keeps_add (h.action _)) fun _ => keeps_answering (h.applyWebhook hrisk hevent)

theorem closeReconciliation {a : ReconcileAnswer}
    (hrec : KeepsReconcile K a.claim.orderId) (duplicate : Bool) :
    Keeps K (closeReconciliation a duplicate) := by
  refine Tx.keeps_bind (Tx.keeps_ite _ (fun _ => Tx.keeps_add (h.action _)) fun _ => by simp)
    fun _ => ?_
  exact Tx.keeps_bind (keeps_execute hrec.release) fun _ => keeps_then_return (by simp) _

theorem applyReconciliation {a : ReconcileAnswer}
    (hrisk : validEvent a.event.eventType = some .refunded → KeepsRisk K)
    (hevent : validEvent a.event.eventType = some .pending → KeepsReconcile K a.event.orderId)
    (hrec : KeepsReconcile K a.claim.orderId) : Keeps K (applyReconciliation a) :=
  Tx.keeps_bind (Tx.keeps_add (h.action _)) fun _ =>
    Tx.keeps_bind (keeps_answering (h.applyWebhook hrisk hevent)) fun duplicate =>
      h.closeReconciliation hrec duplicate

end KeepsMoney

end Kunlun
