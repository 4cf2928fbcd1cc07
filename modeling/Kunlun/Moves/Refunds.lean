import Kunlun.Moves.Accounts
import Kunlun.Moves.Billing

/-!
# Refunds move the books
-/

namespace Kunlun

variable {env : Env}

/-! ## Commands -/

theorem carries_regrantRefund (existing : PaymentRefund) (unchanged : PaymentRefund → Bool)
    (next : RefundStatus)
    (now : Time) (hold : ∀ r, unchanged r → r.status.isActive) (hnext : next.isActive) :
    Carries env (regrantRefund existing unchanged next now) := by
  unfold regrantRefund
  refine carries_atomic ?_ fun s r t hs h => ?_
  · refine Tx.atomic_bind (by simp) fun _ => Tx.atomic_bind (by simp) fun _ => ?_
    exact Tx.atomic_commit_return _
  · simp only [Tx.bind_ok, Tx.execute_ok, Tx.rollbackIf_ok, Tx.commit_ok, Tx.pure_ok] at h
    obtain ⟨n, _, ⟨d, hd, rfl⟩, _, _, ⟨-, rfl⟩, _, _, ⟨d', ha, rfl⟩, -, rfl⟩ := h
    obtain ⟨-, rfl, -⟩ := updateRefunds_ok.1 hd
    refine ⟨?_, .pure⟩
    rw [applyAll_neutral hs.pending ha, ← hs.work]
    have m : Move env s.work.books _ :=
      .reissue (fun r => decide (r.id = existing.id) && unchanged r)
      (reclaimedRefund next now) (fun _ => rfl) fun r _ hp =>
        ⟨⟨rfl, rfl, rfl, fun _ => rfl⟩, hold r (Bool.and_eq_true_iff.1 hp).2, hnext⟩
    exact .single m

theorem carries_reclaimRefund (existing : PaymentRefund) (now lease : Time) :
    Carries env (reclaimRefund existing now lease) := by
  have hactive (hs : existing.status.isActive) (r : PaymentRefund)
      (h : (decide (r.status = existing.status) && decide
        (r.claimStartedAt = existing.claimStartedAt)) = true) :
      r.status.isActive := by
    simp only [Bool.and_eq_true, decide_eq_true_eq] at h
    rw [h.1]
    exact hs
  unfold reclaimRefund
  split
  · exact carries_bind carries_rollback fun _ => carries_pure _
  · exact carries_bind carries_rollback fun _ => carries_pure _
  · refine carries_bind (carries_rollbackIf ..) fun _ =>
      carries_regrantRefund _ _ _ _ (hactive ?_) ?_
    · simp [*, RefundStatus.isActive]
    · split <;> rfl
  · refine carries_bind (carries_rollbackIf ..) fun _ =>
      carries_regrantRefund _ _ _ _ (hactive ?_) ?_
    · simp [*, RefundStatus.isActive]
    · split <;> rfl
  · exact carries_bind carries_rollback fun _ => carries_raise _
  · refine carries_regrantRefund _ _ _ _ (fun r h => ?_) rfl
    simp [of_decide_eq_true h, RefundStatus.isActive]

theorem atomic_commandRefund (a : PrepareRefundArgs) : Tx.Atomic (commandRefund a) := by
  unfold commandRefund
  repeat refine Tx.atomic_bind (by simp) fun _ => ?_
  exact Tx.atomic_then (atomic_conflictsAs Tx.atomic_commit) fun _ => Tx.returns_pure _

theorem carries_commandRefund (a : PrepareRefundArgs) : Carries env (commandRefund a) := by
  refine carries_atomic (atomic_commandRefund a) fun s r t hs h => ?_
  simp only [commandRefund, Tx.bind_ok, Tx.select_ok, Tx.orRaise_ok, Tx.add_ok, Tx.execute_ok,
    Tx.rollbackIf_ok, conflictsAs_ok, Tx.commit_ok, Tx.pure_ok] at h
  obtain ⟨_, _, ⟨rfl, rfl⟩, order, _, ⟨hfound, rfl⟩, amount, _, ⟨-, rfl⟩, currency, s,
    ⟨-, rfl⟩, _, _, rfl, n, _, ⟨d₁, hd, rfl⟩, _, _, ⟨hn, rfl⟩, _, _, ⟨d, ha, rfl⟩, -, rfl⟩ := h
  refine ⟨?_, .pure⟩
  obtain rfl := not_not.1 hn
  obtain ⟨hget, hpaid⟩ := Option.filter_eq_some_iff.1 hfound
  rw [← Table.key_of_get? hget] at hget
  obtain ⟨-, -, -, rfl⟩ := updateOrders_one hd
  simp only [Tx.applyAll_append, Tx.applyAll_cons, Tx.applyAll_nil, Option.some.injEq,
    exists_eq_right] at ha
  obtain ⟨d₂, h2, h3⟩ := ha
  have hbooks := applyAll_neutral hs.pending h2
  obtain ⟨refunds, hi, huniq, rfl⟩ := insertRefund_ok.1 h3
  have hi' : s.work.books.refunds.insert?
    (newRefund a.refundId order none a.idempotencyKey amount currency a.createdAt) =
      some refunds := by
    rw [show s.work.books.refunds = d₂.books.refunds by rw [hbooks]; rfl]
    exact hi
  have m : Move env s.work.books _ :=
    .command order _ hget (of_decide_eq_true hpaid) rfl rfl hi' huniq rfl
  rw [← hs.work]
  change Moves env _ { d₂.books with refunds := refunds }
  rw [hbooks]
  exact .single m

theorem carries_prepareRefund (a : PrepareRefundArgs) : Carries env (prepareRefund a) := by
  unfold prepareRefund
  refine carries_bind (carries_raiseIf ..) fun _ =>
    carries_bind (carries_select _) fun existing => ?_
  cases existing with
  | none => exact carries_commandRefund a
  | some existing => exact carries_reclaimRefund ..

/-! ## Reversals -/

/-- A refund whose order is to be reversed: `refunds` are the rows at work, `row` is the row
of the refund, and `f` is staged for it. -/
structure Reversible (c : Books) (order : PaymentOrder)
    (refunds : Table PaymentRefund PaymentRefund.id)
    (row : PaymentRefund) (f : PaymentRefund → PaymentRefund) : Prop where
  found : c.orders.get? order.id = some order
  status : order.status = .paid ∨ order.status = .refunding
  source : refunds = c.refunds ∨ c.refunds.insert? row = some refunds ∧ uniqueRefunds refunds.rows
  inserted : refunds.get? row.id = some row
  active : row.status.isActive
  orderId : row.orderId = order.id
  edit : RefundEdit row (f row)
  owner : refunds = c.refunds ∨ row.userId = order.userId

theorem finishRefund_stages {a : ApplyRefundArgs} {order : PaymentOrder} {refund r : PaymentRefund}
    {s t : Session DB} {c b : Books} (hs : Stages s c b fun x => x)
    (h : finishRefund a order refund s = (.ok r, t)) : Staged t ∧ t.committed.books =
      { b with
        orders := b.orders.modify order.id (fun o => { o with
          status := .refunded
          reconciliationClaimStartedAt := none }) } := by
  simp only [finishRefund, setOrder, Tx.bind_ok, conflictsAs_ok, Tx.pure_ok] at h
  obtain ⟨_, s₁, h1, _, s₂, h2, _, s₃, h3, -, rfl⟩ := h
  have hs₂ := (hs.add (effect_setOrder ..) h1).add (neutral_insertOutbox _).effect h2
  obtain ⟨hb, ht⟩ := hs₂.commit h3
  exact ⟨ht, hb⟩

theorem reverseInFull_moves {a : ApplyRefundArgs} {order : PaymentOrder}
    {refund row r : PaymentRefund}
    {refunds : Table PaymentRefund PaymentRefund.id} {f : PaymentRefund → PaymentRefund}
    {hf : ∀ r, (f r).id = r.id} {wallet : Wallet} {s t : Session DB} {c : Books}
    (hs : Stages s c { c with refunds := refunds } fun b =>
      { b with refunds := b.refunds.modify row.id f hf })
    (hr : Reversible c order refunds row f) (hid : refund.id = row.id)
    (hwallet : c.wallets.get? order.userId = some wallet)
    (hcovered : order.creditAmountMicrousd ≤ wallet.balanceMicrousd)
    (h : reverseInFull a order refund wallet s = (.ok r, t)) :
      Moves env c t.committed.books ∧ Staged t := by
  simp only [reverseInFull, setBalance, setRefund, Tx.bind_ok] at h
  obtain ⟨_, s₁, h1, _, s₂, h2, _, s₃, h3, h4⟩ := h
  have hs₂ := (hs.add (effect_setBalance ..) h1).add (effect_setRefund ..) h2
  obtain ⟨j, ledger, hj, hkey, hl, hs₃⟩ := hs₂.postTransaction h3
  obtain ⟨ht, hb⟩ := finishRefund_stages hs₃ h4
  refine ⟨?_, ht⟩
  have hpos := order.creditPositive
  have m : Move env c _ := .reverse order
    (fun o => { o with status := .refunded, reconciliationClaimStartedAt := none }) (fun _ => rfl)
      row
    (fun r => { f r with status := .refunded }) hf wallet
      order.creditAmountMicrousd j .paymentRefund
    hr.found hr.status (OrderEdit.of_same rfl rfl rfl rfl (by simp)) rfl hr.source hr.inserted
      hr.active hr.orderId
    ⟨hr.edit.orderId, hr.edit.userId, hr.edit.command, hr.edit.provider⟩ (by simp) hwallet
      hpos.le le_rfl (by omega)
    (by simp) (by simpa using hj) hl hr.owner (.inl (by rw [hkey, hid]))
  have hwallets : c.wallets.modify order.userId (fun w => { w with
        balanceMicrousd := wallet.balanceMicrousd - order.creditAmountMicrousd }) =
      c.wallets.modify order.userId fun w => { w with
        balanceMicrousd := w.balanceMicrousd - order.creditAmountMicrousd } :=
    Table.modify_congr hwallet rfl
  simp only [hb, hid, Table.modify_modify, hwallets]
  exact .single m

theorem reverseAtRisk_moves {a : ApplyRefundArgs} {order : PaymentOrder}
    {refund row r : PaymentRefund}
    {refunds : Table PaymentRefund PaymentRefund.id} {f : PaymentRefund → PaymentRefund}
    {hf : ∀ r, (f r).id = r.id} {wallet : Wallet} {s t : Session DB} {c : Books}
    (hs : Stages s c { c with refunds := refunds } fun b =>
      { b with refunds := b.refunds.modify row.id f hf })
    (hr : Reversible c order refunds row f) (hid : refund.id = row.id)
    (hwallet : c.wallets.get? order.userId = some wallet)
    (hshort : wallet.balanceMicrousd < order.creditAmountMicrousd)
    (h : reverseAtRisk a order refund wallet s = (.ok r, t)) :
      Moves env c t.committed.books ∧ Staged t := by
  simp only [reverseAtRisk, setBalance, setOrder, setRefund, Tx.bind_ok] at h
  obtain ⟨_, s₁, h1, _, s₂, h2, _, s₃, h3, _, s₄, h4, _, s₅, h5, h6⟩ := h
  have hs₁ := hs.add (effect_setBalance ..) h1
  obtain ⟨hc, hw, vs, hp, hv⟩ := applyUserFreeze_ok h2
  have hs₂ := hs₁.addAll hv hc hw hp
  have hs₄ := (hs₂.add (effect_setOrder ..) h3).add (effect_setRefund ..) h4
  obtain ⟨j, ledger, hj, hkey, hl, hs₅⟩ := hs₄.postTransaction h5
  obtain ⟨ht, hb⟩ := finishRefund_stages hs₅ h6
  refine ⟨?_, ht⟩
  have hpos := order.creditPositive
  generalize hrec : max 0 (min wallet.balanceMicrousd order.creditAmountMicrousd) = recovered at *
  have hne : recovered ≠ order.creditAmountMicrousd := by omega
  have m : Move env c _ := .reverse order
    (fun o => { o with
      riskReason := some "refund_balance_insufficient"
      status := .refunded
      reconciliationClaimStartedAt := none }) (fun _ => rfl) row
    (fun r => { f r with status := .risk, riskReason := some "refund_balance_insufficient" })
      hf wallet recovered j
    .paymentRefundRisk hr.found hr.status (OrderEdit.of_same rfl rfl rfl rfl (by simp)) rfl
      hr.source hr.inserted
    hr.active hr.orderId ⟨hr.edit.orderId, hr.edit.userId, hr.edit.command, hr.edit.provider⟩
      (by simp [hne]) hwallet
    (by omega) (by omega) (by omega) (by simp [hne]) (by simpa using hj) hl hr.owner
      (.inr (by rw [hkey, hid]))
  have hwallets : c.wallets.modify order.userId (fun w => { w with
        balanceMicrousd := wallet.balanceMicrousd - recovered }) =
      c.wallets.modify order.userId fun w =>
        { w with balanceMicrousd := w.balanceMicrousd - recovered } :=
    Table.modify_congr hwallet rfl
  simp only [hb, hid, Table.modify_modify, hwallets]
  exact .single m

theorem reverseCredit_moves {a : ApplyRefundArgs} {order : PaymentOrder}
    {refund row r : PaymentRefund}
    {refunds : Table PaymentRefund PaymentRefund.id} {f : PaymentRefund → PaymentRefund}
    {hf : ∀ r, (f r).id = r.id} {s t : Session DB} {c : Books}
    (hs : Stages s c { c with refunds := refunds } fun b =>
      { b with refunds := b.refunds.modify row.id f hf })
    (hr : Reversible c order refunds row f) (hid : refund.id = row.id)
    (h : reverseCredit a order refund s = (.ok r, t)) :
      Moves env c t.committed.books ∧ Staged t := by
  simp only [reverseCredit, Tx.bind_ok, Tx.select_ok, Tx.orRaise_ok, Tx.ite_ok] at h
  obtain ⟨_, _, ⟨rfl, rfl⟩, wallet, s, ⟨hget, rfl⟩, h⟩ := h
  have hwallet : c.wallets.get? order.userId = some wallet := by
    rw [← hget]
    exact congrArg (fun b => b.wallets.get? order.userId) hs.work.symm
  rcases h with ⟨hle, h⟩ | ⟨hlt, h⟩
  · exact reverseInFull_moves hs hr hid hwallet hle h
  · exact reverseAtRisk_moves hs hr hid hwallet (not_le.1 hlt) h

/-! ## `apply_refund` -/

theorem atomic_finishRefund (a : ApplyRefundArgs) (order : PaymentOrder) (refund : PaymentRefund) :
    Tx.Atomic (finishRefund a order refund) := by
  unfold finishRefund
  refine Tx.atomic_bind (Tx.quiet_add _) fun _ => Tx.atomic_bind (by simp) fun _ => ?_
  exact Tx.atomic_then (atomic_conflictsAs Tx.atomic_commit) fun _ => Tx.returns_pure _

theorem atomic_reverseCredit (a : ApplyRefundArgs) (order : PaymentOrder) (refund : PaymentRefund) :
    Tx.Atomic (reverseCredit a order refund) := by
  unfold reverseCredit
  refine Tx.atomic_bind (by simp) fun _ => Tx.atomic_bind (by simp) fun wallet =>
    Tx.atomic_ite _ ?_ ?_
  · refine Tx.atomic_bind (Tx.quiet_add _) fun _ => Tx.atomic_bind (Tx.quiet_add _) fun _ => ?_
    exact Tx.atomic_bind (quiet_postTransaction ..) fun _ => atomic_finishRefund ..
  · refine Tx.atomic_bind (Tx.quiet_add _) fun _ =>
      Tx.atomic_bind (quiet_applyUserFreeze ..) fun _ => ?_
    refine Tx.atomic_bind (Tx.quiet_add _) fun _ => Tx.atomic_bind (Tx.quiet_add _) fun _ => ?_
    exact Tx.atomic_bind (quiet_postTransaction ..) fun _ => atomic_finishRefund ..

theorem quiet_conflictsAs {α : Type} {e : Exc} {x : Service α} (hx : Tx.Quiet x) :
    Tx.Quiet (conflictsAs e x) := by
  refine Tx.quiet_tryExcept hx fun _ => Tx.quiet_bind Tx.quiet_rollback fun _ => Tx.quiet_raise e

theorem quiet_openRefund (a : ApplyRefundArgs) (order : PaymentOrder)
    (existing : Option PaymentRefund)
    (amount : Int) (currency : String) :
    Tx.Quiet (openRefund a order existing amount currency) := by
  unfold openRefund
  cases existing with
  | none =>
    refine Tx.quiet_bind (by simp) fun _ =>
      Tx.quiet_bind (quiet_conflictsAs Tx.quiet_flush) fun _ => by simp
  | some refund =>
    refine Tx.quiet_bind (by simp) fun _ => Tx.quiet_bind (by simp) fun _ => ?_
    exact Tx.quiet_bind (Tx.quiet_add _) fun _ => by simp

theorem atomic_applyRefund (a : ApplyRefundArgs) : Tx.Atomic (applyRefund a) := by
  unfold applyRefund
  repeat refine Tx.atomic_bind (by simp) fun _ => ?_
  split
  · exact Tx.atomic_bind (by simp) fun _ => (Tx.quiet_pure _).atomic
  · repeat refine Tx.atomic_bind (by simp) fun _ => ?_
    exact Tx.atomic_bind (quiet_openRefund ..) fun _ => atomic_reverseCredit ..

/-- The refund that is completed: a new row, or the row of the command with its provider's id
staged. -/
theorem openRefund_stages {a : ApplyRefundArgs} {order : PaymentOrder}
    {existing : Option PaymentRefund}
    {amount : Int} {currency : String} {refund : PaymentRefund} {s t : Session DB} (hs : Staged s)
    (hfound : s.committed.books.orders.get? order.id = some order)
    (hstatus : order.status = .paid ∨ order.status = .refunding)
    (hexisting : existing = refundWithKey order.id a.idempotencyKey s.work)
    (h : openRefund a order existing amount currency s = (.ok refund, t)) :
    ∃ refunds row f hf, refund.id = row.id ∧
      Stages t s.committed.books { s.committed.books with refunds := refunds }
        (fun b => { b with refunds := b.refunds.modify row.id f hf }) ∧
      Reversible s.committed.books order refunds row f ∧ (f row).idempotencyKey = a.idempotencyKey ∧
      (f row).providerRefundId = some a.providerRefundId := by
  cases existing with
  | none =>
    simp only [openRefund, Tx.bind_ok, conflictsAs_ok, Tx.pure_ok] at h
    obtain ⟨_, s₁, h1, _, s₂, h2, rfl, rfl⟩ := h
    obtain rfl := (Tx.add_ok ..).1 h1
    obtain ⟨d, ha, rfl⟩ := (Tx.flush_ok ..).1 h2
    simp only [Tx.applyAll_append, Tx.applyAll_cons, Tx.applyAll_nil, Option.some.injEq,
      exists_eq_right] at ha
    obtain ⟨d₁, h1, h2⟩ := ha
    have hbooks := (applyAll_neutral hs.pending h1).trans hs.work
    obtain ⟨refunds, hi, huniq, rfl⟩ := insertRefund_ok.1 h2
    refine ⟨refunds, _, fun r => r, fun _ => rfl, rfl, ⟨rfl, ?_, fun d d' ha => ?_⟩,
      ⟨hfound, hstatus, .inr ⟨?_, huniq⟩, ?_, rfl, rfl, ⟨rfl, rfl, rfl, fun _ => rfl⟩,
        .inr rfl⟩, rfl, rfl⟩
    · rw [← hbooks]
      rfl
    · rw [← Option.some.inj ha]
      simp [Table.modify]
    · rw [← hbooks]
      exact hi
    · rw [Table.get?_insert hi, if_pos rfl]
  | some existing =>
    simp only [openRefund, Tx.bind_ok, Tx.raiseIf_ok, setRefund, Tx.pure_ok] at h
    obtain ⟨_, _, ⟨hactive, rfl⟩, _, s, ⟨-, rfl⟩, _, s₁, h1, rfl, rfl⟩ := h
    have hs₁ := hs.stages.add (effect_setRefund existing.id
      (fun r => { r with providerRefundId := some a.providerRefundId }) fun _ => rfl) h1
    have hmem := List.mem_of_find?_eq_some hexisting.symm
    have horder := List.find?_some hexisting.symm
    simp only [decide_eq_true_eq] at horder
    refine ⟨s.committed.refunds, existing, fun r =>
      { r with providerRefundId := some a.providerRefundId },
      fun _ => rfl, rfl, hs₁, ⟨hfound, hstatus, .inl rfl, ?_, ?_, horder.1,
      ⟨rfl, rfl, rfl, fun h => absurd h hactive⟩, .inl rfl⟩, horder.2, rfl⟩
    · rw [← show s.work.refunds = s.committed.refunds from congrArg Books.refunds hs.work]
      exact Table.get?_of_mem hmem
    · simpa using hactive

theorem carries_applyRefund (a : ApplyRefundArgs) : Carries env (applyRefund a) := by
  refine carries_atomic (atomic_applyRefund a) fun s r t hs h => ?_
  simp only [applyRefund, Tx.bind_ok, Tx.select_ok, Tx.orRaise_ok] at h
  obtain ⟨_, _, ⟨-, rfl⟩, _, _, ⟨-, rfl⟩, found, _, ⟨hfound, rfl⟩, existing, s, ⟨hexisting, rfl⟩,
    h⟩ := h
  generalize hdone : existing.filter (fun r => decide (r.status = .refunded ∨ r.status = .risk)) =
    done at h
  cases done with
  | some refund =>
    simp only [Tx.bind_ok, Tx.raiseIf_ok, Tx.pure_ok] at h
    obtain ⟨_, _, ⟨-, rfl⟩, -, rfl⟩ := h
    exact ⟨.refl, hs⟩
  | none =>
    simp only [Tx.bind_ok, Tx.orRaise_ok, Tx.raiseIf_ok] at h
    obtain ⟨order, _, ⟨horder, rfl⟩, _, _, ⟨hne, rfl⟩, amount, _, ⟨-, rfl⟩, currency, s, ⟨-, rfl⟩,
      refund, s₁, hopen, h⟩ := h
    obtain ⟨hfound', hstatus⟩ := Option.filter_eq_some_iff.1 horder
    rw [hfound] at hfound'
    have hid := Table.key_of_get? hfound'
    have hget : s.committed.books.orders.get? order.id = some order := by
      rw [← hs.work, hid]
      exact hfound'
    have hstatus' : order.status = .paid ∨ order.status = .refunding := by
      simpa [hne] using hstatus
    rw [← hid] at hexisting
    obtain ⟨refunds, row, f, hf, hrow, hs₁, hr, -⟩ :=
      openRefund_stages hs hget hstatus' hexisting hopen
    exact reverseCredit_moves hs₁ hr hrow h

/-! ## Shortfalls -/

theorem legs_dispositionEntries (outstanding recovered : Int) :
    legs .customerAvailable (dispositionEntries outstanding recovered) = -recovered ∧
      legs .customerReserved (dispositionEntries outstanding recovered) = 0 ∧
      legs .platformClearing (dispositionEntries outstanding recovered) = 0 ∧
      legs .platformRisk (dispositionEntries outstanding recovered) = outstanding := by
  unfold dispositionEntries
  split_ifs <;> simp <;> omega

theorem ofRisk_iff (k : LedgerKind) :
    k.ofRisk = true ↔ k = .paymentRefundRisk ∨ k = .refundRiskRecover ∨
    k = .refundRiskWriteOff := by
  cases k <;> simp [LedgerKind.ofRisk]

theorem disposeShortfall_stages {a : ResolveArgs} {refund : PaymentRefund}
    {order : PaymentOrder} {wallet : Wallet}
    {outstanding : Int} {r : RiskResolution} {s t : Session DB} (hs : Staged s)
    (hrefund : s.committed.books.refunds.get? refund.id = some refund)
    (hrisk : refund.status = .risk)
    (horder : s.committed.books.orders.get? order.id = some order) (hid : refund.orderId = order.id)
    (hrefunded : order.status = .refunded) (hnet : outstanding = -riskNet refund.orderId s.work)
    (hpos : 0 < outstanding) (hwallet : s.committed.books.wallets.get? refund.userId = some wallet)
    (hcovered : a.action = "recover_available" → outstanding ≤ wallet.balanceMicrousd)
    (h : disposeShortfall a refund order wallet outstanding s = (.ok r, t)) :
    ∃ b E, Stages t s.committed.books b E ∧ Moves env s.committed.books (E b) := by
  simp only [disposeShortfall, setBalance, setRefund, setOrder, Tx.bind_ok, Tx.pure_ok] at h
  obtain ⟨_, s₁, h1, _, s₂, h2, _, s₃, h3, _, s₄, h4, _, s₅, h5, -, rfl⟩ := h
  generalize hrec : (if a.action = "recover_available" then outstanding
    else min wallet.balanceMicrousd outstanding) = recovered at *
  have hs₁ := hs.stages.add (effect_setBalance ..) h1
  obtain ⟨j, ledger, hj, hkey, hl, hs₂⟩ := hs₁.postTransaction h2
  have hs₅ := ((hs₂.add (effect_setRefund ..) h3).add (effect_setOrder ..) h4).add
    (neutral_insertOutbox _).effect h5
  refine ⟨_, _, hs₅, ?_⟩
  obtain ⟨hav, hres, hclear, hriskleg⟩ := legs_dispositionEntries outstanding recovered
  rw [hav, hres, hclear, hriskleg] at hj
  have hnet' : outstanding = -s.committed.books.ledger.sum fun t =>
      if t.reference = refund.orderId ∧ t.kind.ofRisk then t.total .platformRisk else 0 := by
    rw [hnet, ← hs.work]
    simp only [riskNet, ofRisk_iff]
    rfl
  have hbounds : min wallet.balanceMicrousd outstanding ≤ recovered ∧ recovered ≤ outstanding ∧
      recovered ≤ wallet.balanceMicrousd := by
    subst hrec
    split_ifs with haction
    · have := hcovered haction
      omega
    · omega
  have hkind : dispositionKind a.action = .refundRiskRecover ∨
      dispositionKind a.action = .refundRiskWriteOff := by
    unfold dispositionKind
    split_ifs <;> simp
  have m : Move env s.committed.books _ := .resolve refund (fun r => { r with
      status := .resolved
      riskReason := some (if outstanding - recovered = 0 then "resolved_recovered"
        else "resolved_written_off") })
    (fun _ => rfl) order (fun o => { o with
      riskReason := if order.riskReason = some "refund_balance_insufficient" then none
        else o.riskReason })
    (fun _ => rfl) wallet outstanding recovered j _ hrefund hrisk ⟨rfl, rfl, rfl, fun _ => rfl⟩ rfl
      horder hid hrefunded
    (OrderEdit.of_same rfl rfl rfl rfl (by simp [hrefunded])) rfl hnet' hpos hwallet hbounds.1
      hbounds.2.1 hbounds.2.2
    hkind hj hl ⟨a.idempotencyKey, hkey⟩
  have hwallets : s.committed.books.wallets.modify refund.userId (fun w => { w with
        balanceMicrousd := wallet.balanceMicrousd - recovered }) =
      s.committed.books.wallets.modify refund.userId fun w => { w with
        balanceMicrousd := w.balanceMicrousd - recovered } :=
    Table.modify_congr hwallet rfl
  simp only [hwallets]
  exact .single m

theorem quiet_disposeShortfall (a : ResolveArgs) (refund : PaymentRefund)
    (order : PaymentOrder) (wallet : Wallet)
    (outstanding : Int) : Tx.Quiet (disposeShortfall a refund order wallet outstanding) := by
  unfold disposeShortfall
  refine Tx.quiet_bind (Tx.quiet_add _) fun _ =>
    Tx.quiet_bind (quiet_postTransaction ..) fun _ => ?_
  refine Tx.quiet_bind (Tx.quiet_add _) fun _ => Tx.quiet_bind (Tx.quiet_add _) fun _ => ?_
  exact Tx.quiet_bind (Tx.quiet_add _) fun _ => Tx.quiet_pure _

theorem quiet_resolveRefundRisk (a : ResolveArgs) : Tx.Quiet (resolveRefundRisk a) := by
  unfold resolveRefundRisk
  refine Tx.quiet_bind (by simp) fun _ => Tx.quiet_bind (by simp) fun _ =>
    Tx.quiet_bind (by simp) fun _ => ?_
  refine Tx.quiet_bind (by simp) fun existing => ?_
  cases existing with
  | some existing => exact Tx.quiet_bind (by simp) fun _ => by simp
  | none =>
    repeat refine Tx.quiet_bind (by simp) fun _ => ?_
    exact quiet_disposeShortfall ..

theorem resolveRefundRisk_stages {a : ResolveArgs} {r : RiskResolution}
    {s t : Session DB} (hs : Staged s)
    (h : resolveRefundRisk a s = (.ok r, t)) :
    ∃ b E, Stages t s.committed.books b E ∧ Moves env s.committed.books (E b) := by
  simp only [resolveRefundRisk, Tx.bind_ok, Tx.raiseIf_ok, Tx.select_ok, Tx.orRaise_ok] at h
  obtain ⟨_, _, ⟨-, rfl⟩, _, _, ⟨rfl, rfl⟩, refund, _, ⟨hrefund, rfl⟩, existing, s, ⟨-, rfl⟩, h⟩ :=
    h
  cases existing with
  | some existing =>
    simp only [Tx.bind_ok, Tx.raiseIf_ok, Tx.pure_ok] at h
    obtain ⟨_, _, ⟨-, rfl⟩, -, rfl⟩ := h
    exact ⟨_, _, hs.stages, .refl⟩
  | none =>
    simp only [Tx.bind_ok, Tx.raiseIf_ok, Tx.select_ok, Tx.orRaise_ok] at h
    obtain ⟨_, _, ⟨hrisk, rfl⟩, _, _, ⟨rfl, rfl⟩, order, _, ⟨horder, rfl⟩, net, _, ⟨rfl, rfl⟩, _, _,
      ⟨hpos, rfl⟩, _, _, ⟨rfl, rfl⟩, wallet, _, ⟨hwallet, rfl⟩, _, _, ⟨-, rfl⟩, _, s,
      ⟨hcovered, rfl⟩, h⟩ := h
    obtain ⟨hget, hrefunded⟩ := Option.filter_eq_some_iff.1 horder
    have hid := Table.key_of_get? hget
    have hrid := Table.key_of_get? hrefund
    refine disposeShortfall_stages hs ?_ (not_not.1 hrisk) ?_ hid.symm
      (of_decide_eq_true hrefunded) rfl
      (not_le.1 hpos) ?_ (fun haction => not_lt.1 fun hlt => hcovered ⟨haction, hlt⟩) h
    · rw [← hs.work, hrid]
      exact hrefund
    · rw [← hs.work, hid]
      exact hget
    · rw [← hs.work]
      exact hwallet

theorem carries_answering {α : Type} {x : Service α} (hx : Carries env x) :
    Carries env (answering x) :=
  carries_tryExcept hx fun _ => carries_bind carries_rollback fun _ => carries_raise _

theorem carries_disposeRefundRisk (a : ResolveArgs) (op : Operator) (operationId : String) :
    Carries env (disposeRefundRisk a op operationId) := by
  refine carries_conflictsAs _ (carries_answering (carries_atomic ?_ fun s r t hs h => ?_))
  · refine Tx.atomic_bind (quiet_resolveRefundRisk a) fun _ => Tx.atomic_bind (by simp) fun _ => ?_
    exact Tx.atomic_commit_return _
  · simp only [Tx.bind_ok, Tx.pure_ok] at h
    obtain ⟨_, s₁, h1, _, s₂, h2, _, s₃, h3, -, rfl⟩ := h
    obtain ⟨b, E, hs₁, m⟩ : ∃ b E, Stages s₁ s.committed.books b E ∧
        Moves env s.committed.books (E b) :=
      resolveRefundRisk_stages hs h1
    obtain ⟨hb, ht⟩ := (hs₁.add (neutral_insertAction _).effect h2).commit h3
    rw [hb]
    exact ⟨m, ht⟩

end Kunlun
