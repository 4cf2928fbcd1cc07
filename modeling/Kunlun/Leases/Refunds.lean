import Kunlun.Atomicity
import Kunlun.Deliveries
import Kunlun.Lib.Lease

/-!
# Leases on refunds

The provider is asked for a refund by one caller at a time, for five minutes or until that
caller is done. No row says who the caller is, so what ends a claim early has to come from the
one who holds it.
-/

namespace Kunlun

/-- A call, who makes it, and when. A caller is one call of a route: the sessions of the call have
the caller in common, and no other call has it. -/
structure Call where
  caller : Nat
  time : Time
  op : Op

def Call.exec (c : Call) (d : DB) : DB := Kunlun.exec c.op d

/-! ## Refunds -/

namespace PaymentRefund

/-- A caller may be asking the provider. -/
def claimed (r : PaymentRefund) : Bool := r.status = .requesting ∨ r.status = .retrying

def finished (r : PaymentRefund) : Bool := r.status = .refunded ∨ r.status = .risk ∨
    r.status = .resolved

/-- The refund is as it was, to those who claim it, or it is finished. -/
def Stays (r r' : PaymentRefund) : Prop :=
  r'.status = r.status ∧ r'.claimStartedAt = r.claimStartedAt ∨ r'.finished

theorem Stays.trans {r r' r'' : PaymentRefund} (h : Stays r r')
    (h' : Stays r' r'') : Stays r r'' := by
  rcases h' with ⟨hs, hc⟩ | h'
  · rcases h with ⟨hs', hc'⟩ | h
    · exact .inl ⟨hs.trans hs', hc.trans hc'⟩
    · exact .inr (by simpa [finished, hs] using h)
  · exact .inr h'

theorem Stays.of_finished {r r' : PaymentRefund} (h : Stays r r')
    (hr : r.finished) : r'.finished := by
  rcases h with ⟨hs, -⟩ | h
  · simpa [finished, hs] using hr
  · exact h

end PaymentRefund

/-- What becomes of one refund. -/
def refundTrack (i : Id) (R : PaymentRefund → PaymentRefund → Prop) (refl : ∀ r, R r r)
    (trans : ∀ r r' r'', R r r' → R r' r'' → R r r'') : Track DB := .row DB.refunds i R refl trans

section RefundTrack

variable {i : Id} {R : PaymentRefund → PaymentRefund → Prop} {refl : ∀ r, R r r}
  {trans : ∀ r r' r'', R r r' → R r' r'' → R r r''}

theorem refundTrack_of_eq {d e : DB} (h : e.refunds = d.refunds) :
    (refundTrack i R refl trans).rel d e :=
  Track.row_of_eq h

theorem updateRefunds_refundTrack {p : PaymentRefund → Bool} {f : PaymentRefund → PaymentRefund}
    {hf : ∀ r, (f r).id = r.id} (h : ∀ r, r.id = i → p r → R r (f r)) :
    Kept (refundTrack i R refl trans) (DB.flushing (DB.updateRefunds p f hf)) :=
  ⟨fun d e he => by obtain rfl := of_update_unique he; exact Track.row_of_update hf rfl h⟩

theorem updateOrders_refundTrack (p : PaymentOrder → Bool) (f : PaymentOrder → PaymentOrder)
    (hf : ∀ o, (f o).id = o.id) : Kept (refundTrack i R refl trans)
    (DB.flushing (DB.updateOrders p f hf)) :=
  ⟨fun d e h => by obtain rfl := of_update_unique h; exact refundTrack_of_eq rfl⟩

theorem keepsMoney_refundTrack (hstep : ∀ r r', RefundStep r r' → R r r') :
    KeepsMoney (refundTrack i R refl trans) := by
  refine keepsMoney_of (keepsAccounts_of (fun _ _ _ _ _ _ _ => refundTrack_of_eq rfl) fun _ _ _ _ =>
    ?_)
    (fun _ _ _ _ _ => refundTrack_of_eq rfl) (fun _ => ?_) (fun _ => ?_) (fun _ => ?_)
      (fun r _ => ⟨fun d e h => ?_⟩)
    (fun p f hf _ => updateOrders_refundTrack p f hf) fun p f hf h =>
      updateRefunds_refundTrack fun r _ hp =>
      hstep r (f r) (h r hp)
  · exact ⟨fun d e h => by obtain rfl := Option.some.inj h; exact refundTrack_of_eq rfl⟩
  · exact ⟨fun d e h => by obtain ⟨t, rfl⟩ := of_insert_unique h; exact refundTrack_of_eq rfl⟩
  · exact ⟨fun d e h => by obtain ⟨t, rfl⟩ := of_insert_unique h; exact refundTrack_of_eq rfl⟩
  · exact ⟨fun d e h => by obtain ⟨t, rfl⟩ := of_insert_unique h; exact refundTrack_of_eq rfl⟩
  · obtain ⟨t, ht, -, rfl⟩ := insertRefund_ok.1 h
    exact Track.row_of_insert ht

theorem keepsRisk_refundTrack (hrisk : ∀ r r', r'.status = .risk → R r r') :
    KeepsRisk (refundTrack i R refl trans) where
  atRisk _ := updateRefunds_refundTrack fun _ _ _ => hrisk _ _ rfl

theorem keepsActivation_refundTrack : KeepsActivation (refundTrack i R refl trans) where
  verify _ _ := ⟨fun d e h => by obtain rfl := Option.some.inj h; exact refundTrack_of_eq rfl⟩
  unfreeze _ := ⟨fun d e h => by obtain rfl := Option.some.inj h; exact refundTrack_of_eq rfl⟩

theorem keepsReconcile_refundTrack (orderId : Id) :
    KeepsReconcile (refundTrack i R refl trans) orderId where
  claim _ _ := updateOrders_refundTrack ..
  release := updateOrders_refundTrack ..
  pending _ := updateOrders_refundTrack ..

end RefundTrack

/-- A refund that is there stays, or finishes. -/
def refundStays (i : Id) : Track DB :=
  refundTrack i PaymentRefund.Stays (fun _ => .inl ⟨rfl, rfl⟩) fun _ _ _ =>
    PaymentRefund.Stays.trans

/-- A finished refund stays finished. -/
def refundEnds (i : Id) : Track DB :=
  refundTrack i (fun r r' => r.finished → r'.finished) (fun _ => id) fun _ _ _ h h' => h' ∘ h

theorem stays_of_step {r r' : PaymentRefund} (h : RefundStep r r') : r.Stays r' := by
  rcases h.claim with h | h | h
  · exact .inl h
  · exact .inr (by simp [PaymentRefund.finished, h])
  · exact .inr (by simp [PaymentRefund.finished, h])

theorem stays_of_risk {r r' : PaymentRefund} (h : r'.status = .risk) : r.Stays r' :=
  .inr (by simp [PaymentRefund.finished, h])

theorem keepsAll_refundEnds (i : Id) : KeepsAll (refundEnds i) where
  toKeepsMoney := keepsMoney_refundTrack fun _ _ h => (stays_of_step h).of_finished
  toKeepsRisk := keepsRisk_refundTrack fun _ _ h => (stays_of_risk h).of_finished
  toKeepsActivation := keepsActivation_refundTrack
  reconcile := keepsReconcile_refundTrack
  regrant _ _ _ _ _ hactive := updateRefunds_refundTrack fun r _ hp hr => by
    have := hactive r (Bool.and_eq_true_iff.1 hp).2
    cases hs : r.status <;> simp [RefundStatus.isActive, PaymentRefund.finished, hs] at this hr
  uncertain _ _ := updateRefunds_refundTrack fun r _ hp hr => by
    simp only [Bool.and_eq_true, decide_eq_true_eq] at hp
    rcases hp.2 with hs | hs <;> simp [PaymentRefund.finished, hs] at hr

/-- Only a grant of the refund, or a report that leaves it open, takes its claim away. -/
theorem keeps_refundUncertain {i refundId : Id} (h : refundId ≠ i) (orderId : Id)
    (orderReason refundReason : String) :
    Keeps (refundStays i) (refundUncertain orderId refundId orderReason refundReason) := by
  refine Tx.keeps_bind (keeps_execute (updateOrders_refundTrack ..)) fun _ => ?_
  refine Tx.keeps_bind (keeps_execute (updateRefunds_refundTrack fun r hi hp => ?_))
    fun _ => by simp
  simp only [Bool.and_eq_true, decide_eq_true_eq] at hp
  exact absurd (hp.1.symm.trans hi) h

/-! ### The grant -/

/-- What a granted command has found, and what it leaves. -/
inductive RefundGrant (a : PrepareRefundArgs) (r : PaymentRefund) (d e : DB) : Prop where
  | again (x : PaymentRefund) (next : RefundStatus) (found : d.refunds.get? r.id = some x)
      (free : x.status = .pendingReconciliation ∨ x.claimed ∧ x.claimStartedAt + a.lease ≤ a.now)
      (hnext : next = .requesting ∨ next = .retrying)
      (refunds : e.refunds = d.refunds.modify r.id (reclaimedRefund next a.now))
  | first (claimed : r.claimed) (since : r.claimStartedAt = a.createdAt) (insert : d.refunds.insert?
    r = some e.refunds)

theorem regrantRefund_ok {existing r : PaymentRefund} {unchanged : PaymentRefund → Bool}
    {next : RefundStatus}
    {now : Time} {d : DB} {b : Bool} {t : Session DB}
    (h : regrantRefund existing unchanged next now (.fresh d) = (.ok (r, b), t)) :
    b = true ∧ r.id = existing.id ∧ ∃ x, d.refunds.get? existing.id = some x ∧ unchanged x ∧
      t.committed.refunds = d.refunds.modify existing.id (reclaimedRefund next now) := by
  simp only [regrantRefund, Tx.bind_ok, Tx.execute_ok, Tx.rollbackIf_ok,
    Tx.commit_ok, Tx.pure_ok] at h
  obtain ⟨n, _, ⟨d', hd, rfl⟩, _, _, ⟨hn, rfl⟩, _, _, ⟨d'', hc, rfl⟩, hr, rfl⟩ := h
  obtain rfl := not_not.1 hn
  obtain ⟨x, hx, hq, rfl⟩ := updateRefunds_one hd
  obtain rfl := Option.some.inj hc
  obtain ⟨rfl, rfl⟩ := Prod.mk.inj hr
  exact ⟨rfl, rfl, x, hx, hq, rfl⟩

theorem regrantRefund_grants {a : PrepareRefundArgs} {existing r : PaymentRefund}
    {unchanged : PaymentRefund → Bool}
    {next : RefundStatus} {d : DB} {b : Bool} {t : Session DB}
    (h : regrantRefund existing unchanged next a.now (.fresh d) = (.ok (r, b), t))
    (hnext : next = .requesting ∨ next = .retrying)
    (free : ∀ x, unchanged x → x.status = .pendingReconciliation ∨ x.claimed ∧
      x.claimStartedAt + a.lease ≤ a.now) :
    b = true ∧ RefundGrant a r d t.committed := by
  obtain ⟨rfl, hid, x, hx, hq, ht⟩ := regrantRefund_ok h
  rw [← hid] at hx ht
  exact ⟨rfl, .again x next hx (free x hq) hnext ht⟩

theorem reclaimRefund_ok {a : PrepareRefundArgs} {existing r : PaymentRefund} {d : DB}
    {b : Bool} {t : Session DB}
    (h : reclaimRefund existing a.now a.lease (.fresh d) = (.ok (r, b), t)) :
    b = false ∧ t.committed = d ∨ b = true ∧ RefundGrant a r d t.committed := by
  have hlease (hclaimed : existing.claimed) (hfree : ¬ a.now - a.lease < existing.claimStartedAt)
    (x : PaymentRefund)
      (hx : decide (x.status = existing.status) && decide
        (x.claimStartedAt = existing.claimStartedAt)) :
      x.status = .pendingReconciliation ∨ x.claimed ∧ x.claimStartedAt + a.lease ≤ a.now := by
    simp only [Bool.and_eq_true, decide_eq_true_eq] at hx
    refine .inr ⟨by rwa [PaymentRefund.claimed, hx.1, ← PaymentRefund.claimed], ?_⟩
    rw [hx.2]
    exact Int.add_le_of_le_sub_right (Int.not_lt.1 hfree)
  cases hs : existing.status <;> simp only [reclaimRefund, hs] at h
  case requesting | retrying =>
    simp only [Tx.bind_ok, Tx.rollbackIf_ok] at h
    obtain ⟨_, _, ⟨hfree, rfl⟩, h⟩ := h
    exact .inr (regrantRefund_grants h (by simp) fun x hx =>
      hlease (by simp [PaymentRefund.claimed, hs]) hfree x (by simpa [hs] using hx))
  case pendingReconciliation =>
    exact .inr (regrantRefund_grants h (.inl rfl) fun x hx => .inl (of_decide_eq_true hx))
  case refunded | risk =>
    simp only [Tx.bind_ok, Tx.rollback_ok, Tx.pure_ok] at h
    obtain ⟨_, _, rfl, hr, rfl⟩ := h
    exact .inl ⟨(Prod.mk.inj hr).2, rfl⟩
  case resolved => simp at h

theorem commandRefund_ok {a : PrepareRefundArgs} {r : PaymentRefund} {d : DB}
    {b : Bool} {t : Session DB}
    (h : commandRefund a (.fresh d) = (.ok (r, b), t)) :
    b = true ∧ ∃ order amount currency, d.orders.get? a.orderId = some order ∧
    order.status = .paid ∧
      r = newRefund a.refundId order none a.idempotencyKey amount currency a.createdAt ∧
      d.refunds.insert? r = some t.committed.refunds ∧ uniqueRefunds t.committed.refunds.rows := by
  simp only [commandRefund, Tx.bind_ok, Tx.select_ok, Tx.orRaise_ok, Tx.add_ok,
    Tx.execute_ok, Tx.rollbackIf_ok, conflictsAs_ok, Tx.commit_ok, Tx.pure_ok] at h
  obtain ⟨_, _, ⟨rfl, rfl⟩, order, _, ⟨hfound, rfl⟩, amount, _, ⟨-, rfl⟩, currency, _,
    ⟨-, rfl⟩, _, _, rfl, n, _, ⟨d', hd, rfl⟩, _, _, ⟨-, rfl⟩, _, _, ⟨d'', hc, rfl⟩, hr, rfl⟩ := h
  obtain ⟨hfound, hpaid⟩ := Option.filter_eq_some_iff.1 hfound
  obtain ⟨rfl, rfl⟩ := Prod.mk.inj hr
  obtain ⟨-, rfl, -⟩ := updateOrders_ok.1 hd
  simp only [Session.fresh, List.nil_append, Tx.applyAll_cons, Tx.applyAll_nil, Option.some.injEq,
    exists_eq_right] at hc
  obtain ⟨rows, hrows, hu, rfl⟩ := insertRefund_ok.1 hc
  exact ⟨rfl, order, amount, currency, hfound, of_decide_eq_true hpaid, rfl, hrows, hu⟩

theorem prepareRefund_ok {a : PrepareRefundArgs} {r : PaymentRefund} {d : DB}
    {b : Bool} {t : Session DB}
    (h : prepareRefund a (.fresh d) = (.ok (r, b), t)) :
    b = false ∧ t.committed = d ∨ b = true ∧ RefundGrant a r d t.committed := by
  simp only [prepareRefund, Tx.bind_ok, Tx.raiseIf_ok, Tx.select_ok] at h
  obtain ⟨_, _, ⟨-, rfl⟩, existing, _, ⟨-, rfl⟩, h⟩ := h
  cases existing with
  | some existing => exact reclaimRefund_ok h
  | none =>
    obtain ⟨rfl, order, amount, currency, -, -, rfl, hrows, -⟩ := commandRefund_ok h
    exact .inr ⟨rfl, .first rfl rfl hrows⟩

/-- The refund that the caller may ask the provider for. -/
def grantedId : Except Exc (PaymentRefund × Bool) → Option Id
  | .ok (r, true) => some r.id
  | _ => none

def Op.grantedRefund (op : Op) (d : DB) : Option Id :=
  match op with
  | .prepareRefund a => grantedId (Kunlun.prepareRefund a (.fresh d)).1
  | .refundGranted a => grantedId (Kunlun.refundGranted a (.fresh d)).1
  | _ => none

/-- The command of a call that asks for a grant. -/
def Op.command : Op → Option PrepareRefundArgs
  | .prepareRefund a | .refundGranted a => some a
  | _ => none

theorem prepareRefund_cases (a : PrepareRefundArgs) (d : DB) :
    grantedId (prepareRefund a (.fresh d)).1 = none ∧ (prepareRefund a (.fresh d)).2.committed = d ∨
    ∃ r, grantedId (prepareRefund a (.fresh d)).1 = some r.id ∧
      RefundGrant a r d (prepareRefund a (.fresh d)).2.committed := by
  have hatomic := (atomic_prepareRefund a).committed (.fresh d)
  rcases hrun : prepareRefund a (.fresh d) with ⟨result, t⟩
  rw [hrun] at hatomic
  cases result with
  | error e => exact .inl ⟨rfl, hatomic e rfl⟩
  | ok granted =>
    obtain ⟨r, b⟩ := granted
    rcases prepareRefund_ok hrun with ⟨rfl, h⟩ | ⟨rfl, h⟩
    · exact .inl ⟨rfl, h⟩
    · exact .inr ⟨r, rfl, h⟩

theorem answering_cases {α : Type} (x : Service α) (s : Session DB) :
    (answering x s).2.committed = (x s).2.committed ∧
      ((∃ a, (x s).1 = .ok a ∧ (answering x s).1 = .ok a) ∨ ∃ e e', (x s).1 = .error e ∧
        (answering x s).1 = .error e') := by
  unfold answering Tx.tryExcept
  rcases x s with ⟨r, t⟩
  cases r with
  | ok a => exact ⟨rfl, .inl ⟨a, rfl, rfl⟩⟩
  | error e =>
    dsimp only
    split
    · exact ⟨rfl, .inr ⟨e, _, rfl, rfl⟩⟩
    · exact ⟨rfl, .inr ⟨e, e, rfl, rfl⟩⟩

theorem refundGranted_cases (a : PrepareRefundArgs) (d : DB) :
    grantedId (refundGranted a (.fresh d)).1 = none ∧ (refundGranted a (.fresh d)).2.committed = d ∨
    grantedId (refundGranted a (.fresh d)).1 = grantedId (prepareRefund a (.fresh d)).1 ∧
      (refundGranted a (.fresh d)).2.committed = (prepareRefund a (.fresh d)).2.committed := by
  cases hfound : (d.orders.get? a.orderId).filter fun o =>
      o.paymentAmountMinor ≠ none ∧ o.paymentCurrency ≠ none ∧ o.providerTransactionId ≠ none with
  | none =>
    left
    have hrun : refundGranted a (.fresh d) = (.error (.http "订单当前不可退款" 409), .fresh d) := by
      unfold refundGranted
      refine (Tx.bind_of_ok rfl).trans ?_
      show (Tx.orRaise ((d.orders.get? a.orderId).filter _) _ >>= _) _ = _
      rw [hfound]
      rfl
    rw [hrun]
    exact ⟨rfl, rfl⟩
  | some order =>
    right
    have hrun : refundGranted a (.fresh d) = answering (prepareRefund a) (.fresh d) := by
      unfold refundGranted
      refine (Tx.bind_of_ok rfl).trans ?_
      show (Tx.orRaise ((d.orders.get? a.orderId).filter _) _ >>= _) _ = _
      rw [hfound]
      rfl
    rw [hrun]
    obtain ⟨hc, ⟨r, h1, h2⟩ | ⟨e, e', h1, h2⟩⟩ := answering_cases (prepareRefund a) (.fresh d)
    · exact ⟨by rw [h1, h2], hc⟩
    · exact ⟨by rw [h1, h2]; rfl, hc⟩

theorem command_cases {op : Op} {a : PrepareRefundArgs} (h : op.command = some a) (d : DB) :
    op.grantedRefund d = none ∧ exec op d = d ∨
    ∃ r, op.grantedRefund d = some r.id ∧ RefundGrant a r d (exec op d) := by
  cases op with
  | prepareRefund a' =>
    obtain rfl := Option.some.inj h
    rw [exec, Op.service, run_discard]
    exact prepareRefund_cases a' d
  | refundGranted a' =>
    obtain rfl := Option.some.inj h
    rw [exec, Op.service, run_discard]
    rcases refundGranted_cases a' d with h | ⟨hid, hc⟩
    · exact .inl h
    · simp only [Op.grantedRefund, Tx.run, hid, hc]
      exact prepareRefund_cases a' d
  | _ => cases h

/-! ### The lease -/

/-- The refund on which the call reports that the provider's answer is missing or unclear. -/
def Op.uncertainRefund : Op → Option Id
  | .refundFailed _ refundId _ | .refundUnconfirmed _ refundId _ => some refundId
  | _ => none

/-- The refund whose grant the call reports as finished. -/
def Op.reportedRefund : Op → Option Id
  | .refundFailed _ refundId _ | .refundUnconfirmed _ refundId _ | .refundConfirmed _ _ _
    refundId => some refundId
  | _ => none

def refundLease (refundId : Id) (term : Time) : Lease DB Call Nat where
  step := Call.exec
  caller := Call.caller
  clock := Call.time
  term := term
  grants c d := c.op.grantedRefund d = some refundId
  reports c := c.op.reportedRefund = some refundId
  since d := ((d.refunds.get? refundId).filter PaymentRefund.claimed).map
    PaymentRefund.claimStartedAt
  closed d := ∃ r, d.refunds.get? refundId = some r ∧ r.finished

/-- A refund command reads the time of its call, has this lease, and inserts its row after it read
the clock. -/
def Call.OnTime (term : Time) (c : Call) : Prop :=
  ∀ a ∈ c.op.command, a.now = c.time ∧ a.lease = term ∧ a.now ≤ a.createdAt

instance (term : Time) (c : Call) :
    Decidable (c.OnTime term) := by unfold Call.OnTime; infer_instance

section RefundLease

variable {refundId : Id} {term : Time}

theorem refundLease_closed (d : DB) (c : Call) (h : (refundLease refundId term).closed d) :
    (refundLease refundId term).closed (exec c.op d) := by
  obtain ⟨r, hr, hfinished⟩ := h
  obtain ⟨r', hr', h⟩ := exec_keeps (keepsAll_refundEnds refundId) c.op d r hr
  exact ⟨r', hr', h hfinished⟩

theorem refundLease_grants {c : Call} {d : DB} (h : (refundLease refundId term).grants c d) :
    ∃ a, c.op.command = some a ∧ ∃ r, r.id = refundId ∧ RefundGrant a r d (exec c.op d) := by
  have h : c.op.grantedRefund d = some refundId := of_decide_eq_true h
  cases hop : c.op.command with
  | none => cases c with | mk caller time op => cases op <;> simp_all [Op.command, Op.grantedRefund]
  | some a =>
    rcases command_cases hop d with ⟨hnone, -⟩ | ⟨r, hr, hgrant⟩
    · rw [hnone] at h
      cases h
    · exact ⟨a, rfl, r, Option.some.inj (hr.symm.trans h), hgrant⟩

theorem refundLease_since {d : DB} {r : PaymentRefund} (h : d.refunds.get? refundId = some r) :
    (refundLease refundId term).since d = if r.claimed then some r.claimStartedAt else none := by
  show Option.map _ (Option.filter _ (d.refunds.get? refundId)) = _
  rw [h, Option.filter]
  split <;> rfl

theorem PaymentRefund.finished_eq {r : PaymentRefund}
    (h : r.status = .pendingReconciliation ∨ r.claimed) :
    r.finished = false := by
  rcases h with hs | hs
  · simp [PaymentRefund.finished, hs]
  · simp only [PaymentRefund.claimed, decide_eq_true_eq] at hs
    rcases hs with hs | hs <;> simp [PaymentRefund.finished, hs]

theorem refundLease_lawful : (refundLease refundId term).Lawful (Call.OnTime term) where
  free d c hok h := by
    obtain ⟨a, ha, r, rfl, hgrant⟩ := refundLease_grants h
    obtain ⟨hnow, rfl, -⟩ := hok a ha
    show ¬ _ ∧ ∀ t ∈ _, t + a.lease ≤ c.time
    rw [← hnow]
    cases hgrant with
    | again x next found free hnext refunds =>
      refine ⟨fun ⟨y, hy, hfinished⟩ => ?_, fun t ht => ?_⟩
      · obtain rfl := Option.some.inj (found.symm.trans hy)
        rw [PaymentRefund.finished_eq (free.imp_right And.left)] at hfinished
        cases hfinished
      · rw [refundLease_since found] at ht
        obtain ⟨hclaimed, ht⟩ := Option.ite_none_right_eq_some.1 ht
        obtain rfl := Option.some.inj ht
        rcases free with hs | ⟨-, hle⟩
        · simp [PaymentRefund.claimed, hs] at hclaimed
        · exact hle
    | first claimed since insert =>
      have hnone := (Table.insert?_eq_some.1 insert).1
      refine ⟨fun ⟨y, hy, _⟩ => ?_, fun t ht => ?_⟩
      · rw [hnone] at hy
        cases hy
      · simp [refundLease, hnone] at ht
  held d c hok h := by
    obtain ⟨a, ha, r, rfl, hgrant⟩ := refundLease_grants h
    obtain ⟨hnow, -, hclock⟩ := hok a ha
    show ∃ t, _ ∧ c.time ≤ t
    rw [← hnow]
    cases hgrant with
    | again x next found free hnext refunds =>
      have hget : (exec c.op d).refunds.get? r.id = some (reclaimedRefund next a.now x) := by
        rw [refunds]
        exact Table.get?_modify_self found (reclaimedRefund next a.now) (fun _ => rfl)
      refine ⟨a.now, (refundLease_since hget).trans ?_, Int.le_refl _⟩
      rw [if_pos (by rcases hnext with rfl | rfl <;> rfl)]
      rfl
    | first claimed since insert =>
      have hget : (exec c.op d).refunds.get? r.id =
          some r := by rw [Table.get?_insert insert, if_pos rfl]
      refine ⟨r.claimStartedAt, (refundLease_since hget).trans (if_pos claimed), ?_⟩
      rw [since]
      exact hclock
  closed d c := refundLease_closed d c

/-- A call that leaves a refund unclear, where it finds a live claim, comes from the one who was
last granted it. -/
def Call.ByHolder (refundId : Id) (term : Time) (c : Call) (s : Lease.Held DB Nat) : Prop :=
  c.op.uncertainRefund = some refundId →
    ∀ r ∈ s.state.refunds.get? refundId, r.claimed → c.time < r.claimStartedAt + term →
      s.holder = some c.caller

instance (c : Call) (s : Lease.Held DB Nat) : Decidable (c.ByHolder refundId term s) := by
  unfold Call.ByHolder; infer_instance

theorem exec_refundStays {op : Op} (hc : op.command = none)
    (hu : op.uncertainRefund ≠ some refundId) (d : DB) :
    (refundStays refundId).rel d (exec op d) := by
  cases hop : op.onRefundClaim with
  | false =>
    exact exec_keeps_of (keepsMoney_refundTrack fun _ _ => stays_of_step)
      (fun _ => keepsActivation_refundTrack)
      (fun _ => keepsRisk_refundTrack fun _ _ => stays_of_risk) (fun h => by simp [hop] at h)
      (fun i _ => keepsReconcile_refundTrack i) d
  | true =>
    cases op with
    | prepareRefund a | refundGranted a => cases hc
    | refundFailed orderId i code =>
      rw [exec, Op.service, run_discard]
      exact (keeps_refundUncertain (fun h => hu (congrArg some h)) ..).run d
    | refundUnconfirmed orderId i status =>
      rw [exec, Op.service, run_discard]
      exact (keeps_refundUncertain (fun h => hu (congrArg some h)) ..).run d
    | _ => cases hop

theorem RefundGrant.other {a : PrepareRefundArgs} {r x : PaymentRefund} {d e : DB}
    (h : RefundGrant a r d e)
    (hr : r.id ≠ refundId) (hx : d.refunds.get? refundId = some x) :
    e.refunds.get? refundId = some x := by
  cases h with
  | again y next found free hnext refunds =>
    rw [refunds]
    exact (Table.get?_modify d.refunds r.id refundId (reclaimedRefund next a.now)
      (fun _ => rfl)).trans
      (by rw [if_neg (Ne.symm hr), hx])
  | first claimed since insert => exact Table.get?_insert_of_some insert hx

theorem Call.ByHolder.respects {c : Call} {s : Lease.Held DB Nat} (h : c.ByHolder refundId term s) :
    (refundLease refundId term).Respects c s := by
  intro t ht
  obtain ⟨r, hr, rfl⟩ := Option.map_eq_some_iff.1 ht
  obtain ⟨hr, hclaimed⟩ := Option.filter_eq_some_iff.1 hr
  have hsince {r' : PaymentRefund} (h' : (c.exec s.state).refunds.get? refundId = some r')
      (hs : r'.status = r.status) (hc : r'.claimStartedAt = r.claimStartedAt) :
      (refundLease refundId term).since (c.exec s.state) = some r.claimStartedAt := by
    rw [refundLease_since h', if_pos (by rwa [PaymentRefund.claimed, hs, ← PaymentRefund.claimed]),
      hc]
  by_cases hu : c.op.uncertainRefund = some refundId
  · by_cases hlive : c.time < r.claimStartedAt + term
    · refine .inr (.inr (.inr (.inr ⟨decide_eq_true ?_, h hu r hr hclaimed hlive⟩)))
      cases c with | mk caller time op =>
        cases op <;> simp_all [Op.uncertainRefund, Op.reportedRefund]
    · exact .inr (.inr (.inr (.inl (Int.not_lt.1 hlive))))
  · cases hc : c.op.command with
    | none =>
      obtain ⟨r', hr', hstays⟩ := exec_refundStays hc hu s.state r hr
      rcases hstays with ⟨hs, hclaim⟩ | hfinished
      · exact .inl (hsince hr' hs hclaim)
      · exact .inr (.inl ⟨r', hr', hfinished⟩)
    | some a =>
      rcases command_cases hc s.state with ⟨-, hsame⟩ | ⟨x, hx, hgrant⟩
      · exact .inl (hsince (by rw [Call.exec, hsame]; exact hr) rfl rfl)
      · by_cases hid : x.id = refundId
        · exact .inr (.inr (.inl (decide_eq_true (hx.trans (congrArg some hid)))))
        · exact .inl (hsince (hgrant.other hid hr) rfl rfl)

end RefundLease

/-- Two grants of one refund are apart by the lease, or by the report of the one who had the first,
where only the one who had the last grant reports an open refund as unclear. -/
theorem refunds_exclusive (refundId : Id) (term : Time) (d : DB) {xs ys : List Call} {a b : Call}
    (h : Run.Along (refundLease refundId term).next
      (fun c s => c.OnTime term ∧ (refundLease refundId term).InTime c s ∧
        c.ByHolder refundId term s) ⟨d, none, none⟩
      (xs ++ a :: ys ++ [b]))
    (ha : a.op.grantedRefund (Run.after Call.exec d xs) = some refundId)
    (hb : b.op.grantedRefund (Run.after Call.exec d (xs ++ a :: ys)) = some refundId) :
    a.time + term ≤ b.time ∨ ∃ y ∈ ys, y.op.reportedRefund = some refundId ∧
    y.caller = a.caller := by
  have hallowed := Run.along_mono
    (fun c s (hc : c.OnTime term ∧ (refundLease refundId term).InTime c s ∧
    c.ByHolder refundId term s) =>
      (⟨hc.1, hc.2.2.respects, hc.2.1⟩ : Lease.Allowed _ (Call.OnTime term) c s)) h
  rcases Lease.exclusive refundLease_lawful hallowed (decide_eq_true ha) (decide_eq_true hb) with
    h | ⟨y, hy, hr, hc⟩
  · exact .inl h
  · exact .inr ⟨y, hy, of_decide_eq_true hr, hc⟩

/-- A caller asks for the refund of the order that `paid` has paid. -/
def refundCall (caller : Nat) (now : Time) : Call :=
  ⟨caller, now, .refundGranted ⟨"o", "refund", now, refundClaimLease, "r", now⟩⟩

/-- The calls that pay an order, and the first claim on its refund. -/
def paidCalls : List Call := paid.map (Call.mk 0 0)

/-- The first caller is late: its report ends the claim of the second, and a third is granted. -/
theorem refunds_shared :
    ¬ ∀ (xs ys : List Call) (a b : Call),
      Run.Along (refundLease "r" refundClaimLease).next
        (fun c s => c.OnTime refundClaimLease ∧ (refundLease "r" refundClaimLease).InTime c s)
          ⟨DB.empty, none, none⟩
        (xs ++ a :: ys ++ [b]) →
      a.op.grantedRefund (Run.after Call.exec DB.empty xs) = some "r" →
      b.op.grantedRefund (Run.after Call.exec DB.empty (xs ++ a :: ys)) = some "r" →
      a.time + refundClaimLease ≤ b.time ∨ ∃ y ∈ ys, y.op.reportedRefund = some "r" ∧
      y.caller = a.caller := by
  intro h
  have hapart := h (paidCalls ++ [refundCall 1 0])
    [⟨1, refundClaimLease, .refundFailed "o" "r" "timeout"⟩]
    (refundCall 2 refundClaimLease) (refundCall 3 (refundClaimLease + second)) (by decide +kernel)
      (by decide +kernel)
    (by decide +kernel)
  revert hapart
  decide +kernel

/-- The second caller is granted nothing within the lease of the first, and the refund once the
first has reported. -/
theorem refunds_exclusive_early :
    (refundCall 2 minute).op.grantedRefund
      (Run.after Call.exec DB.empty (paidCalls ++ [refundCall 1 0])) ≠ some "r" ∧
    (refundCall 2 minute).op.grantedRefund
      (Run.after Call.exec DB.empty (paidCalls ++ refundCall 1 0 ::
      [⟨1, second, .refundFailed "o" "r" "timeout"⟩])) = some "r" ∧
    ∃ y ∈ [Call.mk 1 second (.refundFailed "o" "r" "timeout")],
      y.op.reportedRefund = some "r" ∧ y.caller = 1 := by
  have hfirst : (refundCall 1 0).op.grantedRefund (Run.after Call.exec DB.empty paidCalls) =
      some "r" := by decide +kernel
  have hsecond : (refundCall 2 minute).op.grantedRefund
    (Run.after Call.exec DB.empty (paidCalls ++ refundCall 1 0 ::
      [⟨1, second, .refundFailed "o" "r" "timeout"⟩])) = some "r" := by decide +kernel
  have hlease : ¬ (refundCall 1 0).time + refundClaimLease ≤ (refundCall 2 minute).time := by decide
  refine ⟨fun hgrant => ?_, hsecond, ?_⟩
  · rcases refunds_exclusive "r" refundClaimLease DB.empty (by decide +kernel) hfirst
      hgrant with h | ⟨y, hy, -⟩
    · exact hlease h
    · cases hy
  · exact (refunds_exclusive "r" refundClaimLease DB.empty (by decide +kernel) hfirst
      hsecond).resolve_left hlease

end Kunlun
