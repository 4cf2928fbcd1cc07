import Kunlun.Checkouts
import Kunlun.Leases.Refunds

/-!
# Leases on reconciliations

An operator who reconciles an order claims it for five minutes. The claim is cleared from
four places, and none of them asks whose it is.
-/

namespace Kunlun

/-! ## The claim of an order -/

/-- What most writes to an order do to its claim: nothing, where the order stays open. -/
structure ClaimStays (o o' : PaymentOrder) : Prop where
  closed : o.status.isOpen = false → o'.status.isOpen = false
  claim : o'.status.isOpen → o'.reconciliationClaimStartedAt = o.reconciliationClaimStartedAt

theorem ClaimStays.refl (o : PaymentOrder) : ClaimStays o o := ⟨id, fun _ => rfl⟩

theorem ClaimStays.trans (o o' o'' : PaymentOrder) (h : ClaimStays o o')
    (h' : ClaimStays o' o'') : ClaimStays o o'' := by
  refine ⟨h'.closed ∘ h.closed, fun hopen => (h'.claim hopen).trans (h.claim ?_)⟩
  by_contra hclosed
  simp [h'.closed (by simpa using hclosed)] at hopen

/-- What becomes of one order. -/
def orderTrack (i : Id) (R : PaymentOrder → PaymentOrder → Prop) (refl : ∀ o, R o o)
    (trans : ∀ o o' o'', R o o' → R o' o'' → R o o'') : Track DB := .row DB.orders i R refl trans

section OrderTrack

variable {i : Id} {R : PaymentOrder → PaymentOrder → Prop} {refl : ∀ o, R o o}
  {trans : ∀ o o' o'', R o o' → R o' o'' → R o o''}

theorem orderTrack_of_eq {d e : DB} (h : e.orders = d.orders) :
    (orderTrack i R refl trans).rel d e :=
  Track.row_of_eq h

theorem updateOrders_orderTrack {p : PaymentOrder → Bool} {f : PaymentOrder → PaymentOrder}
    {hf : ∀ o, (f o).id = o.id}
    (h : ∀ o, o.id = i → p o → R o (f o)) : Kept (orderTrack i R refl trans)
    (DB.flushing (DB.updateOrders p f hf)) :=
  ⟨fun d e he => by obtain rfl := of_update_unique he; exact Track.row_of_update hf rfl h⟩

theorem updateRefunds_orderTrack (p : PaymentRefund → Bool) (f : PaymentRefund → PaymentRefund)
    (hf : ∀ r, (f r).id = r.id) : Kept (orderTrack i R refl trans)
    (DB.flushing (DB.updateRefunds p f hf)) :=
  ⟨fun d e h => by obtain rfl := of_update_unique h; exact orderTrack_of_eq rfl⟩

theorem keepsMoney_orderTrack (hstep : ∀ o o', OrderStep o o' → R o o') :
    KeepsMoney (orderTrack i R refl trans) := by
  refine keepsMoney_of (keepsAccounts_of (fun _ _ _ _ _ _ _ => orderTrack_of_eq rfl) fun _ _ _ _ =>
    ?_)
    (fun _ _ _ _ _ => orderTrack_of_eq rfl) (fun _ => ?_) (fun _ => ?_)
      (fun o => ⟨fun d e h => ?_⟩) (fun _ _ => ?_)
    (fun p f hf h => updateOrders_orderTrack fun o _ hp => hstep o (f o) (h o hp))
    fun p f hf _ => updateRefunds_orderTrack p f hf
  · exact ⟨fun d e h => by obtain rfl := Option.some.inj h; exact orderTrack_of_eq rfl⟩
  · exact ⟨fun d e h => by obtain ⟨t, rfl⟩ := of_insert_unique h; exact orderTrack_of_eq rfl⟩
  · exact ⟨fun d e h => by obtain ⟨t, rfl⟩ := of_insert_unique h; exact orderTrack_of_eq rfl⟩
  · obtain ⟨t, ht, -, rfl⟩ := insertOrder_ok.1 h
    exact Track.row_of_insert ht
  · exact ⟨fun d e h => by obtain ⟨t, rfl⟩ := of_insert_unique h; exact orderTrack_of_eq rfl⟩

theorem keepsRisk_orderTrack : KeepsRisk (orderTrack i R refl trans) where
  atRisk _ := updateRefunds_orderTrack ..

theorem keepsActivation_orderTrack : KeepsActivation (orderTrack i R refl trans) where
  verify _ _ := ⟨fun d e h => by obtain rfl := Option.some.inj h; exact orderTrack_of_eq rfl⟩
  unfreeze _ := ⟨fun d e h => by obtain rfl := Option.some.inj h; exact orderTrack_of_eq rfl⟩

theorem keepsClaims_orderTrack : KeepsClaims (orderTrack i R refl trans) where
  regrant _ _ _ _ _ _ := updateRefunds_orderTrack ..
  uncertain _ _ := updateRefunds_orderTrack ..

end OrderTrack

def claimStays (orderId : Id) : Track DB :=
  .row DB.orders orderId ClaimStays ClaimStays.refl ClaimStays.trans

section ClaimStays

variable {orderId : Id}

theorem keepsMoney_claimStays : KeepsMoney (claimStays orderId) :=
  keepsMoney_orderTrack fun _ _ h => ⟨h.closed, h.claim⟩

theorem keepsReconcile_claimStays {i : Id} (h : i ≠ orderId) :
    KeepsReconcile (claimStays orderId) i where
  claim _ _ := updateOrders_orderTrack fun _ ho hp =>
    absurd ((of_decide_eq_true hp).symm.trans ho) h
  release := updateOrders_orderTrack fun _ ho hp => absurd ((of_decide_eq_true hp).symm.trans ho) h
  pending _ := updateOrders_orderTrack fun _ ho hp =>
    absurd ((of_decide_eq_true hp).symm.trans ho) h

end ClaimStays

/-! ## Pending payments -/

/-- The event is new, and its order is open and takes the news that the payment is pending. -/
def WebhookArgs.Pends (a : WebhookArgs) (d : DB) : Prop :=
  a.Complete ∧ eventWithId a.provider a.eventId d = none ∧
  eventWithNonce a.provider a.nonceText d = none ∧
    validEvent a.eventType = some .pending ∧ a.status = "pending" ∧ a.providerRefundId = none ∧
    ∃ o ∈ d.orders.get? a.orderId, o.provider = a.provider ∧
      o.paymentAmountMinor = some a.paymentAmountMinor ∧
      o.paymentCurrency = some a.paymentCurrency ∧
      (o.providerTransactionId ≠ none → o.providerTransactionId = some a.providerTransactionId) ∧
      o.status.isOpen

instance (a : WebhookArgs) (d : DB) : Decidable (a.Pends d) := by
  unfold WebhookArgs.Pends WebhookArgs.Complete; infer_instance

section Pending

variable {a : WebhookArgs} {s t : Session DB} {b : Bool} {orderId : Id}

/-- A pending event that is acknowledged passed every check, or it is a replay. -/
theorem applyWebhook_pending (hk : validEvent a.eventType = some .pending)
    (h : applyWebhook a s = (.ok b, t)) :
    a.Pends s.work ∨ b = true ∧ t = .fresh s.committed := by
  simp only [applyWebhook, Tx.bind_ok, Tx.select_ok, Tx.raiseIf_ok] at h
  obtain ⟨_, _, ⟨hcomplete, rfl⟩, existing, _, ⟨hex, rfl⟩, h⟩ := h
  cases existing with
  | some existing =>
    simp only [Tx.bind_ok, Tx.raiseIf_ok, Tx.rollback_ok, Tx.pure_ok] at h
    obtain ⟨_, _, ⟨-, rfl⟩, _, _, rfl, rfl, rfl⟩ := h
    exact .inr ⟨rfl, rfl⟩
  | none =>
    simp only [dispatchEvent, applyProgressEvent, Tx.bind_ok, Tx.select_ok, Tx.orRaise_ok,
      Tx.raiseIf_ok] at h
    obtain ⟨_, _, ⟨rfl, rfl⟩, _, _, ⟨hnonce, rfl⟩, _, _, ⟨rfl, rfl⟩, order, _, ⟨hfound, rfl⟩, _, _,
      ⟨hquote, rfl⟩, _, _, ⟨htransaction, rfl⟩, kind, _, ⟨hkind, rfl⟩, h⟩ := h
    rw [hk, Option.filter_eq_some_iff] at hkind
    obtain ⟨hsome, hstatus⟩ := hkind
    obtain rfl := Option.some.inj hsome
    simp only [Tx.bind_ok, Tx.raiseIf_ok] at h
    obtain ⟨_, _, ⟨hrefund, rfl⟩, _, _, ⟨hopen, -⟩, -⟩ := h
    obtain ⟨hfound, hprovider⟩ := Option.filter_eq_some_iff.1 hfound
    push Not at hquote htransaction hrefund
    exact .inl ⟨hcomplete, hex.symm, by simpa using hnonce, hk, (of_decide_eq_true
      hstatus).symm, hrefund, order, hfound, of_decide_eq_true hprovider, hquote.1, hquote.2,
      htransaction, by simpa using hopen⟩

theorem applyWebhook_idle (hk : validEvent a.eventType = some .pending) (h : ¬ a.Pends s.work) :
    (applyWebhook a s).2.committed = s.committed := by
  rcases hrun : applyWebhook a s with ⟨result, t⟩
  cases result with
  | error e => simpa [hrun] using (atomic_applyWebhook a).committed s e (by rw [hrun])
  | ok b =>
    obtain ⟨-, rfl⟩ := (applyWebhook_pending hk hrun).resolve_left h
    rfl

theorem pending_cases {d : DB} (h : a.Pends d → a.orderId ≠ orderId) :
    validEvent a.eventType = some .pending ∧ ¬ a.Pends d ∨
      (validEvent a.eventType = some .pending → KeepsReconcile (claimStays orderId) a.orderId) := by
  by_cases hp : a.Pends d
  · exact .inr fun _ => keepsReconcile_claimStays (h hp)
  · by_cases hk : validEvent a.eventType = some .pending
    · exact .inl ⟨hk, hp⟩
    · exact .inr fun hk' => absurd hk' hk

theorem applyWebhook_claimStays {d : DB} (h : a.Pends d → a.orderId ≠ orderId) :
    (claimStays orderId).rel d (exec (.applyWebhook a) d) := by
  rw [exec, Op.service, run_discard]
  rcases pending_cases h with ⟨hk, hp⟩ | hevent
  · rw [Tx.run, applyWebhook_idle hk hp]
    exact (claimStays orderId).refl d
  · exact (keepsMoney_claimStays.applyWebhook (fun _ => keepsRisk_orderTrack) hevent).run d

theorem answerReconciliation_claimStays {r : ReconcileAnswer} {d : DB}
    (h : r.event.Pends d → r.event.orderId ≠ orderId) :
    (claimStays orderId).rel d (Tx.run (answerReconciliation r) d).2 := by
  rcases pending_cases h with ⟨hk, hp⟩ | hevent
  · have hsame : (Tx.run (answerReconciliation r) d).2 = d :=
      (answering_cases (applyWebhook r.event) (stagedSession r d)).1.trans (applyWebhook_idle hk hp)
    rw [hsame]
    exact (claimStays orderId).refl d
  · exact (keepsMoney_claimStays.answerReconciliation (fun _ => keepsRisk_orderTrack) hevent).run d

theorem applyReconciliation_claimStays {r : ReconcileAnswer} {d : DB}
    (hclaim : r.claim.orderId ≠ orderId)
    (h : r.event.Pends d → r.event.orderId ≠ orderId) :
    (claimStays orderId).rel d (exec (.applyReconciliation r) d) := by
  have hrec : KeepsReconcile (claimStays orderId) r.claim.orderId :=
    keepsReconcile_claimStays hclaim
  rw [exec, Op.service, run_discard]
  rcases pending_cases h with ⟨hk, hp⟩ | hevent
  · rcases hrun : applyWebhook r.event (stagedSession r d) with ⟨result, t⟩
    cases result with
    | error e =>
      obtain ⟨hc, ⟨b, h1, -⟩ | ⟨-, e', -, h2⟩⟩ :=
        answering_cases (applyWebhook r.event) (stagedSession r d)
      · simp [hrun] at h1
      · have hstop : applyReconciliation r (.fresh d) =
            (.error e', (answering (applyWebhook r.event) (stagedSession r d)).2) := by
          rw [applyReconciliation_halves]
          exact Tx.bind_of_error (Prod.ext h2 rfl)
        rw [Tx.run, hstop, hc, applyWebhook_idle hk hp]
        exact (claimStays orderId).refl d
    | ok duplicate =>
      obtain ⟨-, rfl⟩ := (applyWebhook_pending hk hrun).resolve_left hp
      rw [Tx.run, applyReconciliation_call hrun]
      exact (keepsMoney_claimStays.closeReconciliation hrec duplicate).run d
  · exact (keepsMoney_claimStays.applyReconciliation
      (fun _ => keepsRisk_orderTrack) hevent hrec).run d

end Pending

/-! ## Turns -/

/-- What is done between two commits: a session, or a half of the last session of a reconcile
call, which commits twice. -/
inductive Part where
  | session (op : Op)
  | answered (a : ReconcileAnswer)
  | closed (a : ReconcileAnswer) (duplicate : Bool)

namespace Part

def exec : Part → DB → DB
  | session op, d => Kunlun.exec op d
  | answered a, d => (Tx.run (answerReconciliation a) d).2
  | closed a duplicate, d => (Tx.run (closeReconciliation a duplicate) d).2

def claim : Part → Option ReconcileArgs
  | session (.claimReconciliation a) => some a
  | _ => none

/-- The part takes the reconciliation claim of the order. -/
def claims (orderId : Id) (p : Part) (d : DB) : Bool :=
  match p.claim with
  | some a => decide (a.orderId = orderId) && (claimReconciliation a (.fresh d)).1.isOk
  | none => false

/-- The orders whose claim the part may take, or clear although they stay open. -/
def reconciles (p : Part) (d : DB) : List Id :=
  match p with
  | session (.applyWebhook a) => if a.Pends d then [a.orderId] else []
  | session (.applyReconciliation a) =>
    a.claim.orderId :: if a.event.Pends d then [a.event.orderId] else []
  | session op => op.reconciles
  | answered a => if a.event.Pends d then [a.event.orderId] else []
  | closed a _ => [a.claim.orderId]

/-- The order whose reconcile call the part ends. -/
def ends : Part → Option Id
  | session (.reconcileFailed orderId _) | session (.reconcileManual orderId _) => some orderId
  | session (.applyReconciliation a) | answered a | closed a _ => some a.claim.orderId
  | _ => none

theorem exec_claimStays {p : Part} {orderId : Id} {d : DB} (h : orderId ∉ p.reconciles d) :
    (claimStays orderId).rel d (p.exec d) := by
  have hpends {a : WebhookArgs} {is : List Id} (h : orderId ∉ if a.Pends d then [a.orderId]
    else is) (hp : a.Pends d) :
      a.orderId ≠ orderId := by
    rw [if_pos hp] at h
    exact (List.ne_of_not_mem_cons h).symm
  have hsession (op : Op) (h : orderId ∉ op.reconciles) :
      (claimStays orderId).rel d (Kunlun.exec op d) :=
    exec_keeps_of keepsMoney_claimStays (fun _ => keepsActivation_orderTrack)
      (fun _ => keepsRisk_orderTrack)
      (fun _ => keepsClaims_orderTrack)
        (fun _ hi => keepsReconcile_claimStays (ne_of_mem_of_not_mem hi h)) d
  cases p with
  | session op =>
    cases op with
    | applyWebhook a => exact applyWebhook_claimStays (hpends h)
    | applyReconciliation r =>
      obtain ⟨hclaim, hevent⟩ := not_or.1 (List.mem_cons.not.1 h)
      exact applyReconciliation_claimStays (Ne.symm hclaim) (hpends hevent)
    | _ => exact hsession _ h
  | answered r => exact answerReconciliation_claimStays (hpends h)
  | closed r duplicate =>
    have hrec : KeepsReconcile (claimStays orderId) r.claim.orderId :=
      keepsReconcile_claimStays (ne_of_mem_of_not_mem (List.mem_singleton.2 rfl) h)
    exact (keepsMoney_claimStays.closeReconciliation hrec duplicate).run d

theorem exec_moves (p : Part) (d : DB) : Moves (.adapter True) d.books (p.exec d).books := by
  cases p with
  | session op =>
    exact Kunlun.exec_moves (fun _ => trivial) ⟨nofun, fun _ _ => trivial, fun _ _ => trivial⟩
  | answered a => exact (carries_answerReconciliation a).run d
  | closed a duplicate => exact (carries_closeReconciliation a duplicate).run d

theorem exec_keeps {K : Track DB} (h : KeepsAll K) (p : Part) (d : DB) : K.rel d (p.exec d) := by
  cases p with
  | session op => exact Kunlun.exec_keeps h op d
  | answered a =>
    exact (h.answerReconciliation (fun _ => h.toKeepsRisk) fun _ => h.reconcile _).run d
  | closed a duplicate => exact (h.closeReconciliation (h.reconcile _) duplicate).run d

theorem exec_order (p : Part) {d : DB} {i : Id} {o : PaymentOrder} (h : d.orders.get? i = some o) :
    ∃ o', (p.exec d).orders.get? i = some o' ∧ o.status.Leads o'.status := by
  obtain ⟨o', ho', hpath⟩ := Moves.order (p.exec_moves d) h
  exact ⟨o', ho', hpath.leads⟩

end Part

/-- A part, who does it, and when. -/
structure Turn where
  caller : Nat
  time : Time
  part : Part

/-! ## The grant -/

theorem atomic_claimReconciliation (a : ReconcileArgs) : Tx.Atomic (claimReconciliation a) := by
  unfold claimReconciliation setOrder
  iterate 7 refine Tx.atomic_bind (by simp) fun _ => ?_
  simp

theorem claimReconciliation_ok {a : ReconcileArgs} {d : DB} {r : PaymentOrder} {t : Session DB}
    (h : claimReconciliation a (.fresh d) = (.ok r, t)) :
    ∃ o, d.orders.get? a.orderId = some o ∧ o.status.isOpen ∧
      (∀ s ∈ o.reconciliationClaimStartedAt, s + reconcileLease ≤ a.now) ∧
      t.committed.orders = d.orders.modify a.orderId
        (reconcilingOrder a.now (o.status = .checkoutRequesting)) := by
  simp only [claimReconciliation, setOrder, Tx.bind_ok, Tx.select_ok, Tx.orRaise_ok,
    Tx.rollbackIf_ok, Tx.raiseIf_ok, Tx.add_ok, Tx.commit_ok, Tx.pure_ok] at h
  obtain ⟨_, _, ⟨rfl, rfl⟩, order, _, ⟨hfound, rfl⟩, _, _, ⟨-, rfl⟩, _, _, ⟨hopen, rfl⟩, _, _,
    ⟨hlive, rfl⟩, _, _, rfl, _, _, rfl, _, _, ⟨d', hc, rfl⟩, -, rfl⟩ := h
  have hfound : d.orders.get? a.orderId = some order := (Option.filter_eq_some_iff.1 hfound).1
  have hid := Table.key_of_get? hfound
  refine ⟨order, hfound, by simpa using hopen, fun s hs => ?_, ?_⟩
  · rw [hs] at hlive
    exact Int.add_le_of_le_sub_right (Int.not_lt.1 (by simpa [claimLive] using hlive))
  · simp only [Session.fresh, List.nil_append, List.cons_append, Tx.applyAll_cons, Tx.applyAll_nil,
      Option.some.injEq, exists_eq_right] at hc
    obtain ⟨e, he, hc⟩ := hc
    obtain ⟨-, rfl⟩ := flushOrders_ok.1 he
    rw [← hid]
    obtain rfl := Option.some.inj hc
    rfl

theorem Part.claim_eq {p : Part} {a : ReconcileArgs} (h : p.claim = some a) :
    p = session (.claimReconciliation a) := by
  cases p with
  | session op => cases op <;> simp_all [claim]
  | answered | closed => cases h

theorem Part.claim_cases {p : Part} {a : ReconcileArgs} (h : p.claim = some a) (d : DB) :
    p.claims a.orderId d = false ∧ p.exec d = d ∨
    p.claims a.orderId d ∧ ∃ r t, claimReconciliation a (.fresh d) = (.ok r, t) ∧
    p.exec d = t.committed := by
  obtain rfl := claim_eq h
  simp only [claims, claim, decide_true, Bool.true_and]
  have hexec : (session (.claimReconciliation a)).exec d =
      (claimReconciliation a (.fresh d)).2.committed := by
    rw [Part.exec, Kunlun.exec, Op.service, run_discard, Tx.run]
  have hatomic := (atomic_claimReconciliation a).committed (.fresh d)
  rw [hexec]
  rcases hrun : claimReconciliation a (.fresh d) with ⟨result, t⟩
  rw [hrun] at hatomic
  cases result with
  | error e => exact .inl ⟨rfl, hatomic e rfl⟩
  | ok r => exact .inr ⟨rfl, r, t, rfl, rfl⟩

theorem Part.claims_ok {orderId : Id} {p : Part} {d : DB} (h : p.claims orderId d) :
    ∃ a, p.claim = some a ∧ ∃ o, d.orders.get? orderId = some o ∧ o.status.isOpen ∧
      (∀ s ∈ o.reconciliationClaimStartedAt, s + reconcileLease ≤ a.now) ∧
      (p.exec d).orders = d.orders.modify orderId
        (reconcilingOrder a.now (o.status = .checkoutRequesting)) := by
  cases hclaim : p.claim with
  | none => simp [claims, hclaim] at h
  | some a =>
    have hid : a.orderId = orderId := by
      simp only [claims, hclaim, Bool.and_eq_true, decide_eq_true_eq] at h
      exact h.1
    subst hid
    rcases claim_cases hclaim d with ⟨hnot, -⟩ | ⟨-, r, t, hrun, hexec⟩
    · simp [hnot] at h
    · exact ⟨a, rfl, hexec ▸ claimReconciliation_ok hrun⟩

/-! ## The lease -/

def reconciliationLease (orderId : Id) : Lease DB Turn Nat where
  step t := t.part.exec
  caller := Turn.caller
  clock := Turn.time
  term := reconcileLease
  grants t := t.part.claims orderId
  reports t := t.part.ends = some orderId
  since d := ((d.orders.get? orderId).filter (·.status.isOpen)).bind
    PaymentOrder.reconciliationClaimStartedAt
  closed d := ∃ o, d.orders.get? orderId = some o ∧ o.status.isOpen = false

/-- A claim reads the time of its turn. -/
def Turn.OnTime (t : Turn) : Prop := ∀ a ∈ t.part.claim, a.now = t.time

instance (t : Turn) : Decidable t.OnTime := by unfold Turn.OnTime; infer_instance

/-- What may clear the live claim of an order that stays open is the end of the call that took
it. -/
def Turn.ByHolder (orderId : Id) (t : Turn) (s : Lease.Held DB Nat) : Prop :=
  orderId ∈ t.part.reconciles s.state → t.part.claim = none →
    ∀ u ∈ (reconciliationLease orderId).since s.state, t.time < u + reconcileLease →
      t.part.ends = some orderId ∧ s.holder = some t.caller

instance (orderId : Id) (t : Turn) (s : Lease.Held DB Nat) : Decidable (t.ByHolder orderId s) := by
  unfold Turn.ByHolder; infer_instance

section ReconciliationLease

variable {orderId : Id}

theorem reconciliationLease_since {d : DB} {o : PaymentOrder} (h : d.orders.get? orderId = some o) :
    (reconciliationLease orderId).since d = if o.status.isOpen then
    o.reconciliationClaimStartedAt else none := by
  show (Option.filter _ (d.orders.get? orderId)).bind _ = _
  rw [h, Option.filter]
  split <;> rfl

theorem reconciliationLease_lawful : (reconciliationLease orderId).Lawful Turn.OnTime where
  free d t hok h := by
    obtain ⟨a, ha, o, ho, hopen, hfree, -⟩ := Part.claims_ok h
    refine ⟨fun ⟨o', ho', hclosed⟩ => ?_, fun s hs => ?_⟩
    · obtain rfl := Option.some.inj (ho.symm.trans ho')
      simp [hopen] at hclosed
    · rw [reconciliationLease_since ho, if_pos hopen] at hs
      exact (hfree s hs).trans_eq (hok a ha)
  held d t hok h := by
    obtain ⟨a, ha, o, ho, -, -, horders⟩ := Part.claims_ok h
    have hget : (t.part.exec d).orders.get? orderId =
        some (reconcilingOrder a.now (o.status = .checkoutRequesting) o) := by
      rw [horders]
      exact Table.get?_modify_self ho (reconcilingOrder a.now (o.status = .checkoutRequesting))
        (fun _ => rfl)
    exact ⟨a.now, reconciliationLease_since hget, (hok a ha).ge⟩
  closed d t := by
    rintro ⟨o, ho, hclosed⟩
    obtain ⟨o', ho', hleads⟩ := t.part.exec_order ho
    refine ⟨o', ho', ?_⟩
    rcases hleads with h | h | ⟨-, h | h⟩ | ⟨-, h⟩
    · rw [h, hclosed]
    · simp [hclosed] at h
    all_goals simp [h, OrderStatus.isOpen]

theorem Turn.ByHolder.respects {t : Turn} {s : Lease.Held DB Nat} (h : t.ByHolder orderId s) :
    (reconciliationLease orderId).Respects t s := by
  intro u hu
  obtain ⟨o, ho, hclaim⟩ := Option.bind_eq_some_iff.1 hu
  obtain ⟨ho, hopen⟩ := Option.filter_eq_some_iff.1 ho
  by_cases hrec : orderId ∈ t.part.reconciles s.state
  · cases hpart : t.part.claim with
    | none =>
      by_cases hlive : t.time < u + reconcileLease
      · obtain ⟨hends, hholder⟩ := h hrec hpart u hu hlive
        exact .inr (.inr (.inr (.inr ⟨decide_eq_true hends, hholder⟩)))
      · exact .inr (.inr (.inr (.inl (Int.not_lt.1 hlive))))
    | some a =>
      obtain rfl : orderId = a.orderId := by
        rw [Part.claim_eq hpart] at hrec
        exact List.mem_singleton.1 hrec
      rcases Part.claim_cases hpart s.state with ⟨-, hsame⟩ | ⟨hclaims, -⟩
      · refine .inl ?_
        show (reconciliationLease a.orderId).since (t.part.exec s.state) = some u
        rw [hsame, hu]
      · exact .inr (.inr (.inl hclaims))
  · obtain ⟨o', ho', hstays⟩ := t.part.exec_claimStays hrec o ho
    by_cases hopen' : o'.status.isOpen
    · refine .inl ?_
      show (reconciliationLease orderId).since (t.part.exec s.state) = some u
      rw [reconciliationLease_since ho', if_pos hopen', hstays.claim hopen', hclaim]
    · exact .inr (.inl ⟨o', ho', by simpa using hopen'⟩)

end ReconciliationLease

/-- Two claims of one order are apart by the lease, or by the end of the call that took the first,
and nobody else clears a live claim, where only the end of the call that took a live claim may
clear it. -/
theorem reconciliations_exclusive (orderId : Id) (d : DB) {xs ys : List Turn} {a b : Turn}
    (h : Run.Along (reconciliationLease orderId).next
      (fun t s => t.OnTime ∧ (reconciliationLease orderId).InTime t s ∧
        t.ByHolder orderId s) ⟨d, none, none⟩
      (xs ++ a :: ys ++ [b]))
    (ha : a.part.claims orderId (Run.after (reconciliationLease orderId).step d xs)) :
    (b.part.claims orderId (Run.after (reconciliationLease orderId).step d (xs ++ a :: ys)) →
      a.time + reconcileLease ≤ b.time ∨ ∃ y ∈ ys, y.part.ends = some orderId ∧
      y.caller = a.caller) ∧
    ∀ u, (reconciliationLease orderId).since
      (Run.after (reconciliationLease orderId).step d (xs ++ a :: ys)) = some u →
      b.time < u + reconcileLease →
      (reconciliationLease orderId).since
        (Run.after (reconciliationLease orderId).step d (xs ++ a :: ys ++ [b])) = some u ∨
      (reconciliationLease orderId).closed
        (Run.after (reconciliationLease orderId).step d (xs ++ a :: ys ++ [b])) ∨
      b.part.ends = some orderId ∧
        (Run.after (reconciliationLease orderId).next ⟨d, none, none⟩ (xs ++ a :: ys)).holder =
          some b.caller := by
  have hallowed := Run.along_mono
    (fun t s (ht : t.OnTime ∧ (reconciliationLease orderId).InTime t s ∧
    t.ByHolder orderId s) => (⟨ht.1, ht.2.2.respects, ht.2.1⟩ : Lease.Allowed _ Turn.OnTime t s)) h
  constructor
  · intro hb
    rcases Lease.exclusive reconciliationLease_lawful hallowed ha hb with
      h | ⟨y, hy, hends, hcaller⟩
    · exact .inl h
    · exact .inr ⟨y, hy, of_decide_eq_true hends, hcaller⟩
  · intro u hu hlive
    obtain ⟨-, hlast⟩ := (Run.along_append ..).1 hallowed
    rw [← Lease.state_after (L := reconciliationLease orderId) _ ⟨d, none, none⟩] at hu
    have hkept := Lease.live reconciliationLease_lawful hlast.1 hu hlive
    rw [Lease.state_after] at hkept
    rw [Run.after_append]
    exact hkept.imp_right (Or.imp_right fun h => ⟨of_decide_eq_true h.1, h.2⟩)

/-- An operator claims the order of `checkout`. -/
def claimTurn (caller : Nat) (time : Time) (operationId : String) : Turn :=
  ⟨caller, time, .session (.claimReconciliation
    ⟨"o", ⟨"operator", "payments:write", "token", none, "reason"⟩, operationId, time⟩)⟩

/-- The turns of a checkout that the provider has answered. -/
def checkoutTurns : List Turn := checkout.map fun op => ⟨0, 0, .session op⟩

/-- The provider says that the payment is pending, and two operators hold the claim. -/
theorem reconciliations_shared :
    ¬ ∀ (xs ys : List Turn) (a b : Turn),
      Run.Along (reconciliationLease "o").next
        (fun t s => t.OnTime ∧ (reconciliationLease "o").InTime t s)
        ⟨DB.empty, none, none⟩ (xs ++ a :: ys ++ [b]) →
      a.part.claims "o" (Run.after (reconciliationLease "o").step DB.empty xs) →
      b.part.claims "o" (Run.after (reconciliationLease "o").step DB.empty (xs ++ a :: ys)) →
      a.time + reconcileLease ≤ b.time ∨ ∃ y ∈ ys, y.part.ends = some "o" ∧
      y.caller = a.caller := by
  intro h
  have hapart := h checkoutTurns
    [⟨0, minute, .session (.applyWebhook ⟨"provider", "event", some "nonce", "digest", "o",
      "payment.pending", "pending", 100, "CNY", "transaction", none, minute, "w", "r", "x",
      minute⟩)⟩]
    (claimTurn 1 0 "first") (claimTurn 2 minute "second") (by decide +kernel) (by decide +kernel)
      (by decide +kernel)
  revert hapart
  decide +kernel

/-- The first operator's query found the payment pending. -/
def answerTurn : Turn :=
  ⟨1, second, .session (.applyReconciliation
    ⟨⟨"o", ⟨"operator", "payments:write", "token", none, "reason"⟩, "answer", second⟩, "pending",
      ⟨"provider", "event", some "nonce", "digest", "o", "payment.pending", "pending", 100, "CNY",
        "transaction", none, second, "w", "r", "x", second⟩, "duplicate"⟩)⟩

/-- The second operator claims nothing within the lease of the first, and the order once the call of
the first has ended. -/
theorem reconciliations_exclusive_early :
    ¬ (claimTurn 2 minute "second").part.claims "o"
      (Run.after (reconciliationLease "o").step DB.empty
        (checkoutTurns ++ [claimTurn 1 0 "first"])) ∧
    (claimTurn 2 minute "second").part.claims "o"
      (Run.after (reconciliationLease "o").step DB.empty
        (checkoutTurns ++ claimTurn 1 0 "first" :: [answerTurn])) ∧
    ∃ y ∈ [answerTurn], y.part.ends = some "o" ∧ y.caller = 1 := by
  have hfirst : (claimTurn 1 0 "first").part.claims "o"
      (Run.after (reconciliationLease "o").step DB.empty checkoutTurns) := by
    decide +kernel
  have hsecond : (claimTurn 2 minute "second").part.claims "o"
      (Run.after (reconciliationLease "o").step DB.empty
        (checkoutTurns ++ claimTurn 1 0 "first" :: [answerTurn])) := by
    decide +kernel
  have hlease : ¬ (claimTurn 1 0 "first").time + reconcileLease ≤
      (claimTurn 2 minute "second").time := by decide
  refine ⟨fun hclaims => ?_, hsecond, ?_⟩
  · rcases (reconciliations_exclusive "o" DB.empty (by decide +kernel) hfirst).1
      hclaims with h | ⟨y, hy, -⟩
    · exact hlease h
    · cases hy
  · exact ((reconciliations_exclusive "o" DB.empty (by decide +kernel) hfirst).1
      hsecond).resolve_left hlease

end Kunlun
