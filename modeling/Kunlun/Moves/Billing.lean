import Kunlun.Billing
import Kunlun.Effects

/-!
# Budgets and model requests move the books
-/

namespace Kunlun

variable {env : Env}

attribute [simp] quiet_postTransaction

/-! ## Budgets -/

theorem atomic_createBudget (userId : Id) (amount : Int) (budgetId : Id) (now createdAt : Time) :
    Tx.Atomic (createBudget userId amount budgetId now createdAt) := by
  unfold createBudget
  repeat refine Tx.atomic_bind (by simp) fun _ => ?_
  split <;> (repeat refine Tx.atomic_bind (by simp) fun _ => ?_) <;> simp

theorem createBudget_moves (userId : Id) (amount : Int) (budgetId : Id)
    (now createdAt : Time) (d : DB) :
    Moves env d.books (Tx.run (createBudget userId amount budgetId now createdAt) d).2.books := by
  refine run_moves (atomic_createBudget ..) fun b t h => ?_
  simp only [createBudget, Session.fresh, Tx.bind_ok, Tx.raiseIf_ok, Tx.execute_ok, lockWallets_eq,
    Tx.select_ok] at h
  simp at h
  obtain ⟨hpos, -, h⟩ := h
  cases hc : currentBudget userId (monthBounds now).1 d with
  | none =>
    simp [hc, insertBudget_ok] at h
    obtain ⟨⟨budgets, hi, rfl⟩, -⟩ := h
    refine .single (.openBudget _ rfl rfl rfl hpos.le ?_ hi)
    exact currentBudget_none hc
  | some current =>
    simp [hc, insertBudget_ok, DB.flushing, DB.updateBudgets] at h
    obtain ⟨hidle, hspent, ⟨budgets, hi, rfl⟩, -⟩ := h
    obtain ⟨hmem, huser, hactive, hperiod⟩ := currentBudget_some hc
    exact .single (.replaceBudget current
      (newBudget budgetId userId amount current.spentMicrousd now createdAt)
      (Table.get?_of_mem hmem) hactive hidle huser.symm hperiod.symm rfl rfl rfl hspent hi)

/-! ## Admission -/

@[simp]
theorem atomic_insertReserved (a : ReserveArgs) (price : ModelPrice) (amount estimatedInput : Int)
    (budgetId : Option Id) : Tx.Atomic (insertReserved a price amount estimatedInput budgetId) := by
  unfold insertReserved
  repeat refine Tx.atomic_bind (by simp) fun _ => ?_
  simp

theorem atomic_admission (a : ReserveArgs) (price : ModelPrice) (amount estimatedInput : Int) :
    Tx.Atomic (admission a price amount estimatedInput) := by
  unfold admission
  repeat refine Tx.atomic_bind (by simp) fun _ => ?_
  split <;> (repeat refine Tx.atomic_bind (by simp) fun _ => ?_) <;> simp

theorem atomic_conflictsAs {α : Type} {e : Exc} {x : Service α} (hx : Tx.Atomic x) :
    Tx.Atomic (conflictsAs e x) :=
  Tx.atomic_tryExcept hx fun _ => (Tx.quiet_bind Tx.quiet_rollback fun _ => Tx.quiet_raise _).atomic

theorem atomic_reserveModelRequest (a : ReserveArgs) : Tx.Atomic (reserveModelRequest a) := by
  unfold reserveModelRequest
  repeat refine Tx.atomic_bind (by simp) fun _ => ?_
  exact Tx.atomic_then (atomic_conflictsAs (atomic_admission ..)) fun _ => Tx.returns_pure _

@[simp]
theorem conflictsAs_ok {α : Type} {e : Exc} {x : Service α} {s t : Session DB} {a : α} :
    conflictsAs e x s = (.ok a, t) ↔ x s = (.ok a, t) := by
  simp [conflictsAs]

theorem insertReserved_ok {a : ReserveArgs} {price : ModelPrice} {amount estimatedInput : Int}
    {budgetId : Option Id}
    {committed work : DB} {t : Session DB} {u : Unit}
    (h : insertReserved a price amount estimatedInput budgetId ⟨committed, work, []⟩ = (.ok u, t)) :
    ∃ requests j ledger, work.requests.insert?
      (reservedRequest a price amount estimatedInput budgetId) = some requests ∧
      Posts j .reserve a.userId a.requestId (-amount) amount 0 0 ∧
      j.idempotencyKey = "model:" ++ a.requestId ++ ":reserve" ∧
      work.ledger.insert? j = some ledger ∧
      t.committed = { work with requests := requests, ledger := ledger } := by
  simp only [insertReserved, Tx.bind_ok, Tx.add_ok, Tx.commit_ok] at h
  obtain ⟨_, _, rfl, _, s, h, d', hd, rfl⟩ := h
  obtain ⟨j, d₁, ledger, h1, hj, hkey, hl, rfl⟩ := postTransaction_moves h
  obtain rfl := Option.some.inj hd
  simp only [List.nil_append, Tx.applyAll_cons, Tx.applyAll_nil, insertRequest_ok] at h1
  obtain ⟨_, ⟨requests, hr, -, rfl⟩, h1⟩ := h1
  obtain rfl := Option.some.inj h1
  refine ⟨requests, j, ledger, hr, ?_, hkey, hl, rfl⟩
  simpa using hj

theorem admission_moves {a : ReserveArgs} {price : ModelPrice} {amount estimatedInput : Int}
    {d : DB} {t : Session DB}
    {u : Unit} (hfresh : env.requestId d.books a.requestId) (hpos : 0 < amount)
    (h : admission a price amount estimatedInput (.fresh d) = (.ok u, t)) :
    Moves env d.books t.committed.books := by
  simp [admission, Session.fresh] at h
  obtain ⟨user, -, -, key, -, -, -, d₁, hheld, h⟩ := h
  obtain ⟨w, hw, hcovered, rfl⟩ := updateWallets_one hheld
  replace hcovered : amount ≤ w.balanceMicrousd := by simpa using hcovered
  cases hb : activeBudget a.userId a.selectNow d with
  | none =>
    simp only [hb] at h
    obtain ⟨requests, j, ledger, hr, hj, hkey, hl, ht⟩ := insertReserved_ok h
    rw [ht]
    have m : Move env d.books _ :=
      .hold (reservedRequest a price amount estimatedInput none) w j hfresh hpos
      rfl rfl hw hcovered (by simp [reservedRequest]) hj hl hr hkey
    exact .single m
  | some budget =>
    simp [hb] at h
    obtain ⟨-, d₂, htaken, h⟩ := h
    obtain ⟨x, hx, hfits, rfl⟩ := updateBudgets_one htaken
    obtain ⟨requests, j, ledger, hr, hj, hkey, hl, ht⟩ := insertReserved_ok h
    rw [ht]
    have hbudget : ∀ i ∈ some budget.id, ∃ x, d.budgets.get? i = some x ∧ x.userId = a.userId ∧
      x.status = .active ∧
        x.spentMicrousd + x.reservedMicrousd + amount ≤ x.limitMicrousd := by
      simp only [Bool.and_eq_true, decide_eq_true_eq] at hfits
      obtain ⟨⟨⟨⟨huser, hactive⟩, -⟩, -⟩, hfits⟩ := hfits
      simp only [Option.mem_def, Option.some.injEq, forall_eq']
      exact ⟨x, hx, huser, hactive, by omega⟩
    have m : Move env d.books _ :=
      .hold (reservedRequest a price amount estimatedInput (some budget.id)) w j hfresh
      hpos rfl rfl hw hcovered hbudget hj hl hr hkey
    exact .single m

theorem reserveModelRequest_moves (a : ReserveArgs) (d : DB)
    (hfresh : env.requestId d.books a.requestId) :
    Moves env d.books (Tx.run (reserveModelRequest a) d).2.books := by
  refine run_moves (atomic_reserveModelRequest ..) fun r t h => ?_
  simp [reserveModelRequest] at h
  obtain ⟨price, -, -, _, -, _, -, inputCost, -, outputCost, -, -, ⟨_, h⟩, -⟩ := h
  have hpos : 0 < max 1 (inputCost + outputCost) := by omega
  exact admission_moves hfresh hpos h

/-! ## The end of a hold -/

@[simp]
theorem quiet_takeHold (request : ModelRequest) (back charged : Int) :
    Tx.Quiet (takeHold request back charged) := by
  unfold takeHold
  repeat refine Tx.quiet_bind (by simp) fun _ => ?_
  split <;> simp

theorem takeHold_ok {request : ModelRequest} {back charged : Int} {s t : Session DB} {u : Unit}
    (h : takeHold request back charged s = (.ok u, t)) :
    (∃ w, s.work.wallets.get? request.userId = some w ∧
      request.reservedMicrousd ≤ w.reservedMicrousd) ∧
    (∀ i ∈ request.budgetId, ∃ x, s.work.budgets.get? i = some x ∧
      request.reservedMicrousd ≤ x.reservedMicrousd) ∧
    t = { s with work := { s.work with
      wallets := s.work.wallets.modify request.userId fun w => { w with
        reservedMicrousd := w.reservedMicrousd - request.reservedMicrousd
        balanceMicrousd := w.balanceMicrousd + back }
      budgets := onBudget s.work.budgets request.budgetId (fun x => { x with
        reservedMicrousd := x.reservedMicrousd - request.reservedMicrousd
        spentMicrousd := x.spentMicrousd + charged }) fun _ => rfl } } := by
  simp [takeHold] at h
  obtain ⟨d₁, hheld, h⟩ := h
  obtain ⟨w, hw, hcovered, rfl⟩ := updateWallets_one hheld
  refine ⟨⟨w, hw, by simpa using hcovered⟩, ?_⟩
  cases hb : request.budgetId with
  | none =>
    simp [hb] at h
    subst h
    exact ⟨by simp, rfl⟩
  | some i =>
    simp [hb] at h
    obtain ⟨d₂, htaken, rfl⟩ := h
    obtain ⟨x, hx, hfits, rfl⟩ := updateBudgets_one htaken
    refine ⟨?_, rfl⟩
    simp only [Option.mem_def, Option.some.injEq, forall_eq']
    exact ⟨x, hx, by simpa using hfits⟩

@[simp]
theorem changed_self {α : Type} [DecidableEq α] (loaded set : α) :
    changed loaded set loaded = set := by
  unfold changed
  split
  · exact Eq.symm ‹_›
  · rfl

@[simp]
theorem flush_self_status (r set : ModelRequest) : (r.flush set r).status = set.status := by
  simp [ModelRequest.flush]

@[simp]
theorem flush_self_charged (r set : ModelRequest) : (r.flush set r).chargedMicrousd =
    set.chargedMicrousd := by
  simp [ModelRequest.flush]

@[simp]
theorem flush_self_inputTokens (r set : ModelRequest) :
    (r.flush set r).inputTokens = set.inputTokens := by
  simp [ModelRequest.flush]

theorem flush_edit {r set : ModelRequest}
    (h : set.status.outstanding → set.inputTokens = r.inputTokens) :
    RequestEdit r (r.flush set r) := ⟨rfl, rfl, rfl, ⟨rfl, rfl⟩, by simpa using h⟩

theorem flushRequest_ok {r set : ModelRequest} {d d' : DB} :
    DB.flushRequest r set d = some d' ↔
      d' = { d with requests := d.requests.modify r.id (r.flush set) } := by
  simp [DB.flushRequest, DB.flushing, DB.updateRequests, Table.modify, @eq_comm _ d']

theorem atomic_finishHold (request set : ModelRequest) (back charged : Int)
    (kind : LedgerKind) (key : String)
    (entries : List (Account × Int)) (written : Bool) :
    Tx.Atomic (finishHold request set back charged kind key entries written) := by
  unfold finishHold
  repeat refine Tx.atomic_bind (by simp) fun _ => ?_
  simp

theorem finishHold_moves {request set : ModelRequest} {back charged : Int}
    {kind : LedgerKind} {key : String}
    {entries : List (Account × Int)} {written : Bool} {s t : Session DB} {u : Unit} (hs : Staged s)
    (h : finishHold request set back charged kind key entries written s = (.ok u, t))
    (found : s.committed.requests.get? request.id = some request)
      (hback : back = request.reservedMicrousd - charged)
    (fits : 0 < request.reservedMicrousd → 0 ≤ charged ∧ charged ≤ request.reservedMicrousd)
    (charges : set.chargedMicrousd = charged ∨ charged = 0 ∧
      set.chargedMicrousd = request.chargedMicrousd)
    (caller : env.callers → CallerFinish request (request.flush set request) charged kind)
    (available : legs .customerAvailable entries = back)
    (reserved : legs .customerReserved entries = -request.reservedMicrousd)
    (clearing : legs .platformClearing entries = 0)
    (input : set.status.outstanding → set.inputTokens = request.inputTokens)
    (hends : key = "model:" ++ request.id ++ ":settle" ∨ key = "model:" ++ request.id ++ ":release") :
    Moves env s.committed.books t.committed.books ∧ Staged t := by
  subst hback
  rw [← hs.requests] at found
  simp only [finishHold, Tx.bind_ok, Tx.raiseIf_ok, Tx.add_ok, Tx.commit_ok] at h
  obtain ⟨_, s₁, h1, _, s₂, h2, _, _, ⟨-, rfl⟩, _, _, rfl, d', hd, rfl⟩ := h
  obtain ⟨⟨w, hw, hheld⟩, hbudget, rfl⟩ := takeHold_ok h1
  obtain ⟨j, d₁, ledger, hpend, hj, hkey, hl, rfl⟩ := postTransaction_moves h2
  have hbooks := applyAll_neutral hs.pending hpend
  simp only [List.nil_append, Tx.applyAll_cons, Tx.applyAll_nil, flushRequest_ok] at hd
  obtain ⟨_, rfl, hd⟩ := hd
  obtain rfl := Option.some.inj hd
  rw [available, reserved, clearing] at hj
  have hledger : s.work.books.ledger.insert? j = some ledger := by
    rw [show s.work.books.ledger = d₁.books.ledger by rw [hbooks]; rfl]
    exact hl
  have m : Move env s.work.books _ :=
    .finish request (request.flush set) (fun _ => rfl) w charged j kind _
    found (flush_edit input) fits (by simpa using charges) caller hw hheld hbudget hj hledger
      (by rwa [← hkey] at hends)
  have heq : DB.books { d₁ with ledger := ledger, requests := d₁.requests.modify request.id (request.flush set) } =
      { d₁.books with ledger := ledger, requests := d₁.books.requests.modify request.id (request.flush set) } := rfl
  refine ⟨?_, .pure⟩
  dsimp only
  rw [heq, hbooks, ← hs.work]
  exact .single m

/-! ## Settlement -/

theorem legs_settleEntries (reserved cost upstream : Int) :
    legs .customerAvailable (settleEntries reserved cost upstream) = reserved - min cost reserved ∧
      legs .customerReserved (settleEntries reserved cost upstream) = -reserved ∧
      legs .platformClearing (settleEntries reserved cost upstream) = 0 := by
  unfold settleEntries
  dsimp only
  split_ifs <;> simp <;> omega

theorem atomic_settleAdmitted (a : SettleArgs) (request : ModelRequest) :
    Tx.Atomic (settleAdmitted a request) := by
  unfold settleAdmitted
  repeat refine Tx.atomic_bind (by simp) fun _ => ?_
  exact Tx.atomic_then (atomic_finishHold ..) fun _ => Tx.returns_pure _

theorem settleAdmitted_moves {a : SettleArgs} {request : ModelRequest}
    {s t : Session DB} {r : Int × Bool}
    (hs : Staged s) (found : s.committed.requests.get? request.id = some request)
    (hout : env.callers → request.status.outstanding)
    (h : settleAdmitted a request s = (.ok r, t)) :
    Moves env s.committed.books t.committed.books ∧ Staged t := by
  simp only [settleAdmitted, Tx.bind_ok, Tx.lift_ok, Tx.raiseIf_ok, Tx.pure_ok] at h
  obtain ⟨⟨inputTokens, outputTokens, estimated⟩, _, ⟨-, rfl⟩, inputCost, _, ⟨hin, rfl⟩,
    outputCost, _, ⟨hout', rfl⟩, upstream, _, ⟨-, rfl⟩, _, _, ⟨-, rfl⟩, _, _, h, -, rfl⟩ := h
  have hcost := add_nonneg (tokenCost_nonneg hin) (tokenCost_nonneg hout')
  obtain ⟨hav, hres, hclear⟩ :=
    legs_settleEntries request.reservedMicrousd (inputCost + outputCost) upstream
  refine finishHold_moves hs h found rfl (fun hpos => ?_) (.inl rfl) (fun henv => ?_) hav hres
    hclear (fun hset => ?_) (.inl rfl)
  · omega
  · refine ⟨hout henv, ?_, rfl, fun hrel => ?_⟩
    · simp only [flush_self_status, settledRequest]
      split_ifs <;> rfl
    · simp only [flush_self_status, settledRequest] at hrel
      split_ifs at hrel <;> simp at hrel
  · simp only [settledRequest] at hset
    split_ifs at hset <;> cases hset

@[simp]
theorem quiet_settleable (requestId : Id) (allowedStatuses : List RequestStatus) :
    Tx.Quiet (settleable requestId allowedStatuses) := by
  unfold settleable
  repeat refine Tx.quiet_bind (by simp) fun _ => ?_
  simp

theorem settleable_ok {requestId : Id} {allowed : List RequestStatus}
    {s t : Session DB} {r : ModelRequest}
    (h : settleable requestId allowed s = (.ok r, t)) :
    s.work.requests.get? requestId = some r ∧ r.status ∈ allowed ∧ t = s := by
  simpa [settleable, and_assoc] using h

theorem atomic_settleModelRequest (a : SettleArgs) : Tx.Atomic (settleModelRequest a) :=
  Tx.atomic_bind (quiet_settleable ..) fun _ => atomic_settleAdmitted _ _

theorem settleModelRequest_moves {a : SettleArgs} {s t : Session DB}
    {r : Int × Bool} (hs : Staged s)
    (hallowed : env.callers → ∀ x ∈ a.allowedStatuses, x.outstanding)
    (h : settleModelRequest a s = (.ok r, t)) :
    Moves env s.committed.books t.committed.books ∧ Staged t := by
  obtain ⟨request, s', h1, h2⟩ := (Tx.bind_ok ..).1 h
  obtain ⟨hr, hst, rfl⟩ := settleable_ok h1
  rw [hs.requests] at hr
  have hid := Table.key_of_get? hr
  exact settleAdmitted_moves hs (by rwa [hid]) (fun henv => hallowed henv _ hst) h2

theorem releasable_some {requestId : Id} {allowed : List RequestStatus} {d : DB} {r : ModelRequest}
    (h : releasable requestId allowed d = some r) : d.requests.get? r.id = some r ∧
    r.id = requestId ∧ r.status ∈ allowed := by
  obtain ⟨hr, hs⟩ := Option.filter_eq_some_iff.1 h
  have hid := Table.key_of_get? hr
  exact ⟨by rwa [hid], hid, by simpa using hs⟩

/-! ## Release and reconciliation -/

/-- A release ends in a released status, and its journal says so. -/
structure ReleaseArgs.ByCaller (a : ReleaseArgs) : Prop where
  allowed : ∀ x ∈ a.allowedStatuses, x.outstanding
  final : a.finalStatus.outstanding = false
  kind : a.ledgerKind.ofRequest

theorem releaseAdmitted_moves {a : ReleaseArgs} {request : ModelRequest}
    {s t : Session DB} {u : Unit}
    (hs : Staged s) (found : s.committed.requests.get? request.id = some request)
    (hcaller : env.callers → a.ByCaller ∧ request.status.outstanding)
    (h : releaseAdmitted a request s = (.ok u, t)) :
    Moves env s.committed.books t.committed.books ∧ Staged t := by
  refine finishHold_moves hs h found (by simp) (fun hpos => ⟨le_rfl, hpos.le⟩)
    (.inr ⟨rfl, rfl⟩) (fun henv => ?_)
    (by simp) (by simp) (by simp) (fun _ => rfl) (.inr rfl)
  obtain ⟨hby, hout⟩ := hcaller henv
  exact ⟨hout, by simpa [releasedRequest] using hby.final, hby.kind, fun _ => rfl⟩

theorem atomic_releaseModelRequest (a : ReleaseArgs) : Tx.Atomic (releaseModelRequest a) := by
  unfold releaseModelRequest
  refine Tx.atomic_bind (by simp) fun found => ?_
  cases found with
  | none => exact (Tx.quiet_pure _).atomic
  | some request => exact atomic_finishHold ..

theorem releaseModelRequest_moves {a : ReleaseArgs} {s t : Session DB} {u : Unit} (hs : Staged s)
    (hcaller : env.callers → a.ByCaller) (h : releaseModelRequest a s = (.ok u, t)) :
    Moves env s.committed.books t.committed.books ∧ Staged t := by
  simp only [releaseModelRequest, Tx.bind_ok, Tx.select_ok] at h
  obtain ⟨found, s', ⟨hfound, rfl⟩, h⟩ := h
  cases found with
  | none =>
    obtain ⟨-, rfl⟩ := (Tx.pure_ok ..).1 h
    exact ⟨.refl, hs⟩
  | some request =>
    obtain ⟨hr, -, hst⟩ := releasable_some hfound.symm
    rw [hs.requests] at hr
    exact releaseAdmitted_moves hs hr (fun henv => ⟨hcaller henv, (hcaller henv).allowed _ hst⟩) h

theorem carries_settleModelRequest {a : SettleArgs}
    (hallowed : env.callers → ∀ x ∈ a.allowedStatuses, x.outstanding) :
    Carries env (settleModelRequest a) :=
  carries_atomic (atomic_settleModelRequest a) fun _ _ _ hs h =>
    settleModelRequest_moves hs hallowed h

theorem carries_releaseModelRequest {a : ReleaseArgs} (hcaller : env.callers → a.ByCaller) :
    Carries env (releaseModelRequest a) :=
  carries_atomic (atomic_releaseModelRequest a) fun _ _ _ hs h =>
    releaseModelRequest_moves hs hcaller h

theorem atomic_markAdmitted (a : MarkArgs) (request : ModelRequest) :
    Tx.Atomic (markAdmitted a request) :=
  Tx.atomic_bind (by simp) fun _ => Tx.atomic_commit

theorem atomic_markPendingReconciliation (a : MarkArgs) :
    Tx.Atomic (markPendingReconciliation a) := by
  unfold markPendingReconciliation
  refine Tx.atomic_bind (by simp) fun found => ?_
  cases found with
  | none => exact (Tx.quiet_pure _).atomic
  | some request => exact atomic_markAdmitted ..

theorem markPendingReconciliation_moves (a : MarkArgs) (d : DB) :
    Moves env d.books (Tx.run (markPendingReconciliation a) d).2.books := by
  refine run_moves (atomic_markPendingReconciliation ..) fun u t h => ?_
  simp only [markPendingReconciliation, Tx.bind_ok, Tx.select_ok] at h
  obtain ⟨found, s', ⟨hfound, rfl⟩, h⟩ := h
  cases found with
  | none =>
    obtain ⟨-, rfl⟩ := (Tx.pure_ok ..).1 h
    exact .refl
  | some request =>
    obtain ⟨hr, -, hst⟩ := releasable_some hfound.symm
    simp [markAdmitted, Session.fresh, flushRequest_ok] at h
    subst h
    have m : Move env d.books _ := .suspend (fun r => r.id = request.id)
      (request.flush (pendingRequest a request)) (fun _ => rfl) fun r hrm hid => by
        obtain rfl : r = request := Table.eq_of_mem_of_key hrm (Table.mem_of_get? hr)
          (by simpa using hid)
        exact ⟨flush_edit fun _ =>
          rfl, by simp [pendingRequest], by simpa using hst, by simp [pendingRequest]⟩
    exact .single m

theorem atomic_recoverStaleModelReservations (leaseSeconds : Int) (now : Time) :
    Tx.Atomic (recoverStaleModelReservations leaseSeconds now) := by
  unfold recoverStaleModelReservations
  repeat refine Tx.atomic_bind (by simp) fun _ => ?_
  simp

theorem recoverStaleModelReservations_moves (leaseSeconds : Int) (now : Time) (d : DB) :
    Moves env d.books (Tx.run (recoverStaleModelReservations leaseSeconds now) d).2.books := by
  refine run_moves (atomic_recoverStaleModelReservations ..) fun n t h => ?_
  simp [recoverStaleModelReservations, Session.fresh, DB.updateRequests] at h
  obtain ⟨-, rfl, -⟩ := h
  have m : Move env d.books _ := .suspend
    (fun r => decide (r.status = .reserved) && decide (r.createdAt ≤ now - leaseSeconds * second))
    (fun r => { r with status := .pendingReconciliation, failureCategory := some "reservation_lease_expired" })
    (fun _ => rfl) fun r _ hp => by
      simp at hp
      exact ⟨⟨rfl, rfl, rfl, ⟨rfl, rfl⟩, fun _ => rfl⟩, rfl, hp.1, rfl⟩
  exact .single m

end Kunlun
