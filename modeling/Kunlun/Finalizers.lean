import Kunlun.Accounting
import Kunlun.Lib.TwoStep

/-!
# The end of a hold, with calls in between

A settlement, a release and a mark read the row of their request without a lock, and write
later by what they have read. Each writes the wallet, the budget, the journal and the row in
one transaction.
-/

namespace Kunlun

/-- The calls that end a request or suspend it. An operator's decision is a settlement or a
release with statuses of its own. -/
inductive Finalizer where
  | settle (a : SettleArgs)
  | release (a : ReleaseArgs)
  | mark (a : MarkArgs)

/-- The unlocked read of the row, with the check of its status. -/
def Finalizer.check : Finalizer → DB → Option ModelRequest
  | .settle a => releasable a.requestId a.allowedStatuses
  | .release a => releasable a.requestId a.allowedStatuses
  | .mark a => releasable a.requestId [.reserved]

/-- The transaction that follows, on the row that was read. -/
def Finalizer.commit : Finalizer → ModelRequest → Service Unit
  | .settle a, request => discard (settleAdmitted a request)
  | .release a, request => releaseAdmitted a request
  | .mark a, request => markAdmitted a request

/-- Whether the call takes the hold. -/
def Finalizer.takes : Finalizer → Bool
  | .mark _ => false
  | _ => true

/-- The key of the journal. A settlement and a release have different ones. -/
def Finalizer.key : Finalizer → ModelRequest → String
  | .release _, request => "model:" ++ request.id ++ ":release"
  | _, request => "model:" ++ request.id ++ ":settle"

/-- The statuses are those that the callers pass. -/
def Finalizer.ByCaller : Finalizer → Prop
  | .settle a => ∀ x ∈ a.allowedStatuses, x.outstanding
  | .release a => a.ByCaller
  | .mark _ => True

/-- The calls that the finalizers are, when they are one step. -/
def Op.finalizes : Op → Bool
  | .settleModelRequest _ | .releaseModelRequest _ | .markPendingReconciliation
    _ | .reconcileRequest _ => true
  | _ => false

def finalizers : TwoStep DB Finalizer ModelRequest Op where
  read := Finalizer.check
  write c request d := (Tx.run (c.commit request) d).2
  apart := exec

abbrev FinalizerState := TwoStep.State DB Finalizer ModelRequest
abbrev FinalizerAction := TwoStep.Action Finalizer Op

/-- The step takes the hold of the request, and commits. -/
def finalizes (requestId : Id) (a : FinalizerAction) (s : FinalizerState) : Bool :=
  match a with
  | .write i =>
    match s.waiting[i]? with
    | some (c, request) =>
      decide (request.id = requestId) && (c.takes && (Tx.run (c.commit request) s.shared).1.isOk)
    | none => false
  | _ => false

/-! ## With nothing in between -/

def Finalizer.op : Finalizer → Op
  | .settle a => .settleModelRequest a
  | .release a => .releaseModelRequest a
  | .mark a => .markPendingReconciliation a

theorem settleModelRequest_none {a : SettleArgs} {d : DB}
    (h : releasable a.requestId a.allowedStatuses d = none) :
    (Tx.run (settleModelRequest a) d).2 = d := by
  have hraise : ¬ ∃ r t, settleable a.requestId a.allowedStatuses (.fresh d) = (.ok r, t) := by
    rintro ⟨r, t, hr⟩
    obtain ⟨hget, hs, -⟩ := settleable_ok hr
    rw [releasable, show d.requests.get? a.requestId = some r from hget] at h
    simp [hs] at h
  rcases Tx.run_cases (atomic_settleModelRequest a) d with heq | ⟨r, t, hok, -⟩
  · exact heq
  · obtain ⟨request, s, hr, -⟩ := (Tx.bind_ok ..).1 hok
    exact absurd ⟨request, s, hr⟩ hraise

theorem settleModelRequest_some {a : SettleArgs} {d : DB} {r : ModelRequest}
    (h : releasable a.requestId a.allowedStatuses d = some r) :
    Tx.run (settleModelRequest a) d = Tx.run (settleAdmitted a r) d := by
  obtain ⟨hget, hid, hs⟩ := releasable_some h
  have hok : settleable a.requestId a.allowedStatuses (.fresh d) = (.ok r, .fresh d) := by
    rw [hid] at hget
    simp [settleable, Session.fresh, hget, hs]
  simp only [Tx.run, settleModelRequest, Bind.bind, hok]

/-- A check that is followed by its commit is the call of the service. -/
theorem exec_finalizer (c : Finalizer) (d : DB) :
    exec c.op d = match c.check d with
      | none => d
      | some request => (Tx.run (c.commit request) d).2 := by
  cases c with
  | settle a =>
    rw [exec, Finalizer.op, Op.service, run_discard, Finalizer.check]
    cases h : releasable a.requestId a.allowedStatuses d with
    | none => exact settleModelRequest_none h
    | some r =>
      rw [settleModelRequest_some h]
      exact (run_discard _ d).symm
  | release a =>
    rw [exec, Finalizer.op, Op.service, run_discard, Finalizer.check]
    have hrun : Tx.run (releaseModelRequest a) d = Tx.run
      (match releasable a.requestId a.allowedStatuses d with
      | none => return ()
      | some request => releaseAdmitted a request) d := rfl
    rw [hrun]
    cases releasable a.requestId a.allowedStatuses d <;> rfl
  | mark a =>
    rw [exec, Finalizer.op, Op.service, run_discard, Finalizer.check]
    have hrun : Tx.run (markPendingReconciliation a) d = Tx.run
      (match releasable a.requestId [.reserved] d with
      | none => return ()
      | some request => markAdmitted a request) d := rfl
    rw [hrun]
    cases releasable a.requestId [.reserved] d <;> rfl

/-! ## What a commit does -/

/-- The hold is in the wallet and in the budget, and leaves both with the row and a new journal. -/
structure HoldTaken (request set : ModelRequest) (back : Int) (key : String)
    (d d' : DB) : Prop where
  wallet : ∃ w, d.wallets.get? request.userId = some w ∧
    request.reservedMicrousd ≤ w.reservedMicrousd ∧
    d'.wallets.get? request.userId = some { w with
      reservedMicrousd := w.reservedMicrousd - request.reservedMicrousd
      balanceMicrousd := w.balanceMicrousd + back }
  budget : ∀ i ∈ request.budgetId, ∃ x, d.budgets.get? i = some x ∧
    request.reservedMicrousd ≤ x.reservedMicrousd
  free : d.ledger.get? key = none
  requests : d'.requests = d.requests.modify request.id (request.flush set) fun _ => rfl

theorem finishHold_ok {request set : ModelRequest} {back charged : Int}
    {kind : LedgerKind} {key : String}
    {entries : List (Account × Int)} {written : Bool} {d : DB} {t : Session DB} {u : Unit}
    (h : finishHold request set back charged kind key entries written (.fresh d) = (.ok u, t)) :
    HoldTaken request set back key d t.committed := by
  simp only [finishHold, Tx.bind_ok, Tx.raiseIf_ok, Tx.add_ok, Tx.commit_ok] at h
  obtain ⟨_, _, h1, _, _, h2, _, _, ⟨-, rfl⟩, _, _, rfl, d', hd, rfl⟩ := h
  obtain ⟨⟨w, hw, hheld⟩, hbudget, rfl⟩ := takeHold_ok h1
  obtain ⟨hbalanced, d₁, d₂, hpend, hpost, rfl⟩ := (postTransaction_ok ..).1 h2
  obtain rfl := Option.some.inj hpend
  obtain ⟨ledger, hl, rfl⟩ := insertLedger_ok.1 hpost
  simp only [List.nil_append, Tx.applyAll_cons, Tx.applyAll_nil, flushRequest_ok] at hd
  obtain ⟨_, rfl, hd⟩ := hd
  obtain rfl := Option.some.inj hd
  exact ⟨⟨w, hw, hheld, Table.get?_modify_self hw (fun w => { w with
    reservedMicrousd := w.reservedMicrousd - request.reservedMicrousd
    balanceMicrousd := w.balanceMicrousd + back }) fun _ => rfl⟩, hbudget,
      (Table.insert?_eq_some.1 hl).1, rfl⟩

theorem Finalizer.commit_ok {c : Finalizer} {request : ModelRequest} {d : DB}
    (hc : c.takes) (hby : c.ByCaller)
    (h : (Tx.run (c.commit request) d).1.isOk) :
    ∃ set back, set.status.outstanding = false ∧
      HoldTaken request set back (c.key request) d (Tx.run (c.commit request) d).2 := by
  rw [Tx.run] at h ⊢
  rcases hrun : c.commit request (.fresh d) with ⟨⟨e⟩ | ⟨u⟩, t⟩
  · simp [hrun, Except.isOk, Except.toBool] at h
  dsimp only
  cases c with
  | settle a =>
    simp only [Finalizer.commit, discard, settleAdmitted, Tx.bind_ok, Tx.lift_ok, Tx.raiseIf_ok,
      Tx.pure_ok] at hrun
    obtain ⟨_, _, ⟨_, _, ⟨-, rfl⟩, _, _, ⟨-, rfl⟩, _, _, ⟨-, rfl⟩, _, _, ⟨-, rfl⟩, _, _,
      ⟨-, rfl⟩, _, _, h, -, rfl⟩, -, rfl⟩ := hrun
    refine ⟨_, _, ?_, finishHold_ok h⟩
    simp only [settledRequest]
    split_ifs <;> rfl
  | release a => exact ⟨_, _, hby.final, finishHold_ok hrun⟩
  | mark a => cases hc

theorem Finalizer.atomic_commit (c : Finalizer) (request : ModelRequest) :
    Tx.Atomic (c.commit request) := by
  cases c with
  | settle a => exact Tx.atomic_then (atomic_settleAdmitted a request) fun _ => Tx.returns_pure _
  | release a => exact atomic_finishHold ..
  | mark a => exact atomic_markAdmitted ..

theorem Finalizer.commit_raised {c : Finalizer} {request : ModelRequest} {d : DB}
    (h : (Tx.run (c.commit request) d).1.isOk = false) : (Tx.run (c.commit request) d).2 = d := by
  rcases Tx.run_cases (c.atomic_commit request) d with heq | ⟨u, t, hok, -⟩
  · exact heq
  · rw [Tx.run, hok] at h
    cases h

/-! ## Runs -/

/-- The request is there, and finished. -/
def Finished (requestId : Id) (d : DB) : Prop :=
  ∃ r, d.requests.get? requestId = some r ∧ r.status.outstanding = false

/-- The request is there, and not finished. -/
def Unfinished (requestId : Id) (d : DB) : Prop :=
  ∃ r, d.requests.get? requestId = some r ∧ r.status.outstanding

/-- The commit cannot take the hold, whatever the row says. -/
structure Finalizer.Refused (c : Finalizer) (request : ModelRequest) (d : DB) : Prop where
  takes : c.takes
  why : (∀ w, d.wallets.get? request.userId = some w →
    w.reservedMicrousd < request.reservedMicrousd) ∨
    (∃ i ∈ request.budgetId, ∀ x, d.budgets.get? i = some x →
      x.reservedMicrousd < request.reservedMicrousd) ∨
    (d.ledger.get? (c.key request)).isSome

/-- Where a call writes, its request is not finished, or the write is refused. -/
def Unraced (a : FinalizerAction) (s : FinalizerState) : Prop :=
  match a with
  | .write i => ∀ x, s.waiting[i]? = some x → Unfinished x.2.id s.shared ∨ x.1.Refused x.2 s.shared
  | _ => True

/-- The calls come from the callers in `src`, and the finalizers in two steps. -/
def FromCallers (a : FinalizerAction) : Prop :=
  match a with
  | .read c => c.ByCaller
  | .write _ => True
  | .apart op => op.finalizes = false

theorem Finished.not_unfinished {requestId : Id} {d : DB} (h : Finished requestId d) :
    ¬ Unfinished requestId d := by
  rintro ⟨r, hr, hs⟩
  obtain ⟨x, hx, hf⟩ := h
  obtain rfl := Option.some.inj (hr.symm.trans hx)
  rw [hf] at hs
  cases hs

theorem HoldTaken.not_refused {c : Finalizer} {request set : ModelRequest} {back : Int} {d d' : DB}
    (h : HoldTaken request set back (c.key request) d d') : ¬ c.Refused request d := by
  rintro ⟨-, hw | ⟨i, hi, hb⟩ | hk⟩
  · obtain ⟨w, hget, hle, -⟩ := h.wallet
    exact absurd (hw w hget) (by omega)
  · obtain ⟨x, hget, hle⟩ := h.budget i hi
    exact absurd (hb x hget) (by omega)
  · rw [h.free] at hk
    cases hk

theorem HoldTaken.finished {request set : ModelRequest} {back : Int} {key : String} {d d' : DB}
    (h : HoldTaken request set back key d d') (hout : request.status.outstanding)
    (hset : set.status.outstanding = false) (hrow : Unfinished request.id d) :
    Finished request.id d' := by
  obtain ⟨x, hx, -⟩ := hrow
  refine ⟨request.flush set x, ?_, ?_⟩
  · rw [h.requests]
    exact Table.get?_modify_self hx (request.flush set) fun _ => rfl
  · have hne : set.status ≠ request.status := by
      rintro heq
      rw [← heq, hset] at hout
      cases hout
    simp [ModelRequest.flush, changed, hne, hset]

theorem Finalizer.commit_other (c : Finalizer) {request : ModelRequest} {d : DB}
    (hby : c.ByCaller) {i : Id}
    (hi : i ≠ request.id) : (Tx.run (c.commit request) d).2.requests.get?
      i = d.requests.get? i := by
  cases hok : (Tx.run (c.commit request) d).1.isOk with
  | false => rw [commit_raised hok]
  | true =>
    cases hc : c.takes with
    | true =>
      obtain ⟨set, back, -, h⟩ := commit_ok hc hby hok
      rw [h.requests]
      exact (Table.get?_modify d.requests request.id i (request.flush set) fun _ =>
        rfl).trans (if_neg hi)
    | false =>
      cases c with
      | mark a =>
        rcases Tx.run_cases (atomic_markAdmitted a request) d with heq | ⟨u, t, h, heq⟩
        · exact congrArg (fun e : DB => e.requests.get? i) heq
        · simp only [markAdmitted, Tx.bind_ok, Tx.add_ok, Tx.commit_ok] at h
          obtain ⟨_, _, rfl, d', hd, rfl⟩ := h
          simp only [Session.fresh, List.nil_append, Tx.applyAll_cons, Tx.applyAll_nil,
            flushRequest_ok] at hd
          obtain ⟨_, rfl, hd⟩ := hd
          obtain rfl := Option.some.inj hd
          rw [show (Tx.run ((Finalizer.mark a).commit request) d).2 = _ from heq]
          exact (Table.get?_modify d.requests request.id i
            (request.flush (pendingRequest a request)) fun _ => rfl).trans
            (if_neg hi)
      | _ => cases hc

theorem Finished.exec {requestId : Id} {d : DB} (h : Finished requestId d) {op : Op}
    (hop : op.finalizes = false) :
    Finished requestId (exec op d) := by
  obtain ⟨r, hr, hs⟩ := h
  have hin : op.In .callerRun d := by
    refine ⟨fun _ => ?_, fun _ _ => trivial, fun _ _ => trivial⟩
    cases op <;> trivial
  have m : Moves .callerRun d.books (Kunlun.exec op d).books := exec_moves (fun _ => trivial) hin
  exact ⟨r, m.finished trivial hr hs, hs⟩

/-- A call that waits has found its request unfinished. -/
def Admitted (s : FinalizerState) : Prop := ∀ x ∈ s.waiting, x.1.ByCaller ∧ x.2.status.outstanding

theorem Finalizer.check_outstanding {c : Finalizer} (hby : c.ByCaller) {d : DB} {r : ModelRequest}
    (h : c.check d = some r) : r.status.outstanding := by
  cases c with
  | settle a => exact hby _ (releasable_some h).2.2
  | release a => exact hby.allowed _ (releasable_some h).2.2
  | mark a =>
    rw [List.mem_singleton.1 (releasable_some h).2.2]
    rfl

theorem Admitted.step {s : FinalizerState} {a : FinalizerAction} (h : Admitted s)
    (ha : FromCallers a) :
    Admitted (finalizers.step a s) := by
  refine TwoStep.waiting_step finalizers (P := fun c r => c.ByCaller ∧ r.status.outstanding) h
    fun c l heq hl => ?_
  subst heq
  exact ⟨ha, Finalizer.check_outstanding ha hl⟩

theorem finalizes_spec {requestId : Id} {a : FinalizerAction} {s : FinalizerState} (hs : Admitted s)
    (h : finalizes requestId a s) : ∃ i c request set back, a = .write i ∧
    s.waiting[i]? = some (c, request) ∧
      request.id = requestId ∧ request.status.outstanding ∧ set.status.outstanding = false ∧
      HoldTaken request set back (c.key request) s.shared (finalizers.step a s).shared := by
  cases a with
  | write i =>
    simp only [finalizes] at h
    cases hi : s.waiting[i]? with
    | none => simp [hi] at h
    | some x =>
      obtain ⟨c, request⟩ := x
      simp only [hi, Bool.and_eq_true, decide_eq_true_eq] at h
      obtain ⟨hid, htakes, hok⟩ := h
      obtain ⟨hby, hout⟩ := hs _ (List.mem_of_getElem? hi)
      obtain ⟨set, back, hset, ht⟩ := Finalizer.commit_ok htakes hby hok
      refine ⟨i, c, request, set, back, rfl, hi, hid, hout, hset, ?_⟩
      simpa [TwoStep.step, hi, finalizers] using ht
  | _ => cases h

theorem Finished.step {requestId : Id} {a : FinalizerAction} {s : FinalizerState} (hs : Admitted s)
    (hby : FromCallers a) (hun : Unraced a s) (h : Finished requestId s.shared) :
    finalizes requestId a s = false ∧ Finished requestId (finalizers.step a s).shared := by
  cases a with
  | read c =>
    refine ⟨rfl, ?_⟩
    unfold TwoStep.step
    cases hc : finalizers.read c s.shared with
    | none => simpa [hc] using h
    | some r => simpa [hc] using h
  | apart op => exact ⟨rfl, h.exec hby⟩
  | write i =>
    cases hi : s.waiting[i]? with
    | none => exact ⟨by simp [finalizes, hi], by simpa [TwoStep.step, hi] using h⟩
    | some x =>
      obtain ⟨c, request⟩ := x
      have hcby := (hs _ (List.mem_of_getElem? hi)).1
      have hstep : (finalizers.step (.write i) s).shared =
          (Tx.run (c.commit request) s.shared).2 := by
        simp [TwoStep.step, hi, finalizers]
      rw [hstep]
      by_cases hid : request.id = requestId
      · -- the row is finished, so the write is refused
        subst hid
        have hno : c.Refused request s.shared := (hun _ hi).resolve_left h.not_unfinished
        have hfail : (Tx.run (c.commit request) s.shared).1.isOk = false := by
          cases hok : (Tx.run (c.commit request) s.shared).1.isOk with
          | false => rfl
          | true =>
            obtain ⟨_, _, -, ht⟩ := Finalizer.commit_ok hno.takes hcby hok
            exact absurd hno ht.not_refused
        rw [Finalizer.commit_raised hfail]
        exact ⟨by simp [finalizes, hi, hfail], h⟩
      · obtain ⟨r, hr, hf⟩ := h
        exact ⟨by simp [finalizes, hi, hid], r, (c.commit_other hcby (Ne.symm hid)).trans hr, hf⟩

theorem finalizes_effect {s : FinalizerState} (hs : Admitted s) {i : Nat} {c : Finalizer}
    {request : ModelRequest}
    (hi : s.waiting[i]? = some (c, request)) (hc : c.takes) :
    if finalizes request.id (.write i) s then
      ∃ w w', s.shared.wallets.get? request.userId = some w ∧
        (finalizers.step (.write i) s).shared.wallets.get? request.userId = some w' ∧
        w'.reservedMicrousd = w.reservedMicrousd - request.reservedMicrousd
    else (finalizers.step (.write i) s).shared = s.shared := by
  split
  · rename_i hf
    obtain ⟨_, _, _, _, _, ha, hj, -, -, -, ht⟩ := finalizes_spec hs hf
    obtain rfl := TwoStep.Action.write.inj ha
    obtain ⟨rfl, rfl⟩ := Prod.mk.inj (Option.some.inj (hj.symm.trans hi))
    obtain ⟨w, hw, -, hw'⟩ := ht.wallet
    exact ⟨w, _, hw, hw', rfl⟩
  · rename_i hf
    simp only [finalizes, hi, hc, decide_true, Bool.true_and, Bool.not_eq_true] at hf
    simpa [TwoStep.step, hi, finalizers] using Finalizer.commit_raised hf

/-- The hold of a request is taken once, if no call writes what another has finished. -/
theorem finalized_once {d : DB} {actions : List FinalizerAction}
    (h : Run.Along finalizers.step (fun a s => FromCallers a ∧ Unraced a s)
      (TwoStep.start d) actions)
    (requestId : Id) :
    Run.count finalizers.step (finalizes requestId) (TwoStep.start d) actions ≤ 1 ∧
    ∀ i c request, (Run.after finalizers.step (TwoStep.start d) actions).waiting[i]? =
      some (c, request) → c.takes →
      if finalizes request.id (.write i) (Run.after finalizers.step (TwoStep.start d) actions) then
        ∃ w w', (Run.after finalizers.step (TwoStep.start d) actions).shared.wallets.get?
          request.userId = some w ∧
          (Run.after finalizers.step (TwoStep.start d) (actions ++ [.write i])).shared.wallets.get?
            request.userId =
            some w' ∧ w'.reservedMicrousd = w.reservedMicrousd - request.reservedMicrousd
      else (Run.after finalizers.step (TwoStep.start d) (actions ++ [.write i])).shared =
        (Run.after finalizers.step (TwoStep.start d) actions).shared := by
  have hstart : Admitted (TwoStep.start d) := by
    intro x hx
    cases hx
  refine ⟨?_, fun i c request hi hc => ?_⟩
  · refine Run.count_le_one (I := Admitted) (fun s a hs ha => hs.step ha.1) (fun s a hs ha hf => ?_)
      (fun s a hs ha (hspent : Finished requestId s.shared) => hspent.step hs ha.1 ha.2) hstart h
    obtain ⟨i, c, request, set, back, rfl, hi, rfl, hout, hset, ht⟩ := finalizes_spec hs hf
    rcases ha.2 _ hi with hrow | hno
    · exact ht.finished hout hset hrow
    · exact absurd hno ht.not_refused
  · rw [Run.after_append]
    exact finalizes_effect (Run.invariant (fun s a hs ha => Admitted.step hs ha.1) hstart h) hi hc

/-- Two requests that both hold, and the lease of both has expired. -/
def twoHolds : DB := Run.after exec shop (chat ++ [
  .reserveModelRequest ⟨"u", "k", "m", .null, 10, none, "r'", 0, 0, 0⟩,
  .recoverStaleModelReservations 300 (10 * minute)])

/-- An operator's settlement and an operator's release of the same request. -/
def bothFinalizers : List FinalizerAction := [
  .read (.settle ⟨"r", settlementResponse "m" 1 1, "operator-reconciled", 0, false, none, none,
    some 0, [.pendingReconciliation], Json.dumps⟩),
  .read (.release ⟨"r", "operator_release", [.pendingReconciliation], .reconciledReleased,
    .operatorRelease⟩),
  .write 0, .write 0]

/-- Both commit, and the second takes the hold of the other request. -/
theorem finalized_twice :
    Run.Along finalizers.step (fun a _ => FromCallers a) (TwoStep.start twoHolds) bothFinalizers ∧
    Run.count finalizers.step (finalizes "r") (TwoStep.start twoHolds) bothFinalizers = 2 := by
  refine ⟨⟨?_, ?_, trivial, trivial, trivial⟩, by decide +kernel⟩
  · simp [FromCallers, Finalizer.ByCaller, RequestStatus.outstanding]
  · exact ⟨by simp [RequestStatus.outstanding], rfl, rfl⟩

/-- One of them alone takes its hold. -/
theorem finalized_once_released :
    Run.count finalizers.step (finalizes "r") (TwoStep.start twoHolds)
      [bothFinalizers[1], .write 0] = 1 ∧
    Run.count finalizers.step (finalizes "r") (TwoStep.start twoHolds)
      [bothFinalizers[1], .write 0] ≤ 1 := by
  have hby : FromCallers bothFinalizers[1] := ⟨by simp [RequestStatus.outstanding], rfl, rfl⟩
  have hrow : (twoHolds.requests.get? "r").any (·.status.outstanding) := by decide +kernel
  have hun : Unraced (.write 0) (finalizers.step bothFinalizers[1] (TwoStep.start twoHolds)) := by
    intro x hx
    refine .inl ?_
    simp only [bothFinalizers, List.getElem_cons_succ, List.getElem_cons_zero, TwoStep.step,
      TwoStep.start, finalizers, Finalizer.check] at hx ⊢
    split at hx
    · cases hx
    · rename_i r hr
      obtain rfl := Option.some.inj hx
      obtain ⟨hget, hid, -⟩ := releasable_some hr
      dsimp only
      rw [hid] at hget ⊢
      rw [hget] at hrow
      exact ⟨r, hget, hrow⟩
  have h : Run.Along finalizers.step (fun a s => FromCallers a ∧ Unraced a s)
    (TwoStep.start twoHolds)
      [bothFinalizers[1], .write 0] := ⟨⟨hby, trivial⟩, ⟨trivial, hun⟩, trivial⟩
  exact ⟨by decide +kernel, (finalized_once h "r").1⟩

end Kunlun
