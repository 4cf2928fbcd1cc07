import Kunlun.Moves.Billing
import Kunlun.Moves.Accounts

/-!
# Exceptions that the services never raise
-/

namespace Kunlun

/-- What `post_transaction` raises of a journal it refuses. -/
def unbalanced : Exc := .runtimeError "账本分录不平衡"

/-- A domain error that says that a hold is not covered where it ends, or its answer. -/
def Exc.isAnomaly : Exc → Bool
  | .billing message _ | .budget message _ | .payment message _ | .paymentDomain message
    _ | .http message _ =>
    message = "钱包预授权状态异常" ∨ message = "预算预授权状态异常"
  | _ => false

def Exc.isPlain (e : Exc) : Bool := e ≠ unbalanced ∧ e.isAnomaly = false

@[simp]
theorem isPlain_violation : Exc.isPlain Violation.violation := rfl

theorem isPlain_http {e : Exc} (h : e.isPlain) : (e.http?.getD e).isPlain := by
  cases e <;> simp_all [Exc.isPlain, Exc.http?, Exc.isAnomaly, unbalanced]

section Raises

variable {α : Type} {s : Session DB} {p : Exc → Prop}

theorem raises_answer {x : Service α} (hx : Tx.Raises x s p)
    (hhttp : ∀ e : Exc, p e → p (e.http?.getD e)) :
    Tx.Raises (answering x) s p := by
  refine Tx.raises_tryExcept hx fun e t h => Tx.raises_bind (by simp) fun _ _ _ => ?_
  exact Tx.raises_raise (hhttp e (hx.of_error e t h))

theorem raises_answering {x : Service α} (hx : Tx.Raises x s (·.isPlain)) :
    Tx.Raises (answering x) s (·.isPlain) :=
  raises_answer hx fun _ => isPlain_http

theorem raises_conflictsAs {x : Service α} {e : Exc} (hx : Tx.Raises x s p) (he : p e) :
    Tx.Raises (conflictsAs e x) s p :=
  Tx.raises_tryExcept hx fun _ _ _ => Tx.raises_bind (by simp) fun _ _ _ => Tx.raises_raise he

theorem raises_postTransaction {userId : Id} {kind : LedgerKind} {reference key : String}
    {entries : List (Account × Int)} (h2 : 2 ≤ (normalized entries).length)
    (h0 : (entries.map (·.2)).sum = 0) :
    Tx.Raises (postTransaction userId kind reference key entries) s (·.isPlain) := by
  unfold postTransaction
  rw [dif_pos ⟨h2, by rw [sum_normalized]; exact h0⟩]
  exact Tx.raises_bind (by simp) fun _ _ _ => Tx.raises_flush rfl

end Raises

/-! ## Budgets and admission -/

theorem raises_createBudget (userId : Id) (amount : Int) (budgetId : Id)
    (now createdAt : Time) (s : Session DB) :
    Tx.Raises (createBudget userId amount budgetId now createdAt) s (·.isPlain) := by
  unfold createBudget
  refine Tx.raises_bind (Tx.raises_raiseIf rfl) fun _ _ _ =>
    Tx.raises_bind (Tx.raises_execute _ rfl) fun _ _ _ => ?_
  refine Tx.raises_bind (Tx.raises_rollbackIf rfl) fun _ _ _ =>
    Tx.raises_bind (by simp) fun current _ _ => ?_
  cases current with
  | none =>
    refine Tx.raises_bind (by simp) fun _ _ _ => Tx.raises_bind (Tx.raises_commit rfl)
      fun _ _ _ => by simp
  | some current =>
    refine Tx.raises_bind (Tx.raises_rollbackIf rfl) fun _ _ _ => ?_
    refine Tx.raises_bind (Tx.raises_rollbackIf rfl) fun _ _ _ => ?_
    refine Tx.raises_bind (by simp) fun _ _ _ => Tx.raises_bind (by simp) fun _ _ _ => ?_
    exact Tx.raises_bind (Tx.raises_commit rfl) fun _ _ _ => by simp

theorem ceilDiv_error {n d : Nat} {e : Exc} (h : ceilDiv n d = .error e) : e.isPlain := by
  unfold ceilDiv at h
  split at h <;> cases h
  rfl

theorem tokenCost_error {tokens price : Int} {e : Exc}
    (h : tokenCost tokens price = .error e) : e.isPlain := by
  unfold tokenCost at h
  split at h
  · cases h
  · exact ceilDiv_error h

theorem except_bind_error {ε α β : Type} {x : Except ε α} {f : α → Except ε β} {e : ε}
    (h : (x >>= f) = .error e) : x = .error e ∨ ∃ a, f a = .error e := by
  cases x with
  | ok a => exact .inr ⟨a, h⟩
  | error e' =>
    cases h
    exact .inl rfl

theorem estimateTokens_error {value : Json} {e : Exc}
    (h : estimateTokens value = .error e) : e.isPlain := by
  rcases except_bind_error h with h | ⟨_, h⟩
  · exact ceilDiv_error h
  · cases h

theorem inputBound_error {value : Json} {e : Exc}
    (h : inputTokenReservationUpperBound value = .error e) :
    e.isPlain := by
  unfold inputTokenReservationUpperBound at h
  split at h <;> cases h
  rfl

theorem raises_insertReserved {a : ReserveArgs} {price : ModelPrice} {amount estimatedInput : Int}
    {budgetId : Option Id} (hpos : 0 < amount) (s : Session DB) :
    Tx.Raises (insertReserved a price amount estimatedInput budgetId) s (·.isPlain) := by
  unfold insertReserved
  refine Tx.raises_bind (by simp) fun _ _ _ =>
    Tx.raises_bind (raises_postTransaction ?_ ?_) fun _ _ _ => ?_
  · refine two_le_normalized (.head _) (.tail _ (.head _)) (by simp) ?_ ?_ <;> simp <;> omega
  · simp
  · exact Tx.raises_commit rfl

theorem raises_admission {a : ReserveArgs} {price : ModelPrice} {amount estimatedInput : Int}
    (hpos : 0 < amount)
    (s : Session DB) : Tx.Raises (admission a price amount estimatedInput) s (·.isPlain) := by
  unfold admission
  refine Tx.raises_bind (by simp) fun _ _ _ =>
    Tx.raises_bind (Tx.raises_orRollback rfl) fun _ _ _ => ?_
  refine Tx.raises_bind (Tx.raises_rollbackIf rfl) fun _ _ _ =>
    Tx.raises_bind (by simp) fun _ _ _ => ?_
  refine Tx.raises_bind (Tx.raises_orRollback rfl) fun _ _ _ => ?_
  refine Tx.raises_bind (Tx.raises_rollbackIf rfl) fun _ _ _ => ?_
  refine Tx.raises_bind (Tx.raises_execute _ rfl) fun _ _ _ => ?_
  refine Tx.raises_bind (Tx.raises_rollbackIf rfl) fun _ _ _ =>
    Tx.raises_bind (by simp) fun budget _ _ => ?_
  refine Tx.raises_bind (Tx.raises_execute _ rfl) fun _ _ _ => ?_
  refine Tx.raises_bind (Tx.raises_rollbackIf rfl) fun _ _ _ => ?_
  cases budget with
  | none => exact raises_insertReserved hpos _
  | some b =>
    refine Tx.raises_bind (Tx.raises_rollbackIf rfl) fun _ _ _ => ?_
    refine Tx.raises_bind (Tx.raises_execute _ rfl) fun _ _ _ => ?_
    exact Tx.raises_bind (Tx.raises_rollbackIf rfl) fun _ _ _ => raises_insertReserved hpos _

theorem raises_reserveModelRequest (a : ReserveArgs) (s : Session DB) :
    Tx.Raises (reserveModelRequest a) s (·.isPlain) := by
  unfold reserveModelRequest
  refine Tx.raises_bind (by simp) fun _ _ _ =>
    Tx.raises_bind (Tx.raises_orRaise rfl) fun _ _ _ => ?_
  refine Tx.raises_bind (Tx.raises_raiseIf rfl) fun _ _ _ => ?_
  refine Tx.raises_bind (Tx.raises_lift fun _ => estimateTokens_error) fun _ _ _ => ?_
  refine Tx.raises_bind (Tx.raises_lift fun _ => inputBound_error) fun _ _ _ => ?_
  refine Tx.raises_bind (Tx.raises_lift fun _ => tokenCost_error) fun inputCost _ _ => ?_
  refine Tx.raises_bind (Tx.raises_lift fun _ => tokenCost_error) fun outputCost _ _ => ?_
  refine Tx.raises_bind (by simp) fun _ _ _ =>
    Tx.raises_bind (Tx.raises_raiseIf rfl) fun _ _ _ => ?_
  have hpos : 0 < max 1 (inputCost + outputCost) := by omega
  exact Tx.raises_bind (raises_conflictsAs (raises_admission hpos _) rfl) fun _ _ _ => by simp

/-! ## The end of a hold -/

/-- The wallet and the budget hold what the request does. -/
structure Covered (d : DB) (request : ModelRequest) : Prop where
  wallet : ∃ w, d.wallets.get? request.userId = some w ∧
    request.reservedMicrousd ≤ w.reservedMicrousd
  budget : ∀ i ∈ request.budgetId, ∃ b, d.budgets.get? i = some b ∧
    request.reservedMicrousd ≤ b.reservedMicrousd

section Holds

variable {s : Session DB} {p : Exc → Prop}

theorem raises_takeHold {request : ModelRequest} {back charged : Int} (hv : p Violation.violation)
    (h : Covered s.work request ∨ ∀ message, p (.billing message 409)) :
    Tx.Raises (takeHold request back charged) s p := by
  unfold takeHold
  refine Tx.raises_bind (Tx.raises_execute _ hv) fun n t hn => Tx.raises_bind ?_ fun _ t' ht => ?_
  · rcases h with h | h
    · obtain ⟨w, hw, hle⟩ := h.wallet
      obtain ⟨d, hd, -⟩ := (Tx.execute_ok ..).1 hn
      refine Tx.raises_rollbackIf_not (not_not.2 ?_)
      rw [← (Prod.mk.inj (Option.some.inj hd)).2, Table.count_key, hw]
      simp [hle]
    · exact Tx.raises_rollbackIf (h _)
  · obtain ⟨d, hd, rfl⟩ := (Tx.execute_ok ..).1 hn
    obtain ⟨-, rfl⟩ := (Tx.rollbackIf_ok ..).1 ht
    obtain ⟨rfl, -⟩ := Prod.mk.inj (Option.some.inj hd)
    cases hb : request.budgetId with
    | none => exact Tx.raises_pure _
    | some i =>
      refine Tx.raises_bind (Tx.raises_execute _ hv) fun n t hn => ?_
      rcases h with h | h
      · obtain ⟨b, hb, hle⟩ := h.budget i hb
        obtain ⟨d, hd, -⟩ := (Tx.execute_ok ..).1 hn
        refine Tx.raises_rollbackIf_not (not_not.2 ?_)
        rw [← (Prod.mk.inj (Option.some.inj hd)).2, Table.count_key, hb]
        simp [hle]
      · exact Tx.raises_rollbackIf (h _)

theorem raises_finishHold {request set : ModelRequest} {back charged : Int}
    {kind : LedgerKind} {key : String}
    {entries : List (Account × Int)} {written : Bool}
    (h : Covered s.work request ∨ ∀ message, p (.billing message 409))
    (hplain : ∀ e : Exc, e.isPlain → p e)
    (h2 : 2 ≤ (normalized entries).length) (h0 : (entries.map (·.2)).sum = 0) :
    Tx.Raises (finishHold request set back charged kind key entries written) s p := by
  unfold finishHold
  refine Tx.raises_bind (raises_takeHold (hplain _ rfl) h) fun _ _ _ => ?_
  refine Tx.raises_bind ((raises_postTransaction h2 h0).mono hplain) fun _ _ _ => ?_
  refine Tx.raises_bind (Tx.raises_raiseIf (hplain _ rfl)) fun _ _ _ => ?_
  exact Tx.raises_bind (by simp) fun _ _ _ => Tx.raises_commit (hplain _ rfl)

theorem length_settleEntries {reserved cost upstream : Int} (hpos : 0 < reserved) :
    2 ≤ (normalized (settleEntries reserved cost upstream)).length := by
  have hreserved : (Account.customerReserved, -reserved) ∈ settleEntries
      reserved cost upstream := by
    simp [settleEntries]
  by_cases hfull : reserved ≤ cost
  · have hrevenue : (Account.platformRevenue, cost) ∈ settleEntries reserved cost upstream := by
      simp [settleEntries, show cost ≠ 0 by omega]
    exact two_le_normalized hreserved hrevenue (by simp) (by simp; omega) (by simp; omega)
  · have havailable : (Account.customerAvailable, reserved - min cost reserved) ∈
        settleEntries reserved cost upstream := by
      simp [settleEntries, show reserved - min cost reserved ≠ 0 by omega]
    exact two_le_normalized hreserved havailable (by simp) (by simp; omega) (by simp; omega)

theorem sum_settleEntries (reserved cost upstream : Int) :
    ((settleEntries reserved cost upstream).map (·.2)).sum = 0 := by
  unfold settleEntries
  dsimp only
  split_ifs <;> simp <;> omega

theorem usageFromResponse_error {response : Json} {fallbackInput : Int} {e : Exc}
    (h : usageFromResponse response fallbackInput = .error e) : e.isPlain := by
  have hestimated (output : Json) (h : (do return (fallbackInput, ← estimateTokens output, true) :
      Except Exc (Int × Int × Bool)) = .error e) : e.isPlain := by
    rcases except_bind_error h with h | ⟨_, h⟩
    · exact estimateTokens_error h
    · cases h
  unfold usageFromResponse at h
  dsimp only at h
  split at h
  · split at h
    · split at h
      · cases h
      · exact hestimated _ h
    · exact hestimated _ h
  · exact hestimated _ h

theorem upstreamCost_error {a : SettleArgs} {request : ModelRequest}
    {inputTokens outputTokens : Int} {e : Exc}
    (h : upstreamCost a request inputTokens outputTokens = .error e) : e.isPlain := by
  unfold upstreamCost at h
  split at h
  · cases h
  · rcases except_bind_error h with h | ⟨_, h⟩
    · exact tokenCost_error h
    · rcases except_bind_error h with h | ⟨_, h⟩
      · exact tokenCost_error h
      · cases h

theorem raises_settleAdmitted {a : SettleArgs} {request : ModelRequest}
    (hpos : 0 < request.reservedMicrousd)
    (h : Covered s.work request ∨ ∀ message, p (.billing message 409))
    (hplain : ∀ e : Exc, e.isPlain → p e) :
    Tx.Raises (settleAdmitted a request) s p := by
  unfold settleAdmitted
  refine Tx.raises_bind (Tx.raises_lift fun _ he => hplain _ (usageFromResponse_error he))
    fun _ _ h1 => ?_
  refine Tx.raises_bind (Tx.raises_lift fun _ he => hplain _ (tokenCost_error he)) fun _ _ h2 => ?_
  refine Tx.raises_bind (Tx.raises_lift fun _ he => hplain _ (tokenCost_error he)) fun _ _ h3 => ?_
  refine Tx.raises_bind (Tx.raises_lift fun _ he => hplain _ (upstreamCost_error he)) fun _ _ h4 =>
    ?_
  refine Tx.raises_bind (Tx.raises_raiseIf (hplain _ rfl)) fun _ _ h5 => ?_
  obtain ⟨-, rfl⟩ := (Tx.lift_ok ..).1 h1
  obtain ⟨-, rfl⟩ := (Tx.lift_ok ..).1 h2
  obtain ⟨-, rfl⟩ := (Tx.lift_ok ..).1 h3
  obtain ⟨-, rfl⟩ := (Tx.lift_ok ..).1 h4
  obtain ⟨-, rfl⟩ := (Tx.raiseIf_ok ..).1 h5
  refine Tx.raises_bind (raises_finishHold h hplain ?_ (sum_settleEntries ..)) fun _ _ _ => by simp
  exact length_settleEntries hpos

theorem raises_settleModelRequest {a : SettleArgs}
    (hrow : ∀ r ∈ s.work.requests.rows, r.status ∈ a.allowedStatuses → 0 < r.reservedMicrousd ∧
      (Covered s.work r ∨ ∀ message, p (.billing message 409)))
    (hplain : ∀ e : Exc, e.isPlain → p e) : Tx.Raises (settleModelRequest a) s p := by
  unfold settleModelRequest
  refine Tx.raises_bind ?_ fun request t h => ?_
  · unfold settleable
    refine Tx.raises_bind (by simp) fun _ _ _ =>
      Tx.raises_bind (Tx.raises_orRaise (hplain _ rfl)) fun _ _ _ => ?_
    exact Tx.raises_bind (Tx.raises_raiseIf (hplain _ rfl)) fun _ _ _ => by simp
  · obtain ⟨hget, hst, rfl⟩ := settleable_ok h
    obtain ⟨hpos, hcov⟩ := hrow request (Table.mem_of_get? hget) hst
    exact raises_settleAdmitted hpos hcov hplain

theorem raises_releaseModelRequest {a : ReleaseArgs}
    (hrow : ∀ r ∈ s.work.requests.rows, r.status ∈ a.allowedStatuses → 0 < r.reservedMicrousd ∧
      (Covered s.work r ∨ ∀ message, p (.billing message 409)))
    (hplain : ∀ e : Exc, e.isPlain → p e) : Tx.Raises (releaseModelRequest a) s p := by
  unfold releaseModelRequest
  refine Tx.raises_bind (by simp) fun found t h => ?_
  obtain ⟨rfl, rfl⟩ := (Tx.select_ok ..).1 h
  cases hfound : releasable a.requestId a.allowedStatuses t.work with
  | none => exact Tx.raises_pure _
  | some request =>
    obtain ⟨hget, -, hst⟩ := releasable_some hfound
    obtain ⟨hpos, hcov⟩ := hrow request (Table.mem_of_get? hget) hst
    refine raises_finishHold hcov hplain ?_ (by simp)
    refine two_le_normalized (.head _) (.tail _ (.head _)) (by simp) ?_ ?_ <;> simp <;> omega

theorem raises_reconcileRequest {a : DecideArgs}
    (hrow : ∀ r ∈ s.work.requests.rows, r.status.outstanding → 0 < r.reservedMicrousd ∧
      (Covered s.work r ∨ ∀ message, p (.billing message 409)))
    (hplain : ∀ e : Exc, e.isPlain → p e) (hhttp : ∀ e : Exc, p e → p (e.http?.getD e)) :
    Tx.Raises (reconcileRequest a) s p := by
  unfold reconcileRequest
  refine Tx.raises_bind (by simp) fun _ _ h1 => Tx.raises_bind (Tx.raises_orRaise (hplain _ rfl))
    fun record s h2 => ?_
  refine Tx.raises_bind (by simp) fun _ _ h3 => ?_
  obtain ⟨-, rfl⟩ := (Tx.select_ok ..).1 h1
  obtain ⟨-, rfl⟩ := (Tx.orRaise_ok ..).1 h2
  obtain rfl := (Tx.add_ok ..).1 h3
  have hrow' (r : ModelRequest) (hr : r ∈ s.work.requests.rows)
      (hst : r.status ∈ [RequestStatus.pendingReconciliation]) :=
    hrow r hr (by simp [List.mem_singleton.1 hst, RequestStatus.outstanding])
  cases a.decision with
  | release => exact raises_answer (raises_releaseModelRequest hrow' hplain) hhttp
  | settle inputTokens outputTokens upstreamCost =>
    exact Tx.raises_bind (raises_answer (raises_settleModelRequest hrow' hplain) hhttp)
      fun _ _ _ => by simp

end Holds

theorem raises_markPendingReconciliation (a : MarkArgs) (s : Session DB) :
    Tx.Raises (markPendingReconciliation a) s (·.isPlain) := by
  unfold markPendingReconciliation markAdmitted
  refine Tx.raises_bind (by simp) fun found _ _ => ?_
  cases found with
  | none => simp
  | some request => exact Tx.raises_bind (by simp) fun _ _ _ => Tx.raises_commit rfl

theorem raises_recoverStaleModelReservations (leaseSeconds : Int) (now : Time) (s : Session DB) :
    Tx.Raises (recoverStaleModelReservations leaseSeconds now) s (·.isPlain) := by
  unfold recoverStaleModelReservations
  refine Tx.raises_bind (Tx.raises_raiseIf rfl) fun _ _ _ => ?_
  refine Tx.raises_bind (Tx.raises_execute _ rfl) fun _ _ _ => ?_
  exact Tx.raises_bind (Tx.raises_commit rfl) fun _ _ _ => by simp

end Kunlun
