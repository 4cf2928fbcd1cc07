import Kunlun.Gateway

/-!
# What the books say after any run
-/

namespace Kunlun

/-! ## Sums over rows -/

/-- The entries of the journals that refer to something, on an account. -/
def referenceSum (ledger : Table LedgerTransaction LedgerTransaction.idempotencyKey)
    (reference : String)
    (a : Account) : Int :=
  (((ledger.rows.filter fun j => j.reference = reference).flatMap LedgerTransaction.entries).filter
    fun e => e.account = a).map LedgerEntry.amountMicrousd |>.sum

theorem sum_entries (t : LedgerTransaction) (a : Account) :
    ((t.entries.filter fun e => e.account = a).map LedgerEntry.amountMicrousd).sum = t.total a := by
  rw [LedgerTransaction.total]
  induction t.entries with
  | nil => rfl
  | cons e entries ih =>
    rw [List.filter_cons, List.map_cons, List.sum_cons, ← ih]
    by_cases h : e.account = a <;> simp [h]

theorem referenceSum_eq (ledger : Table LedgerTransaction LedgerTransaction.idempotencyKey)
    (reference : String)
    (a : Account) :
    referenceSum ledger reference a = ledger.sum fun t =>
      if t.reference = reference then t.total a else 0 := by
  rw [referenceSum, Table.sum]
  induction ledger.rows with
  | nil => rfl
  | cons t rows ih =>
    rw [List.filter_cons, List.map_cons, List.sum_cons, ← ih]
    by_cases h : t.reference = reference <;> simp [h, sum_entries]

/-- What the outstanding requests among some hold. -/
def outstandingSum (requests : Table ModelRequest ModelRequest.id)
    (p : ModelRequest → Bool) : Int :=
  ((requests.rows.filter fun r => p r && r.status.outstanding).map
    ModelRequest.reservedMicrousd).sum

theorem outstandingSum_eq (requests : Table ModelRequest ModelRequest.id)
    (p : ModelRequest → Bool) :
    outstandingSum requests p = requests.sum fun r => if p r && r.status.outstanding then
    r.reservedMicrousd else 0 :=
  requests.sum_filter _ _

/-! ## Wallets -/

/-- Wallets say what the journal says, journals balance, and none is refused. -/
theorem wallets_agree_after {d : DB} (h : d.Opened) (ops : List Op) :
    (∀ j ∈ (Run.after exec d ops).ledger.rows, (j.entries.map LedgerEntry.amountMicrousd).sum = 0 ∧
      ∀ x ∈ j.entries, x.amountMicrousd ≠ 0 ∧ x.userId = j.userId) ∧
    (∀ u ∈ (Run.after exec d ops).users.rows, ∃ w,
      (Run.after exec d ops).wallets.get? u.id = some w) ∧
    (∀ w ∈ (Run.after exec d ops).wallets.rows,
      w.balanceMicrousd = entrySum (Run.after exec d ops).ledger w.userId .customerAvailable ∧
      w.reservedMicrousd = entrySum (Run.after exec d ops).ledger w.userId .customerReserved ∧
      0 ≤ w.balanceMicrousd ∧ 0 ≤ w.reservedMicrousd) ∧
    ∀ op, raised op (Run.after exec d ops) ≠ some unbalanced := by
  have hs := sound_after h ops
  generalize Run.after exec d ops = e at hs
  refine ⟨fun j _ => ⟨j.balanced, fun x hx => ⟨j.nonzero x hx, j.owned x hx⟩⟩, fun u hu =>
    ?_, fun w hw => ?_,
    fun op hop => ?_⟩
  · exact Option.isSome_iff_exists.1 (hs.walletOf u.id (List.mem_map_of_mem hu))
  · rw [entrySum_eq, entrySum_eq]
    exact ⟨hs.agree.balance w hw, hs.agree.reserved w hw, hs.agree.balance_nonneg w hw,
      hs.agree.reserved_nonneg w hw⟩
  · refine raised_of (p := (· ≠ unbalanced)) ⟨fun e he hu => ?_, fun e he => ?_, hs.positive,
      .inl fun _ => ?_⟩ hop rfl
    · rw [hu] at he
      exact absurd he (by decide)
    · cases e <;> simp_all [Exc.http?, unbalanced]
    · simp [unbalanced]

/-- A user who tops up the test account. -/
def topUp : List Op := [
  .registerIdentity ⟨"u", "u@example.com", "", .active, none⟩,
  .createTestOrder ⟨"u", 500, "o"⟩,
  .processTestWebhook ⟨true, .event ⟨"e", "o", "topup.succeeded", some 500⟩, "digest", "w", "x"⟩]

theorem wallets_agree_after_topUp :
    (500 : Int) = entrySum (Run.after exec DB.empty topUp).ledger "u" .customerAvailable :=
  ((wallets_agree_after opened_empty topUp).2.2.1 ⟨"u", 500, 0⟩ (by decide)).1

/-! ## Holds -/

/-- Wallets and budgets reserve what the outstanding requests hold, and the end of a hold
always finds it there. -/
theorem holds_agree_after {d : DB} (h : d.Opened) {ops : List Op} (hops : ∀ op ∈ ops, op.ByCaller) :
    (∀ w ∈ (Run.after exec d ops).wallets.rows, w.reservedMicrousd =
      outstandingSum (Run.after exec d ops).requests fun r => r.userId = w.userId) ∧
    (∀ b ∈ (Run.after exec d ops).budgets.rows, b.reservedMicrousd =
        outstandingSum (Run.after exec d ops).requests (fun r => r.budgetId = some b.id) ∧
      b.spentMicrousd + b.reservedMicrousd ≤ b.limitMicrousd) ∧
    (∀ r ∈ (Run.after exec d ops).requests.rows, r.status.outstanding = false →
      r.chargedMicrousd ≤ r.reservedMicrousd ∧ (r.status.released → r.chargedMicrousd = 0)) ∧
    ∀ op, op.ByCaller → ∀ e ∈ raised op (Run.after exec d ops), e.isAnomaly = false := by
  have hs := sound_after h ops
  have hh := holds_after h hops
  generalize Run.after exec d ops = e at hs hh
  refine ⟨fun w hw => ?_, fun b hb => ⟨?_, hh.within b hb⟩, fun r hr _ => ?_, fun op hop x hx => ?_⟩
  · rw [outstandingSum_eq, hh.wallet w hw]
    simp only [Bool.and_eq_true, decide_eq_true_eq]
    rfl
  · rw [outstandingSum_eq, hh.budget b hb]
    simp only [Bool.and_eq_true, decide_eq_true_eq]
    rfl
  · exact ⟨(hh.charged r hr).within, (hh.charged r hr).released⟩
  · have hplain : x.isPlain := raised_of ⟨fun _ he => he, fun _ => isPlain_http, hs.positive,
      .inr ⟨hop, fun r hr hst => hh.covered hs hr hst⟩⟩ hx
    simp only [Exc.isPlain, decide_eq_true_eq] at hplain
    exact hplain.2

/-- A user with a key, and a model with a price. -/
def shop : DB := { DB.empty with
  users := ⟨[⟨"u", "u@example.com", "", .active, some 0⟩], by decide⟩
  wallets := ⟨[⟨"u", 0, 0⟩], by decide⟩
  apiKeys := ⟨[⟨"k", "u", "key", "", "", .active⟩], by decide⟩
  prices := ⟨[⟨"p", "m", 1, 1000000, 2000000, 100, true⟩], by decide⟩ }

theorem opened_shop : shop.Opened := by
  constructor <;> simp [shop, DB.empty, Table.empty, Table.get?]

/-- A top-up, a budget, and a request that holds what its longest answer would cost. -/
def chat : List Op := [
  .createTestOrder ⟨"u", 100000, "o"⟩,
  .processTestWebhook ⟨true, .event ⟨"e", "o", "topup.succeeded", some 100000⟩, "digest", "w", "x"⟩,
  .createBudget "u" 50000 "b" 0 0,
  .reserveModelRequest ⟨"u", "k", "m", .null, 10, none, "r", 0, 0, 0⟩]

theorem holds_agree_after_chat :
    (4120 : Int) = outstandingSum (Run.after exec shop chat).requests fun r => r.userId = "u" :=
  (holds_agree_after opened_shop (show ∀ op ∈ chat, op.ByCaller by simp [chat, Op.ByCaller])).1
    ⟨"u", 95880, 4120⟩ (by decide +kernel)

/-! ## Orders -/

/-- What an order, its refund and the journal say of each other. -/
structure OrderAgrees (d : DB) (o : PaymentOrder) : Prop where
  clearing : referenceSum d.ledger o.id .platformClearing =
    if o.status = .paid ∨ o.status = .refunding then -o.creditAmountMicrousd else 0
  creditedOnce : (d.ledger.rows.filter fun j => j.reference = o.id ∧
    0 < j.total .customerAvailable).length ≤ 1
  oneRefund : (d.refunds.rows.filter fun r => r.orderId = o.id).length ≤ 1
  hasRefund : (∃ r ∈ d.refunds.rows, r.orderId = o.id) ↔ o.status = .refunding ∨
    o.status = .refunded
  refunding : ∀ r ∈ d.refunds.rows, r.orderId = o.id →
    (o.status = .refunding ↔ r.status = .requesting ∨ r.status = .retrying ∨
      r.status = .pendingReconciliation)
  refunded : ∀ r ∈ d.refunds.rows, r.orderId = o.id →
    (o.status = .refunded ↔ r.status = .refunded ∨ r.status = .risk ∨ r.status = .resolved)
  atRisk : referenceSum d.ledger o.id .platformRisk < 0 ↔ ∃ r ∈ d.refunds.rows,
    r.orderId = o.id ∧ r.status = .risk
  riskFree : (¬ ∃ r ∈ d.refunds.rows, r.orderId = o.id ∧ r.status = .risk) →
    referenceSum d.ledger o.id .platformRisk = 0

theorem orderAgrees {d : DB} (h : d.books.OrdersAgree) {o : PaymentOrder} (ho : o ∈ d.orders.rows) :
    OrderAgrees d o := by
  have hmatched (r : PaymentRefund) (hr : r ∈ d.refunds.rows) (hid : r.orderId = o.id) :
      Matched o.status r.status := by
    obtain ⟨o', ho', hm⟩ := h.matched r hr
    rw [hid] at ho'
    obtain rfl := Option.some.inj ((Table.get?_of_mem ho).symm.trans ho')
    exact hm
  have hfree (hno : ¬ ∃ r ∈ d.refunds.rows, r.orderId = o.id ∧ r.status = .risk) :
      referenceSum d.ledger o.id .platformRisk = 0 := by
    rw [referenceSum_eq]
    exact h.riskFree o ho fun r hr hid hs => hno ⟨r, hr, hid, hs⟩
  refine ⟨?_, ?_, ?_, ⟨?_, h.hasRefund o ho⟩, fun r hr hid => ?_, fun r hr hid => ?_,
    ⟨fun hlt => ?_, ?_⟩, hfree⟩
  · rw [referenceSum_eq]
    exact (h.clearing o ho).symm
  · have hc := h.credits o ho
    rw [← List.countP_eq_length_filter]
    have hcount := d.ledger.count_eq_sum fun j =>
      decide (j.reference = o.id ∧ 0 < j.total .customerAvailable)
    simp only [decide_eq_true_eq] at hcount
    have hle : (d.ledger.count fun j =>
      decide (j.reference = o.id ∧ 0 < j.total .customerAvailable)) ≤ (1 : Int) := by
      rw [hcount]
      refine hc.symm.le.trans ?_
      unfold PaymentOrder.credits
      split <;> simp
    exact_mod_cast hle
  · have hle := List.nodup_iff_count_le_one.1 h.single o.id
    rw [List.count, List.countP_map, List.countP_eq_length_filter] at hle
    have heq : (fun r : PaymentRefund => decide (r.orderId = o.id)) = (· == o.id) ∘
        PaymentRefund.orderId := by
      funext r
      simp [beq_eq_decide]
    rw [heq]
    exact hle
  · rintro ⟨r, hr, hid⟩
    rcases hmatched r hr hid with ⟨hs, -⟩ | ⟨hs, -⟩
    · exact .inl hs
    · exact .inr hs
  · have hm := hmatched r hr hid
    cases hr : r.status <;> simp_all [Matched, RefundStatus.isActive]
  · have hm := hmatched r hr hid
    cases hr : r.status <;> simp_all [Matched, RefundStatus.isActive]
  · by_contra hno
    exact hlt.ne (hfree hno)
  · rintro ⟨r, hr, hid, hs⟩
    rw [referenceSum_eq, ← hid]
    exact h.atRisk r hr hs

theorem orders_agree_apart {d : DB} (h : d.Opened) {ops : List Op}
    (hops : Run.Along exec (Op.In .apartRun) d ops) :
    ∀ o ∈ (Run.after exec d ops).orders.rows, OrderAgrees (Run.after exec d ops) o ∧
      ∀ op, ∃ o', (exec op (Run.after exec d ops)).orders.get? o.id = some o' ∧
        o.status.Leads o'.status := by
  intro o ho
  refine ⟨orderAgrees (ordersAgree_after h hops) ho, fun op => ?_⟩
  have m : Moves .any (Run.after exec d ops).books (exec op (Run.after exec d ops)).books :=
    exec_moves (fun _ => trivial) ⟨nofun, fun _ _ => trivial, fun _ _ => trivial⟩
  obtain ⟨o', ho', hp⟩ := Moves.order m (Table.get?_of_mem ho)
  exact ⟨o', ho', hp.leads⟩

/-- An order whose credit is held for a request when the provider refunds it. -/
def spentRefund : List Op := [
  .createOrder ⟨"u", "provider", 100, "CNY", true, 5000, "q", 50, 1, "key", some 3, "o"⟩,
  .applyWebhook ⟨"provider", "paid", some "nonce", "digest", "o", "payment.succeeded", "paid", 100,
    "CNY", "transaction", none, 0, "w", "", "x", 0⟩,
  .reserveModelRequest ⟨"u", "k", "m", .null, 10, none, "q", 0, 0, 0⟩,
  .applyWebhook ⟨"provider", "refunded", some "other", "digest", "o", "payment.refunded",
    "refunded", 100, "CNY", "transaction", some "refund", 0, "w'", "r", "x'", 0⟩]

/-- Payments alone are apart, and so are the ids of the refund and of the request. -/
theorem orders_agree_apart_spent :
    OrderAgrees (Run.after exec DB.empty topUp) ⟨"o", "u", "test_hmac", 500, none, none,
      1, 1, none, none, .paid, some "e", none, none, none, none, by decide⟩ ∧
    referenceSum (Run.after exec shop spentRefund).ledger "o" .platformRisk < 0 := by
  have hspent : Run.Along exec (Op.In .apartRun) shop spentRefund := by
    refine ⟨⟨fun _ => trivial, fun i hi => ?_, nofun⟩, ⟨fun _ => trivial, nofun, nofun⟩,
      ⟨fun _ => trivial, nofun, fun i hi => ?_⟩, ⟨fun _ => trivial, nofun, nofun⟩, trivial⟩
    all_goals
      obtain rfl := Option.some.inj hi
      show Table.get? _ _ = none
      decide +kernel
  have horder : ((Run.after exec shop spentRefund).orders.get? "o").isSome := by decide +kernel
  obtain ⟨o, ho⟩ := Option.isSome_iff_exists.1 horder
  have hrisk : (Run.after exec shop spentRefund).refunds.rows.any fun r =>
      r.orderId = "o" ∧ r.status = .risk := by
    decide +kernel
  refine ⟨(orders_agree_apart opened_empty
    (payments_apart rfl (show ∀ op ∈ topUp, op.onPayments by decide)) _
    (by decide)).1, ?_⟩
  obtain ⟨r, hr, hstatus⟩ := List.any_eq_true.1 hrisk
  rw [← Table.key_of_get? ho] at hstatus ⊢
  exact (orders_agree_apart opened_shop hspent o (Table.mem_of_get? ho)).1.atRisk.2
    ⟨r, hr, of_decide_eq_true hstatus⟩

end Kunlun
