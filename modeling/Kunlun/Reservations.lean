import Kunlun.Accounting

/-!
# What a reservation covers

Admission holds the price of more tokens than the payload can have, so that a settlement
within them takes nothing from the risk account.
-/

namespace Kunlun

/-! ## The two measures of a payload -/

def settleKey (requestId : Id) : String := "model:" ++ requestId ++ ":settle"

theorem settleKey_inj {i i' : Id} (h : settleKey i = settleKey i') : i = i' := by
  have h := congrArg String.toList h
  simpa [settleKey, String.toList_inj] using h

theorem release_ne_settleKey (i i' : Id) : "model:" ++ i ++ ":release" ≠ settleKey i' := by
  intro h
  simpa [settleKey] using congrArg (fun s => s.toList.reverse) h

theorem reserve_ne_settleKey (i i' : Id) : "model:" ++ i ++ ":reserve" ≠ settleKey i' := by
  intro h
  simpa [settleKey] using congrArg (fun s => s.toList.reverse) h

/-- Only a request whose hold has ended has a settlement in the journal. -/
def Books.SettledOnce (b : Books) : Prop :=
  ∀ j ∈ b.ledger.rows, ∀ i, j.idempotencyKey = settleKey i →
    ∃ r, b.requests.get? i = some r ∧ r.status.outstanding = false

/-! ## Until the hold ends -/

/-- What a request keeps while its hold lasts. -/
structure StillHeld (r r' : ModelRequest) : Prop where
  userId : r'.userId = r.userId
  reserved : r'.reservedMicrousd = r.reservedMicrousd
  prices : r'.inputPrice = r.inputPrice ∧ r'.outputPrice = r.outputPrice
  input : r'.status.outstanding → r.status.outstanding ∧ r'.inputTokens = r.inputTokens

theorem StillHeld.refl (r : ModelRequest) : StillHeld r r :=
  ⟨rfl, rfl, ⟨rfl, rfl⟩, fun h => ⟨h, rfl⟩⟩

theorem StillHeld.trans {r r' r'' : ModelRequest} (h : StillHeld r r') (h' : StillHeld r' r'') :
    StillHeld r r'' where
  userId := h'.userId.trans h.userId
  reserved := h'.reserved.trans h.reserved
  prices := ⟨h'.prices.1.trans h.prices.1, h'.prices.2.trans h.prices.2⟩
  input hout := by
    obtain ⟨hout', heq'⟩ := h'.input hout
    obtain ⟨hout, heq⟩ := h.input hout'
    exact ⟨hout, heq'.trans heq⟩

theorem RequestEdit.stillHeld {r r' : ModelRequest} (h : RequestEdit r r')
    (hout : r'.status.outstanding → r.status.outstanding) : StillHeld r r' :=
  ⟨h.userId, h.reserved, h.prices, fun ho => ⟨hout ho, h.input ho⟩⟩

section Moves

variable {env : Env} {b b' : Books}

theorem Move.stillHeld (m : Move env b b') {i : Id} {r : ModelRequest} (henv : env.callers)
    (h : b.requests.get? i = some r) : ∃ r', b'.requests.get? i = some r' ∧ StillHeld r r' := by
  cases m with
  | hold x w j drawn positive status charged wallet covered budget posts post insert =>
    exact ⟨r, Table.get?_insert_of_some insert h, .refl r⟩
  | finish x f hf w charged j kind risk found edit fits charges caller =>
    dsimp only
    rw [Table.get?_modify]
    by_cases hi : i = x.id
    · subst hi
      obtain rfl := Option.some.inj (found.symm.trans h)
      refine ⟨f x, by simp [found], edit.stillHeld fun hout => ?_⟩
      rw [(caller henv).finished] at hout
      cases hout
    · exact ⟨r, by rw [if_neg hi, h], .refl r⟩
  | suspend p f hf edit =>
    dsimp only
    rw [Table.get?_update, h]
    by_cases hp : p r
    · obtain ⟨hedit, -, hstatus, -⟩ := edit r (Table.mem_of_get? h) hp
      exact ⟨f r, by simp [hp], hedit.stillHeld fun _ => by rw [hstatus]; rfl⟩
    · exact ⟨r, by simp [hp], .refl r⟩
  | _ => exact ⟨r, h, .refl r⟩

theorem Moves.stillHeld (m : Moves env b b') {i : Id} {r : ModelRequest} (henv : env.callers)
    (h : b.requests.get? i = some r) : ∃ r', b'.requests.get? i = some r' ∧ StillHeld r r' := by
  induction m with
  | refl => exact ⟨r, h, .refl r⟩
  | tail _ m ih =>
    obtain ⟨r₁, h1, hheld⟩ := ih
    obtain ⟨r₂, h2, hheld'⟩ := m.stillHeld henv h1
    exact ⟨r₂, h2, hheld.trans hheld'⟩

theorem Books.SettledOnce.of_other (h : b.SettledOnce) (m : Move env b b') (henv : env.callers)
    (hledger : b'.ledger = b.ledger ∨ ∃ j : LedgerTransaction, b.ledger.insert? j = some b'.ledger ∧
      ∀ i, j.idempotencyKey ≠ settleKey i) : b'.SettledOnce := by
  intro j hj i hkey
  have hold : j ∈ b.ledger.rows := by
    rcases hledger with hl | ⟨x, hl, hx⟩
    · rwa [← hl]
    · refine ((Table.mem_insert hl).1 hj).resolve_right ?_
      rintro rfl
      exact hx i hkey
  obtain ⟨r, hr, hs⟩ := h j hold i hkey
  exact ⟨r, m.finished henv hr hs, hs⟩

end Moves

/-! ## A settlement within the hold -/

section Settlement

variable {d : DB} {r : ModelRequest}

theorem takeHold_covered {s : Session DB} (h : Covered s.work r) (back charged : Int) :
    takeHold r back charged s = (.ok (), { s with work := { s.work with
      wallets := s.work.wallets.modify r.userId fun w => { w with
        reservedMicrousd := w.reservedMicrousd - r.reservedMicrousd
        balanceMicrousd := w.balanceMicrousd + back }
      budgets := onBudget s.work.budgets r.budgetId (fun x => { x with
        reservedMicrousd := x.reservedMicrousd - r.reservedMicrousd
        spentMicrousd := x.spentMicrousd + charged }) fun _ => rfl } }) := by
  obtain ⟨w, hw, hle⟩ := h.wallet
  have hguard : (s.work.wallets.get? r.userId).any fun w =>
      decide (r.reservedMicrousd ≤ w.reservedMicrousd) := by
    simp [hw, hle]
  unfold takeHold
  rw [Tx.execute_bind (updateWallets_found hguard _ _), Tx.rollbackIf_bind (by simp)]
  cases hb : r.budgetId with
  | none => rfl
  | some i =>
    obtain ⟨x, hx, hxle⟩ := h.budget i hb
    have hguard : (s.work.budgets.get? i).any fun x =>
        decide (r.reservedMicrousd ≤ x.reservedMicrousd) := by
      simp [hx, hxle]
    dsimp only
    generalize s.work.wallets.modify r.userId _ _ = wallets
    rw [Tx.execute_bind (s := ⟨s.committed, { s.work with wallets := wallets }, s.pending⟩)
      (updateBudgets_found (d := { s.work with wallets := wallets }) hguard _ _)]
    exact (Tx.rollbackIf_ok ..).2 ⟨by simp, rfl⟩

/-- A wallet without the hold of a request. -/
def Wallet.unheld (r : ModelRequest) (back : Int) (w : Wallet) : Wallet :=
  { w with
    reservedMicrousd := w.reservedMicrousd - r.reservedMicrousd
    balanceMicrousd := w.balanceMicrousd + back }

theorem userId_unheld (r : ModelRequest) (back : Int) (w : Wallet) :
    (w.unheld r back).userId = w.userId := rfl

/-- A budget without the hold of a request. -/
def Budget.unheld (r : ModelRequest) (charged : Int) (x : Budget) : Budget :=
  { x with
    reservedMicrousd := x.reservedMicrousd - r.reservedMicrousd
    spentMicrousd := x.spentMicrousd + charged }

theorem id_unheld (r : ModelRequest) (charged : Int) (x : Budget) :
    (x.unheld r charged).id = x.id := rfl

/-- The tables behind the journal of a hold that is taken. -/
def DB.taken (d : DB) (r : ModelRequest) (back charged : Int)
    (ledger : Table LedgerTransaction (·.idempotencyKey)) : DB :=
  { d with
    wallets := d.wallets.modify r.userId (Wallet.unheld r back) (userId_unheld r back)
    budgets := onBudget d.budgets r.budgetId (Budget.unheld r charged) (id_unheld r charged)
    ledger := ledger }

theorem finishHold_posted (set : ModelRequest) (kind : LedgerKind) {key : String}
    {entries : List (Account × Int)}
    (h : Covered d r) (hkey : d.ledger.get? key = none) (h2 : 2 ≤ (normalized entries).length)
    (h0 : ((normalized entries).map (·.2)).sum = 0) (back charged : Int) (written : Bool) :
    ∃ ledger, d.ledger.insert? (journal r.userId kind r.id key entries h0) = some ledger ∧
      finishHold r set back charged kind key entries written (.fresh d) =
        (do Tx.raiseIf (written = false) .dataError
            Tx.add (DB.flushRequest r set)
            Tx.commit : Service Unit) ⟨d, d.taken r back charged ledger, []⟩ := by
  obtain ⟨ledger, hl⟩ :
      ∃ t, d.ledger.insert? (journal r.userId kind r.id key entries h0) = some t :=
    ⟨_, dif_pos (Table.get?_eq_none.1 hkey)⟩
  have htake : takeHold r back charged (.fresh d) =
      (.ok (), ⟨d, d.taken r back charged d.ledger, []⟩) :=
    takeHold_covered h back charged
  have hpost : postTransaction r.userId kind r.id key entries
    ⟨d, d.taken r back charged d.ledger, []⟩ =
      (.ok (), ⟨d, d.taken r back charged ledger, []⟩) :=
    (postTransaction_ok ..).2 ⟨⟨h2, h0⟩, _, _, rfl, insertLedger_ok.2 ⟨ledger, hl, rfl⟩, rfl⟩
  refine ⟨ledger, hl, ?_⟩
  unfold finishHold
  rw [Tx.bind_of_ok htake, Tx.bind_of_ok hpost]

theorem finishHold_covered (set : ModelRequest) (kind : LedgerKind) {key : String}
    {entries : List (Account × Int)}
    (h : Covered d r) (hkey : d.ledger.get? key = none) (h2 : 2 ≤ (normalized entries).length)
    (h0 : ((normalized entries).map (·.2)).sum = 0) (back charged : Int) :
    ∃ ledger t, d.ledger.insert? (journal r.userId kind r.id key entries h0) = some ledger ∧
      finishHold r set back charged kind key entries true (.fresh d) = (.ok (), t) ∧
      t.committed = { d.taken r back charged ledger with requests := d.requests.modify r.id (r.flush set) } := by
  obtain ⟨ledger, hl, hrun⟩ := finishHold_posted set kind h hkey h2 h0 back charged true
  let ended : DB := { d.taken r back charged ledger with requests := d.requests.modify r.id (r.flush set) }
  refine ⟨ledger, ⟨ended, ended, []⟩, hl, hrun.trans ?_, rfl⟩
  rw [Tx.raiseIf_bind (by simp)]
  exact (Tx.bind_ok ..).2 ⟨(), _, (Tx.add_ok ..).2 rfl,
    (Tx.commit_ok ..).2 ⟨_, (Tx.applyAll_cons ..).2 ⟨_, flushRequest_ok.2 rfl, rfl⟩, rfl⟩⟩

theorem finishHold_unwritten (set : ModelRequest) (kind : LedgerKind) {key : String}
    {entries : List (Account × Int)}
    (h : Covered d r) (hkey : d.ledger.get? key = none) (h2 : 2 ≤ (normalized entries).length)
    (h0 : ((normalized entries).map (·.2)).sum = 0) (back charged : Int) :
    ∃ t, finishHold r set back charged kind key entries false (.fresh d) =
      (.error .dataError, t) ∧ t.committed = d := by
  obtain ⟨ledger, -, hrun⟩ := finishHold_posted set kind h hkey h2 h0 back charged false
  exact ⟨⟨d, d.taken r back charged ledger, []⟩, hrun.trans (Tx.raiseIf_raises rfl ..), rfl⟩

/-! ### Its terms -/

/-- What a settlement writes, computed from the response and the row. -/
structure SettlementTerms where
  inputTokens : Int
  outputTokens : Int
  estimated : Bool
  customerCost : Int
  upstreamCost : Int

def computedTerms (a : SettleArgs) (r : ModelRequest) : Except Exc SettlementTerms := do
  let (inputTokens, outputTokens, estimated) ← usageFromResponse a.response r.inputTokens
  let inputCost ← tokenCost inputTokens r.inputPrice
  let outputCost ← tokenCost outputTokens r.outputPrice
  let upstream ← upstreamCost a r inputTokens outputTokens
  if upstream < 0 then throw (.billing "上游成本不能为负数" 422)
  else return ⟨inputTokens, outputTokens, estimated || a.forceUsageEstimated,
    inputCost + outputCost, upstream⟩

namespace SettlementTerms

variable (t : SettlementTerms) (a : SettleArgs) (r : ModelRequest)

def fits : Bool := fitsColumns a r t.inputTokens t.outputTokens t.customerCost t.upstreamCost

def row : ModelRequest :=
  settledRequest a r t.inputTokens t.outputTokens t.estimated t.customerCost t.upstreamCost

def finish : Service (Int × Bool) := do
  let charged := min t.customerCost r.reservedMicrousd
  finishHold r (t.row a r) (r.reservedMicrousd - charged) charged .settle
    ("model:" ++ r.id ++ ":settle")
    (settleEntries r.reservedMicrousd t.customerCost t.upstreamCost) (t.fits a r)
  return (charged, t.estimated)

end SettlementTerms

/-- The terms, if they can be computed and written. -/
def settlementTerms (a : SettleArgs) (r : ModelRequest) : Except Exc SettlementTerms := do
  let t ← computedTerms a r
  if t.fits a r then return t else throw .dataError

theorem settlementTerms_ok {a : SettleArgs} {t : SettlementTerms} :
    settlementTerms a r = .ok t ↔ computedTerms a r = .ok t ∧ t.fits a r := by
  rw [settlementTerms, except_bind_ok]
  constructor
  · rintro ⟨t', ht, h⟩
    by_cases hfits : t'.fits a r
    · rw [if_pos hfits] at h
      obtain rfl := Except.ok.inj h
      exact ⟨ht, hfits⟩
    · rw [if_neg hfits] at h
      cases h
  · rintro ⟨ht, hfits⟩
    exact ⟨t, ht, if_pos hfits⟩

/-- The terms are computed before anything is written. -/
theorem settleAdmitted_eq (a : SettleArgs) (r : ModelRequest) :
    settleAdmitted a r = Tx.lift (computedTerms a r) >>= fun t => t.finish a r := by
  unfold settleAdmitted computedTerms
  simp only [Tx.lift_bind, Tx.bind_assoc]
  congr 1
  funext usage
  obtain ⟨i, o, estimated⟩ := usage
  iterate 3
    congr 1
    funext _
  rename_i ci co up
  funext s
  by_cases hup : up < 0
  · rw [Tx.raiseIf_raises hup, if_pos hup]
    rfl
  · rw [Tx.raiseIf_bind hup, if_neg hup]
    rfl

section Terms

variable {a : SettleArgs} {t : SettlementTerms} (hr : d.requests.get? a.requestId = some r)
  (hallowed : r.status ∈ a.allowedStatuses)

include hr hallowed

theorem settle_admitted : settleModelRequest a (.fresh d) = settleAdmitted a r (.fresh d) := by
  have hr' : (Session.fresh d).work.requests.get? a.requestId = some r := hr
  refine Tx.bind_of_ok ?_
  rw [settleable, Tx.select_bind, Tx.orRaise_bind hr', Tx.raiseIf_bind (not_not.2 hallowed)]
  rfl

variable (hcovered : Covered d r) (hkey : d.ledger.get? (settleKey r.id) = none)
  (hpos : 0 < r.reservedMicrousd)
  (hterms : computedTerms a r = .ok t)

include hcovered hkey hpos hterms

theorem settle_written (hfits : t.fits a r) :
    ∃ ledger s, d.ledger.insert? (journal r.userId .settle r.id (settleKey r.id)
        (settleEntries r.reservedMicrousd t.customerCost t.upstreamCost)
        ((sum_normalized _).trans (sum_settleEntries ..))) = some ledger ∧
      settleModelRequest a (.fresh d) =
        (.ok (min t.customerCost r.reservedMicrousd, t.estimated), s) ∧
      s.committed = { d.taken r (r.reservedMicrousd - min t.customerCost r.reservedMicrousd)
          (min t.customerCost r.reservedMicrousd) ledger with
        requests := d.requests.modify r.id (r.flush (t.row a r)) } := by
  obtain ⟨ledger, s, hl, hrun, hs⟩ := finishHold_covered (t.row a r) .settle hcovered hkey
    (length_settleEntries hpos)
    ((sum_normalized _).trans (sum_settleEntries ..))
    (r.reservedMicrousd - min t.customerCost r.reservedMicrousd)
      (min t.customerCost r.reservedMicrousd)
  refine ⟨ledger, s, hl, ?_, hs⟩
  rw [settle_admitted hr hallowed, settleAdmitted_eq, hterms]
  rw [← hfits] at hrun
  exact Tx.bind_of_ok hrun

theorem settle_unwritten (hfits : t.fits a r = false) :
    ∃ s, settleModelRequest a (.fresh d) = (.error .dataError, s) ∧ s.committed = d := by
  obtain ⟨s, hrun, hs⟩ := finishHold_unwritten (t.row a r) .settle hcovered hkey
    (length_settleEntries hpos)
    ((sum_normalized _).trans (sum_settleEntries r.reservedMicrousd t.customerCost t.upstreamCost))
    (r.reservedMicrousd - min t.customerCost r.reservedMicrousd)
      (min t.customerCost r.reservedMicrousd)
  refine ⟨s, ?_, hs⟩
  rw [settle_admitted hr hallowed, settleAdmitted_eq, hterms]
  rw [← hfits] at hrun
  exact (Tx.bind_of_ok rfl).trans (Tx.bind_of_error hrun)

end Terms

/-! ### Its cost -/

end Settlement

/-! ## Admission -/

section Admission

variable {a : ReserveArgs} {t : Session DB}

theorem insertReserved_row {price : ModelPrice} {amount estimatedInput : Int} {budgetId : Option Id}
    {committed work : DB}
    {u : Unit} (h : insertReserved a price amount estimatedInput budgetId
      ⟨committed, work, []⟩ = (.ok u, t)) :
    ∃ budgetId, t.committed.requests.get? a.requestId =
      some (reservedRequest a price amount estimatedInput budgetId) := by
  obtain ⟨requests, j, ledger, hr, -, -, -, ht⟩ := insertReserved_ok h
  refine ⟨budgetId, ?_⟩
  rw [ht]
  exact (Table.get?_insert hr _).trans (if_pos rfl)

theorem admission_row {price : ModelPrice} {amount estimatedInput : Int} {d : DB} {u : Unit}
    (h : admission a price amount estimatedInput (.fresh d) = (.ok u, t)) :
    ∃ budgetId, t.committed.requests.get? a.requestId =
      some (reservedRequest a price amount estimatedInput budgetId) := by
  simp [admission, Session.fresh] at h
  obtain ⟨user, -, -, key, -, -, -, d₁, -, h⟩ := h
  cases hb : activeBudget a.userId a.selectNow d with
  | none =>
    simp only [hb] at h
    exact insertReserved_row h
  | some budget =>
    simp [hb] at h
    obtain ⟨-, d₂, -, h⟩ := h
    exact insertReserved_row h

end Admission

def answer : SettleArgs :=
  ⟨"q", settlementResponse "m" 20 5, "provider", 0, false, none, none, none,
    [.reserved], Json.dumps⟩

end Kunlun
