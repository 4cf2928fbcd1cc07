import Kunlun.Wallets

/-!
# Holds agree with requests

What wallets and budgets reserve is what the outstanding requests hold.
-/

namespace Kunlun

/-- What a request holds of a user's wallet. -/
def heldFor (userId : Id) (r : ModelRequest) : Int :=
  if r.userId = userId ∧ r.status.outstanding then r.reservedMicrousd else 0

/-- What a request holds of a budget. -/
def heldUnder (budgetId : Id) (r : ModelRequest) : Int :=
  if r.budgetId = some budgetId ∧ r.status.outstanding then r.reservedMicrousd else 0

def RequestStatus.released : RequestStatus → Bool
  | .failed | .reconciledReleased => true
  | _ => false

/-- What a request says of its charge. -/
structure ModelRequest.Charged (r : ModelRequest) : Prop where
  nonneg : 0 ≤ r.chargedMicrousd
  within : r.chargedMicrousd ≤ r.reservedMicrousd
  outstanding : r.status.outstanding → r.chargedMicrousd = 0
  released : r.status.released → r.chargedMicrousd = 0

structure Books.Holds (b : Books) : Prop where
  wallet : Tallies b.wallets Wallet.reservedMicrousd b.requests heldFor
  budget : Tallies b.budgets Budget.reservedMicrousd b.requests heldUnder
  within : ∀ x ∈ b.budgets.rows, x.spentMicrousd + x.reservedMicrousd ≤ x.limitMicrousd
  charged : ∀ r ∈ b.requests.rows, r.Charged
  walletOf : ∀ r ∈ b.requests.rows, (b.wallets.get? r.userId).isSome
  budgetOf : ∀ r ∈ b.requests.rows, ∀ i ∈ r.budgetId, (b.budgets.get? i).isSome

theorem isSome_get?_onBudget (budgets : Table Budget Budget.id) (budgetId : Option Id)
    (f : Budget → Budget)
    (hf : ∀ b, (f b).id = b.id) (i : Id) : ((onBudget budgets budgetId f hf).get? i).isSome =
      (budgets.get? i).isSome := by
  cases budgetId <;> simp [onBudget]

section
variable {budgets : Table Budget Budget.id}
  {requests requests' : Table ModelRequest ModelRequest.id}

theorem forall_onBudget {budgetId : Option Id} {f : Budget → Budget} {hf : ∀ b, (f b).id = b.id}
    {P : Budget → Prop} (h : ∀ x ∈ budgets.rows, P x)
    (hP : ∀ i ∈ budgetId, ∃ x, budgets.get? i = some x ∧ P (f x)) :
    ∀ x ∈ (onBudget budgets budgetId f hf).rows, P x := by
  cases budgetId with
  | none => exact h
  | some i =>
    obtain ⟨x, hx, hPx⟩ := hP i rfl
    exact Table.forall_modify hx h hPx

theorem budget_hold (h : Tallies budgets Budget.reservedMicrousd requests heldUnder)
    {r : ModelRequest}
    (hr : requests.insert? r = some requests') (hstatus : r.status.outstanding)
    (hbudget : ∀ i ∈ r.budgetId, (budgets.get? i).isSome) :
    Tallies (onBudget budgets r.budgetId
      (fun x => { x with reservedMicrousd := x.reservedMicrousd + r.reservedMicrousd }) fun _ =>
        rfl)
      Budget.reservedMicrousd requests' heldUnder := by
  cases hb : r.budgetId with
  | none => exact h.insert_weightless hr (by simp [heldUnder, hb])
  | some i =>
    obtain ⟨x, hx⟩ := Option.isSome_iff_exists.1 (hbudget i hb)
    apply h.insert_item hx hr
    · simp [heldUnder, hb, hstatus]
    · intro k hk
      simp [heldUnder, hb, Ne.symm hk]

theorem open_budget {budgets' : Table Budget Budget.id} {x : Budget}
    (h : Tallies budgets Budget.reservedMicrousd requests heldUnder)
    (hof : ∀ r ∈ requests.rows, ∀ i ∈ r.budgetId, (budgets.get? i).isSome)
    (hx : budgets.insert? x = some budgets')
    (hreserved : x.reservedMicrousd = 0) : Tallies budgets' Budget.reservedMicrousd
      requests heldUnder ∧
      ∀ r ∈ requests.rows, ∀ i ∈ r.budgetId, (budgets'.get? i).isSome := by
  refine ⟨h.open_account hx hreserved fun r hr => ?_, fun r hr i hi => ?_⟩
  · have hne : r.budgetId ≠ some x.id := by
      intro hi
      have := hof r hr x.id hi
      rw [(Table.insert?_eq_some.1 hx).1] at this
      simp at this
    simp [heldUnder, hne]
  · rw [Table.get?_insert hx]
    split <;> simp [hof r hr i hi]

theorem budget_finish (h : Tallies budgets Budget.reservedMicrousd requests heldUnder)
    {r : ModelRequest}
    {f : ModelRequest → ModelRequest} (hf : ∀ x, (f x).id = x.id) {charged : Int}
    (hr : requests.get? r.id = some r) (hstatus : r.status.outstanding) (edit : RequestEdit r (f r))
    (hfinished : (f r).status.outstanding = false)
    (hbudget : ∀ i ∈ r.budgetId, (budgets.get? i).isSome) :
    Tallies (onBudget budgets r.budgetId (fun x => { x with
        reservedMicrousd := x.reservedMicrousd - r.reservedMicrousd
        spentMicrousd := x.spentMicrousd + charged }) fun _ => rfl)
      Budget.reservedMicrousd (requests.modify r.id f hf) heldUnder := by
  cases hb : r.budgetId with
  | none => exact h.modify_weightless hr (by simp [heldUnder, hb, edit.budgetId])
  | some i =>
    obtain ⟨x, hx⟩ := Option.isSome_iff_exists.1 (hbudget i hb)
    apply h.modify_item hx hr
    · simp [heldUnder, hb, hstatus, hfinished]
    · intro k hk
      simp [heldUnder, hb, edit.budgetId, Ne.symm hk]

end

theorem heldFor_edit {r r' : ModelRequest} (edit : RequestEdit r r')
    (h : r'.status.outstanding = r.status.outstanding) (u : Id) : heldFor u r' = heldFor u r := by
  simp [heldFor, edit.userId, edit.reserved, h]

theorem heldUnder_edit {r r' : ModelRequest} (edit : RequestEdit r r')
    (h : r'.status.outstanding = r.status.outstanding) (i : Id) :
    heldUnder i r' = heldUnder i r := by
  simp [heldUnder, edit.budgetId, edit.reserved, h]

theorem Move.holds {env : Env} {b b' : Books} (m : Move env b b')
    (henv : env.callers) (hs : b.Sound)
    (h : b.Holds) : b'.Holds := by
  obtain ⟨hwallet, hbudget, hwithin, hcharged, hwalletOf, hbudgetOf⟩ := h
  cases m with
  | register userId insert =>
    refine ⟨hwallet.open_account insert rfl ?_, hbudget, hwithin, hcharged, ?_, hbudgetOf⟩
    · intro r hr
      have hne : r.userId ≠ userId := by
        rintro rfl
        have := hwalletOf r hr
        rw [(Table.insert?_eq_some.1 insert).1] at this
        simp at this
      simp [heldFor, hne]
    · intro r hr
      rw [Table.get?_insert insert]
      split <;> simp [hwalletOf r hr]
  | hold r w j _ positive status charged wallet _ budget _ _ insert =>
    have hout : r.status.outstanding := by simp [status, RequestStatus.outstanding]
    have hbudgetSome : ∀ i ∈ r.budgetId, (b.budgets.get? i).isSome := by
      intro i hi
      obtain ⟨x, hx, -⟩ := budget i hi
      simp [hx]
    constructor
    · apply hwallet.insert_item wallet insert
      · simp [heldFor, hout]
      · intro u hu
        simp [heldFor, Ne.symm hu]
    · exact budget_hold hbudget insert hout hbudgetSome
    · apply forall_onBudget hwithin
      intro i hi
      obtain ⟨x, hx, -, -, hfits⟩ := budget i hi
      exact ⟨x, hx, by simp; omega⟩
    · apply Table.forall_insert insert hcharged
      exact ⟨by omega, by omega, fun _ => charged, fun _ => charged⟩
    · exact Table.forall_insert insert (by simpa using hwalletOf) (by simp [wallet])
    · exact Table.forall_insert insert (by simpa [isSome_get?_onBudget] using hbudgetOf)
        (by simpa [isSome_get?_onBudget] using hbudgetSome)
  | finish r f hf w charged j kind risk found edit fits charges caller wallet _ budget _ _ =>
    obtain ⟨hout, hfin, -, hrel⟩ := caller henv
    have hr := Table.mem_of_get? found
    have hc0 := (hcharged r hr).outstanding hout
    have hcharge : (f r).chargedMicrousd = charged := by omega
    have hbudgetSome := hbudgetOf r hr
    have hfits := fits (hs.positive r hr)
    constructor
    · apply hwallet.modify_item wallet found
      · simp [heldFor, hout, hfin]
      · intro u hu
        simp [heldFor, edit.userId, Ne.symm hu]
    · exact budget_finish hbudget hf found hout edit hfin hbudgetSome
    · apply forall_onBudget hwithin
      intro i hi
      obtain ⟨x, hx, -⟩ := budget i hi
      have := hwithin x (Table.mem_of_get? hx)
      exact ⟨x, hx, by simp; omega⟩
    · apply Table.forall_modify found hcharged
      refine ⟨by omega, by rw [edit.reserved]; omega, fun h => by simp [hfin] at h, fun h => ?_⟩
      rw [hcharge]
      apply hrel
      cases hst : (f r).status <;> simp_all [RequestStatus.released]
    · exact Table.forall_modify found (by simpa using hwalletOf)
        (by simpa [edit.userId] using hwalletOf r hr)
    · exact Table.forall_modify found (by simpa [isSome_get?_onBudget] using hbudgetOf)
        (by simpa [isSome_get?_onBudget, edit.budgetId] using hbudgetSome)
  | suspend p f hf edit =>
    have hout : ∀ r ∈ b.requests.rows, p r → (f r).status.outstanding = r.status.outstanding := by
      intro r hr hp
      obtain ⟨-, -, h1, h2⟩ := edit r hr hp
      simp [h1, h2, RequestStatus.outstanding]
    constructor
    · exact hwallet.update_items fun r hr hp => heldFor_edit (edit r hr hp).1 (hout r hr hp)
    · exact hbudget.update_items fun r hr hp => heldUnder_edit (edit r hr hp).1 (hout r hr hp)
    · exact hwithin
    · apply Table.forall_update hcharged
      intro r hr hp
      obtain ⟨hedit, hcharge, h1, h2⟩ := edit r hr hp
      obtain ⟨hn, hw, ho, -⟩ := hcharged r hr
      exact ⟨by omega, by rw [hedit.reserved]; omega,
        fun _ => by rw [hcharge]; exact ho (by simp [h1, RequestStatus.outstanding]),
        fun h => by simp [h2, RequestStatus.released] at h⟩
    · exact Table.forall_update hwalletOf
        fun r hr hp => by rw [(edit r hr hp).1.userId]; exact hwalletOf r hr
    · exact Table.forall_update hbudgetOf
        fun r hr hp => by rw [(edit r hr hp).1.budgetId]; exact hbudgetOf r hr
  | openBudget x status reserved spent positive first insert =>
    obtain ⟨hb, hof⟩ := open_budget hbudget hbudgetOf insert reserved
    exact ⟨hwallet, hb, Table.forall_insert insert hwithin (by omega), hcharged, hwalletOf, hof⟩
  | replaceBudget old x found active idle owner period status reserved spent within insert =>
    have hretired := Table.forall_modify (f := fun y : Budget => { y with status := .superseded })
      found hwithin (hwithin old (Table.mem_of_get? found))
    obtain ⟨hb, hof⟩ := open_budget (hbudget.update_accounts (by intros; rfl))
      (by simpa using hbudgetOf) insert reserved
    exact ⟨hwallet, hb, Table.forall_insert insert hretired (by omega), hcharged, hwalletOf, hof⟩
  | place o _ owner _ insert => exact ⟨hwallet, hbudget, hwithin, hcharged, hwalletOf, hbudgetOf⟩
  | progress p f hf edit => exact ⟨hwallet, hbudget, hwithin, hcharged, hwalletOf, hbudgetOf⟩
  | command => exact ⟨hwallet, hbudget, hwithin, hcharged, hwalletOf, hbudgetOf⟩
  | reissue => exact ⟨hwallet, hbudget, hwithin, hcharged, hwalletOf, hbudgetOf⟩
  | credit | reverse | resolve =>
    exact ⟨hwallet.update_accounts (by intros; rfl), hbudget, hwithin,
      hcharged, by simpa using hwalletOf, hbudgetOf⟩

theorem Moves.holds {env : Env} {b b' : Books} (m : Moves env b b')
    (henv : env.callers) (hs : b.Sound)
    (h : b.Holds) : b'.Holds := by
  induction m with
  | refl => exact h
  | tail ms m ih => exact m.holds henv (Moves.sound ms hs) ih

theorem Move.finished {env : Env} {b b' : Books} (m : Move env b b') (henv : env.callers)
    {i : Id} {r : ModelRequest}
    (h : b.requests.get? i = some r) (hs : r.status.outstanding = false) :
    b'.requests.get? i = some r := by
  cases m with
  | hold x w j _ _ _ _ _ _ _ _ _ insert =>
    rw [Table.get?_insert insert]
    split
    · rename_i hi
      rw [← hi, (Table.insert?_eq_some.1 insert).1] at h
      cases h
    · exact h
  | finish x f hf w charged j kind risk found edit fits charges caller =>
    refine (Table.get?_modify b.requests x.id i f hf).trans ?_
    rw [if_neg, h]
    rintro rfl
    obtain rfl := Option.some.inj (found.symm.trans h)
    rw [(caller henv).outstanding] at hs
    cases hs
  | suspend p f hf edit =>
    refine (Table.get?_update b.requests p f hf i).trans ?_
    rw [h]
    have hp : p r = false := by
      cases hp : p r with
      | false => rfl
      | true =>
        obtain ⟨-, -, hres, -⟩ := edit r (Table.mem_of_get? h) hp
        rw [hres] at hs
        cases hs
    simp [hp]
  | _ => exact h

theorem Moves.finished {env : Env} {b b' : Books} (m : Moves env b b') (henv : env.callers)
    {i : Id} {r : ModelRequest}
    (h : b.requests.get? i = some r) (hs : r.status.outstanding = false) :
    b'.requests.get? i = some r := by
  induction m with
  | refl => exact h
  | tail _ m ih => exact m.finished henv ih hs

end Kunlun
