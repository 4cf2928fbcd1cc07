import Kunlun.Books
import Kunlun.Lib.Tally

/-!
# Wallets agree with the journal

Each move posts to a user's accounts what it does to the user's wallet.
-/

namespace Kunlun

/-- The entries of a user on an account. -/
def entriesOf (ledger : Table LedgerTransaction LedgerTransaction.idempotencyKey)
    (userId : Id) (a : Account) :
    List LedgerEntry :=
  (ledger.rows.flatMap LedgerTransaction.entries).filter fun e => e.userId = userId ∧ e.account = a

/-- The sum of a user's entries on an account. -/
def entrySum (ledger : Table LedgerTransaction LedgerTransaction.idempotencyKey) (userId : Id)
    (a : Account) : Int :=
  ((entriesOf ledger userId a).map LedgerEntry.amountMicrousd).sum

theorem sum_entries_of_owner (t : LedgerTransaction) (userId : Id) (a : Account) :
    ((t.entries.filter fun e => e.userId = userId ∧ e.account = a).map
      LedgerEntry.amountMicrousd).sum =
      if t.userId = userId then t.total a else 0 := by
  have howned := t.owned
  rw [LedgerTransaction.total]
  generalize t.entries = entries at howned ⊢
  induction entries with
  | nil => simp
  | cons e entries ih =>
    have he : e.userId = t.userId := howned e (by simp)
    have ih := ih fun x hx => howned x (by simp [hx])
    by_cases hu : t.userId = userId
    · by_cases ha : e.account = a
      · simp_all
      · simp_all
    · simp_all

/-- What a journal weighs for a user on an account. -/
def weight (a : Account) (userId : Id) (t : LedgerTransaction) : Int :=
  if t.userId = userId then t.total a else 0

/-- Entries are owned by the user of their journal, so journals can be summed instead. -/
theorem entrySum_eq (ledger : Table LedgerTransaction LedgerTransaction.idempotencyKey)
    (userId : Id) (a : Account) :
    entrySum ledger userId a = ledger.sum (weight a userId) := by
  rw [entrySum, entriesOf, Table.sum]
  induction ledger.rows with
  | nil => simp
  | cons t rows ih =>
    simp only [List.flatMap_cons, List.filter_append, List.map_append,
      List.sum_append, List.map_cons, List.sum_cons, sum_entries_of_owner, ih, weight]

/-! ## Wallets and journals -/

structure WalletsAgree (wallets : Table Wallet Wallet.userId)
    (ledger : Table LedgerTransaction LedgerTransaction.idempotencyKey) : Prop where
  known : ∀ j ∈ ledger.rows, (wallets.get? j.userId).isSome
  balance : Tallies wallets Wallet.balanceMicrousd ledger (weight .customerAvailable)
  reserved : Tallies wallets Wallet.reservedMicrousd ledger (weight .customerReserved)
  balance_nonneg : ∀ w ∈ wallets.rows, 0 ≤ w.balanceMicrousd
  reserved_nonneg : ∀ w ∈ wallets.rows, 0 ≤ w.reservedMicrousd

variable {wallets wallets' : Table Wallet Wallet.userId}
variable {ledger ledger' : Table LedgerTransaction LedgerTransaction.idempotencyKey}

theorem WalletsAgree.post (h : WalletsAgree wallets ledger) {w : Wallet} {userId : Id}
    {f : Wallet → Wallet}
    {j : LedgerTransaction} {kind : LedgerKind} {reference : String}
    {available reserved clearing risk : Int} (hw : wallets.get? userId = some w)
    (hj : Posts j kind userId reference available reserved clearing risk)
    (hl : ledger.insert? j = some ledger')
    (hb : (f w).balanceMicrousd = w.balanceMicrousd + available)
    (hr : (f w).reservedMicrousd = w.reservedMicrousd + reserved)
    (hb0 : 0 ≤ (f w).balanceMicrousd) (hr0 : 0 ≤ (f w).reservedMicrousd)
    (hf : ∀ w, (f w).userId = w.userId := by first | assumption | (intros; rfl)) :
    WalletsAgree (wallets.modify userId f hf) ledger' := by
  have hother (a : Account) (u : Id) (hu : u ≠ userId) : weight a u j = 0 := by
    rw [weight, hj.userId, if_neg (Ne.symm hu)]
  constructor
  · intro t ht
    rw [Table.isSome_get?_modify]
    rcases (Table.mem_insert hl).1 ht with ht | rfl
    · exact h.known t ht
    · simp [hj.userId, hw]
  · exact h.balance.insert_item hw hl (by simp [weight, hj.userId, hj.available, hb]) (hother _)
  · exact h.reserved.insert_item hw hl (by simp [weight, hj.userId, hj.reserved, hr]) (hother _)
  · exact Table.forall_modify hw h.balance_nonneg hb0
  · exact Table.forall_modify hw h.reserved_nonneg hr0

theorem WalletsAgree.register (h : WalletsAgree wallets ledger) {userId : Id}
    (hi : wallets.insert? ⟨userId, 0, 0⟩ = some wallets') : WalletsAgree wallets' ledger := by
  have hnone : ∀ j ∈ ledger.rows, j.userId ≠ userId := by
    rintro j hj rfl
    have := h.known j hj
    rw [(Table.insert?_eq_some.1 hi).1] at this
    simp at this
  have hzero (a : Account) : ∀ j ∈ ledger.rows, weight a userId j = 0 :=
    fun j hj => if_neg (hnone j hj)
  constructor
  · intro j hj
    rw [Table.get?_insert hi, if_neg (Ne.symm (hnone j hj))]
    exact h.known j hj
  · exact h.balance.open_account hi rfl (hzero _)
  · exact h.reserved.open_account hi rfl (hzero _)
  · exact Table.forall_insert hi h.balance_nonneg le_rfl
  · exact Table.forall_insert hi h.reserved_nonneg le_rfl

/-! ## The books -/

structure Books.Sound (b : Books) : Prop where
  agree : WalletsAgree b.wallets b.ledger
  walletOf : ∀ u ∈ b.users, (b.wallets.get? u).isSome
  owner : ∀ o ∈ b.orders.rows, o.userId ∈ b.users
  positive : ∀ r ∈ b.requests.rows, 0 < r.reservedMicrousd

theorem Move.sound {env : Env} {b b' : Books} (m : Move env b b') (h : b.Sound) : b'.Sound := by
  obtain ⟨hagree, hwallet, howner, hpos⟩ := h
  cases m with
  | register userId hi =>
    refine ⟨hagree.register hi, ?_, fun o ho => List.mem_append_left _ (howner o ho), hpos⟩
    intro u hu
    rw [Table.get?_insert hi]
    rcases List.mem_append.1 hu with hu | hu
    · split <;> simp [hwallet u hu]
    · simp_all
  | hold r w j _ positive _ _ wallet covered _ posts post insert =>
    have hr0 := hagree.reserved_nonneg w (Table.mem_of_get? wallet)
    refine ⟨hagree.post wallet posts post (by simp; omega) (by simp) (by simp; omega) (by simp; omega),
      by simpa using hwallet, howner, Table.forall_insert insert hpos positive⟩
  | finish r f hf w charged j kind risk found edit fits charges _ wallet held _ posts post =>
    have hw := Table.mem_of_get? wallet
    have hb0 := hagree.balance_nonneg w hw
    have hr := hpos r (Table.mem_of_get? found)
    have hfits := fits hr
    refine ⟨hagree.post wallet posts post (by simp) (by simp; omega) (by simp; omega) (by simp; omega),
      by simpa using hwallet, howner, Table.forall_modify found hpos (by rw [edit.reserved]; exact hr)⟩
  | suspend p f hf edit =>
    exact ⟨hagree, hwallet, howner,
      Table.forall_update hpos fun r hr hp => by rw [(edit r hr hp).1.reserved]; exact hpos r hr⟩
  | openBudget => exact ⟨hagree, hwallet, howner, hpos⟩
  | replaceBudget => exact ⟨hagree, hwallet, howner, hpos⟩
  | place o _ owner _ insert => exact ⟨hagree, hwallet, Table.forall_insert insert howner owner, hpos⟩
  | progress p f hf edit =>
    exact ⟨hagree, hwallet,
      Table.forall_update howner
        fun o ho hp => by rw [(edit o ho hp).1.userId]; exact howner o ho, hpos⟩
  | credit o f hf j kind found openStatus edit paid ofCredit posts post =>
    have ho := howner o (Table.mem_of_get? found)
    obtain ⟨w, wallet⟩ := Option.isSome_iff_exists.1 (hwallet o.userId ho)
    have hw := Table.mem_of_get? wallet
    have hb0 := hagree.balance_nonneg w hw
    have hr0 := hagree.reserved_nonneg w hw
    have hcredit := o.creditPositive
    refine ⟨hagree.post wallet posts post (by simp) (by simp) (by simp; omega) (by simp; omega),
      by simpa using hwallet, Table.forall_modify found howner (by rw [edit.userId]; exact ho), hpos⟩
  | command o r found paid orderId status insert uniqueness =>
    exact ⟨hagree, hwallet, Table.forall_modify found howner (howner o (Table.mem_of_get? found)), hpos⟩
  | reissue p f hf edit => exact ⟨hagree, hwallet, howner, hpos⟩
  | reverse o g hg r f hf w recovered j kind found reversible edit refunded source
    foundRefund active orderId editRefund ended wallet nonneg within covered hkind posts post =>
    have hw := Table.mem_of_get? wallet
    have hb0 := hagree.balance_nonneg w hw
    have hr0 := hagree.reserved_nonneg w hw
    have ho := howner o (Table.mem_of_get? found)
    refine ⟨hagree.post wallet posts post (by simp; omega) (by simp) (by simp; omega) (by simp; omega),
      by simpa using hwallet, Table.forall_modify found howner (by rw [edit.userId]; exact ho), hpos⟩
  | resolve r f hf o g hg w outstanding recovered j kind found atRisk editRefund
    resolved foundOrder orderId
      refunded edit same net positive wallet least within covered hkind posts post =>
    have hw := Table.mem_of_get? wallet
    have hb0 := hagree.balance_nonneg w hw
    have hr0 := hagree.reserved_nonneg w hw
    have ho := howner o (Table.mem_of_get? foundOrder)
    refine ⟨hagree.post wallet posts post (by simp; omega) (by simp) (by simp; omega) (by simp; omega),
      by simpa using hwallet, Table.forall_modify foundOrder howner (by rw [edit.userId]; exact ho),
        hpos⟩

theorem Moves.sound {env : Env} {b b' : Books} (m : Moves env b b') (h : b.Sound) : b'.Sound := by
  induction m with
  | refl => exact h
  | tail _ m ih => exact m.sound ih

end Kunlun
