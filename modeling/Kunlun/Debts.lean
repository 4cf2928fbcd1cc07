import Kunlun.Accounting

/-!
# Unresolved refund debts

A refund whose credit has been spent leaves a debt. The account stays frozen as long as there
is one, and a frozen account gets nothing from any gate.
-/

namespace Kunlun

/-! ## Owners -/

/-- Orders belong to users that are there, and refunds to the user of their order. -/
structure Books.Owned (b : Books) : Prop where
  orders : ∀ o ∈ b.orders.rows, o.userId ∈ b.users
  refunds : ∀ r ∈ b.refunds.rows, ∃ o, b.orders.get? r.orderId = some o ∧ o.userId = r.userId

namespace Books.Owned

variable {b b' : Books} {env : Env}

theorem refunds_of_move (h : b.Owned) (m : Move env b b')
    (hr : ∀ r' ∈ b'.refunds.rows,
      (∃ r ∈ b.refunds.rows, r'.orderId = r.orderId ∧ r'.userId = r.userId) ∨
      ∃ o, b.orders.get? r'.orderId = some o ∧ o.userId = r'.userId) :
    ∀ r' ∈ b'.refunds.rows, ∃ o, b'.orders.get? r'.orderId = some o ∧ o.userId = r'.userId := by
  intro r' hmem
  have hfound : ∃ o, b.orders.get? r'.orderId = some o ∧ o.userId = r'.userId := by
    rcases hr r' hmem with ⟨r, hr, horder, huser⟩ | h
    · rw [horder, huser]
      exact h.refunds r hr
    · exact h
  obtain ⟨o, ho, huser⟩ := hfound
  obtain ⟨o', ho', hpath⟩ := m.order ho
  exact ⟨o', ho', hpath.edit.userId.trans huser⟩

theorem orders_modify (h : b.Owned) {x : PaymentOrder} {f : PaymentOrder → PaymentOrder}
    (hf : ∀ o, (f o).id = o.id)
    (found : b.orders.get? x.id = some x) (hx : (f x).userId = x.userId) :
    ∀ o ∈ (b.orders.modify x.id f hf).rows, o.userId ∈ b.users := by
  refine Table.forall_modify found h.orders ?_
  rw [hx]
  exact h.orders x (Table.mem_of_get? found)

end Books.Owned

theorem Move.owned {env : Env} {b b' : Books} (m : Move env b b') (h : b.Owned) : b'.Owned := by
  refine ⟨?_, h.refunds_of_move m ?_⟩
  · cases m with
    | register userId => exact fun o ho => List.mem_append_left _ (h.orders o ho)
    | place o _ owner _ insert => exact Table.forall_insert insert h.orders owner
    | progress p f hf edit =>
      refine Table.forall_update h.orders fun o ho hp => ?_
      rw [(edit o ho hp).1.userId]
      exact h.orders o ho
    | credit o f hf j kind found openStatus edit => exact h.orders_modify hf found edit.userId
    | command o r found =>
      exact h.orders_modify (f := fun o => { o with status := .refunding }) (fun _ => rfl) found rfl
    | reverse o g hg r f hf w recovered j kind found reversible edit =>
      exact h.orders_modify hg found edit.userId
    | resolve r f hf o g hg w outstanding recovered j kind found atRisk editRefund resolved
      foundOrder orderId refunded edit => exact h.orders_modify hg foundOrder edit.userId
    | _ => exact h.orders
  · have old :
      ∀ r ∈ b.refunds.rows, (∃ r₀ ∈ b.refunds.rows, r.orderId = r₀.orderId ∧ r.userId = r₀.userId) ∨
        ∃ o, b.orders.get? r.orderId = some o ∧ o.userId = r.userId :=
      fun r hr => .inl ⟨r, hr, rfl, rfl⟩
    cases m with
    | command o r found paid orderId status insert uniqueness owner =>
      refine Table.forall_insert insert old (.inr ⟨o, ?_, owner.symm⟩)
      rw [orderId, found]
    | reissue p f hf edit =>
      refine Table.forall_update old fun r hr hp => ?_
      exact .inl ⟨r, hr, (edit r hr hp).1.orderId, (edit r hr hp).1.userId⟩
    | reverse o g hg r f hf w recovered j kind found reversible edit refunded source
      foundRefund active orderId
        editRefund ended wallet nonneg within covered hkind posts post owner key =>
      rename_i refunds _
      have hall :
        ∀ x ∈ refunds.rows, (∃ r₀ ∈ b.refunds.rows, x.orderId = r₀.orderId ∧ x.userId = r₀.userId) ∨
          ∃ o, b.orders.get? x.orderId = some o ∧ o.userId = x.userId := by
        rcases source with rfl | ⟨insert, -⟩
        · exact old
        · rcases owner with rfl | owner
          · exact old
          · exact Table.forall_insert insert old (.inr ⟨o, by rw [orderId, found], owner.symm⟩)
      refine Table.forall_modify foundRefund hall ?_
      rcases hall r (Table.mem_of_get? foundRefund) with ⟨r₀, h₀, horder, huser⟩ | ⟨x, hx, huser⟩
      · exact .inl ⟨r₀, h₀, editRefund.orderId.trans horder, editRefund.userId.trans huser⟩
      · exact .inr ⟨x, by rw [editRefund.orderId, hx], by rw [huser, editRefund.userId]⟩
    | resolve r f hf o g hg w outstanding recovered j kind found atRisk editRefund =>
      refine Table.forall_modify found old
        (.inl ⟨r, Table.mem_of_get? found, editRefund.orderId, editRefund.userId⟩)
    | _ => exact old

theorem Moves.owned {env : Env} {b b' : Books} (m : Moves env b b') (h : b.Owned) : b'.Owned := by
  induction m with
  | refl => exact h
  | tail _ m ih => exact m.owned ih

/-! ## What becomes of debts -/

def DB.Frozen (d : DB) (userId : Id) : Prop :=
  ∃ u, d.users.get? userId = some u ∧ u.status = .frozen

/-- Frozen accounts stay frozen, refunds stay with their users, and a refund comes to be at risk
only where the account is frozen. -/
structure Debts (d e : DB) : Prop where
  users : ∀ u, d.Frozen u → e.Frozen u
  there : ∀ i, (d.users.get? i).isSome → (e.users.get? i).isSome
  owners : ∀ i r, d.refunds.get? i = some r → ∃ r', e.refunds.get? i = some r' ∧
    r'.userId = r.userId
  risks : ∀ r ∈ e.refunds.rows, r.status = .risk →
    (∃ r₀ ∈ d.refunds.rows, r₀.userId = r.userId ∧ r₀.status = .risk) ∨ e.Frozen r.userId

theorem Debts.trans {d e f : DB} (h : Debts d e) (h' : Debts e f) : Debts d f where
  users u hu := h'.users u (h.users u hu)
  there i hi := h'.there i (h.there i hi)
  owners i r hr := by
    obtain ⟨r', hr', hu⟩ := h.owners i r hr
    obtain ⟨r'', hr'', hu'⟩ := h'.owners i r' hr'
    exact ⟨r'', hr'', hu'.trans hu⟩
  risks r hr hs := by
    rcases h'.risks r hr hs with ⟨r₀, h₀, hu, hs₀⟩ | hf
    · rcases h.risks r₀ h₀ hs₀ with ⟨r₁, h₁, hu₁, hs₁⟩ | hf
      · exact .inl ⟨r₁, h₁, hu₁.trans hu, hs₁⟩
      · exact .inr (h'.users _ (hu ▸ hf))
    · exact .inr hf

theorem Debts.of_refunds {d e : DB} (hr : e.refunds = d.refunds) (hu : ∀ u, d.Frozen u → e.Frozen u)
    (ht : ∀ i, (d.users.get? i).isSome → (e.users.get? i).isSome) : Debts d e where
  users := hu
  there := ht
  owners i r h := ⟨r, by rw [hr, h], rfl⟩
  risks r h hs := .inl ⟨r, hr ▸ h, rfl, hs⟩

theorem Debts.of_eq {d e : DB} (hu : e.users = d.users) (hr : e.refunds = d.refunds) : Debts d e :=
  .of_refunds hr (fun _ => by simp [DB.Frozen, hu]) fun _ => by simp [hu]

def debts : Track DB := ⟨Debts, fun _ => .of_eq rfl rfl, Debts.trans⟩

theorem frozen_update {d : DB} {p : User → Bool} {f : User → User}
    {hf : ∀ u, (f u).id = u.id} {i : Id}
    (h : ∀ u, d.users.get? i = some u → u.status = .frozen → p u → (f u).status = .frozen)
    (hi : d.Frozen i) :
    DB.Frozen { d with users := d.users.update p f hf } i := by
  obtain ⟨u, hu, hs⟩ := hi
  refine ⟨if p u then f u else u, by simp [Table.get?_update, hu], ?_⟩
  split
  · exact h u hu hs ‹_›
  · exact hs

theorem updateUsers_debts {p : User → Bool} {f : User → User} {hf : ∀ u, (f u).id = u.id}
    (h : ∀ u, p u → UserEdit u (f u)) : Kept debts (DB.flushing (DB.updateUsers p f hf)) := by
  refine ⟨fun d e he => ?_⟩
  obtain rfl := Option.some.inj he
  refine .of_refunds rfl (fun i => frozen_update fun u _ hs hp => ?_) fun i hi => ?_
  · rcases h u hp with hf | hf
    · exact hf
    · exact hf.trans hs
  · simpa [Table.isSome_get?_update] using hi

theorem updateRefunds_debts {p : PaymentRefund → Bool} {f : PaymentRefund → PaymentRefund}
    {hf : ∀ r, (f r).id = r.id}
    (h : ∀ r, p r → (f r).userId = r.userId ∧ ((f r).status = .risk → r.status = .risk)) :
    Kept debts (DB.flushing (DB.updateRefunds p f hf)) := by
  refine ⟨fun d e he => ?_⟩
  obtain rfl := of_update_unique he
  refine ⟨fun _ => id, fun _ => id, fun i r hr => ?_, ?_⟩
  · refine ⟨if p r then f r else r, by simp [Table.get?_update, hr], ?_⟩
    split
    · exact (h r ‹_›).1
    · rfl
  · refine Table.forall_update (fun r hr hs => .inl ⟨r, hr, rfl, hs⟩) fun r hr hp hs => ?_
    exact .inl ⟨r, hr, (h r hp).1.symm, (h r hp).2 hs⟩

theorem updateOrders_debts (p : PaymentOrder → Bool) (f : PaymentOrder → PaymentOrder)
    (hf : ∀ o, (f o).id = o.id) :
    Kept debts (DB.flushing (DB.updateOrders p f hf)) :=
  ⟨fun d e h => by obtain rfl := of_update_unique h; exact .of_eq rfl rfl⟩

theorem insertRefund_debts {r : PaymentRefund} (h : r.status ≠ .risk) :
    Kept debts (DB.insertRefund r) := by
  refine ⟨fun d e he => ?_⟩
  obtain ⟨t, ht, -, rfl⟩ := insertRefund_ok.1 he
  refine ⟨fun _ => id, fun _ => id, fun i x hx => ⟨x, Table.get?_insert_of_some ht hx, rfl⟩, ?_⟩
  refine Table.forall_insert ht (fun x hx hs => .inl ⟨x, hx, rfl, hs⟩) fun hs => absurd hs h

theorem insertUser_debts (u : User) : Kept debts (DB.insertUser u) := by
  refine ⟨fun d e he => ?_⟩
  obtain ⟨t, ht, he⟩ := Option.bind_eq_some_iff.1 he
  obtain ⟨-, he⟩ := Option.ite_none_right_eq_some.1 he
  obtain rfl := Option.some.inj he
  refine .of_refunds rfl (fun i ⟨x, hx, hs⟩ => ⟨x, Table.get?_insert_of_some ht hx, hs⟩) fun i hi =>
    ?_
  obtain ⟨x, hx⟩ := Option.isSome_iff_exists.1 hi
  exact Option.isSome_iff_exists.2 ⟨x, Table.get?_insert_of_some ht hx⟩

theorem keepsMoney_debts : KeepsMoney debts := by
  refine keepsMoney_of (keepsAccounts_of (fun _ _ _ _ _ _ _ => .of_eq rfl rfl) fun p f hf h =>
    updateUsers_debts h)
    (fun _ _ _ _ _ => .of_eq rfl rfl) insertUser_debts (fun _ => ?_) (fun _ => ?_)
      (fun r h => insertRefund_debts h)
    (fun p f hf _ => updateOrders_debts p f hf) fun p f hf h => updateRefunds_debts fun r hp =>
      ⟨(h r hp).owner, ?_⟩
  · exact ⟨fun d e h => by obtain ⟨t, rfl⟩ := of_insert_unique h; exact .of_eq rfl rfl⟩
  · exact ⟨fun d e h => by obtain ⟨t, rfl⟩ := of_insert_unique h; exact .of_eq rfl rfl⟩
  · rcases (h r hp).claim with ⟨hs, -⟩ | hs | hs
    · exact fun h => hs ▸ h
    all_goals simp [hs]

theorem keepsClaims_debts : KeepsClaims debts where
  regrant _ _ next _ hnext _ := updateRefunds_debts fun _ _ => ⟨rfl, fun hs => by
    rcases hnext with rfl | rfl <;> simp [reclaimedRefund] at hs⟩
  uncertain _ _ := updateRefunds_debts fun _ _ => ⟨rfl, fun hs => by simp at hs⟩

theorem keepsReconcile_debts (orderId : Id) : KeepsReconcile debts orderId where
  claim _ _ := updateOrders_debts ..
  release := updateOrders_debts ..
  pending _ := updateOrders_debts ..

/-! ## The shortfall -/

theorem atRisk_debts {d e : DB} {refundId userId : Id}
    (hr : ∃ r, d.refunds.get? refundId = some r ∧ r.userId = userId) (hu : d.Frozen userId)
    (h : DB.flushing (DB.updateRefunds (fun r => r.id = refundId)
      fun r => { r with status := .risk, riskReason := some "refund_balance_insufficient" }) d =
        some e) :
    Debts d e := by
  obtain ⟨x, hx, hxu⟩ := hr
  obtain ⟨-, rfl⟩ := flushRefunds_ok.1 h
  refine ⟨fun _ => id, fun _ => id, fun i r hi => ?_, ?_⟩
  · rw [Table.get?_update, hi]
    refine ⟨_, rfl, ?_⟩
    dsimp only
    split <;> rfl
  · refine Table.forall_update (fun r hr hs => .inl ⟨r, hr, rfl, hs⟩) fun r hr hp _ => .inr ?_
    obtain rfl := Option.some.inj (hx.symm.trans ((of_decide_eq_true hp) ▸ Table.get?_of_mem hr))
    rw [hxu]
    exact hu

theorem applyUserFreeze_stages {userId : Id} {now : Time} {s t : Session DB} {n : Nat}
    (h : applyUserFreeze userId now s = (.ok n, t)) (hu : (s.work.users.get? userId).isSome) :
    t.committed = s.committed ∧ Debts s.work t.work ∧ t.pending = s.pending ++
      [DB.flushing (DB.updateUsers (fun u => u.id = userId) fun u =>
        { u with status := .frozen })] := by
  simp only [applyUserFreeze, Tx.bind_ok, Tx.select_ok] at h
  obtain ⟨found, _, ⟨rfl, rfl⟩, h⟩ := h
  obtain ⟨user, huser⟩ := Option.isSome_iff_exists.1 hu
  simp only [huser, Tx.bind_ok, Tx.add_ok, Tx.execute_ok, Tx.pure_ok, DB.updateApiKeys,
    DB.updateAccessSessions, DB.updateEmailTokens, DB.updateResetTokens, Option.some.injEq,
    Prod.mk.injEq] at h
  obtain ⟨_, _, rfl, _, _, ⟨_, ⟨rfl, -⟩, rfl⟩, _, _, ⟨_, ⟨rfl, -⟩, rfl⟩, _, _, ⟨_, ⟨rfl, -⟩, rfl⟩,
    _, _, ⟨_, ⟨rfl, -⟩, rfl⟩, -, rfl⟩ := h
  exact ⟨rfl, .of_eq rfl rfl, rfl⟩

theorem frozen_of_freeze {d e : DB} {userId : Id} (hu : (d.users.get? userId).isSome)
    (h : DB.flushing (DB.updateUsers (fun u => u.id = userId) fun u => { u with status := .frozen })
      d = some e) :
    e.Frozen userId := by
  obtain ⟨user, huser⟩ := Option.isSome_iff_exists.1 hu
  obtain rfl := Option.some.inj h
  refine ⟨{ user with status := .frozen }, ?_, rfl⟩
  rw [Table.get?_update, huser, Option.map_some, if_pos (by simp [Table.key_of_get? huser])]

theorem reverseAtRisk_keeps {a : ApplyRefundArgs} {order : PaymentOrder}
    {refund : PaymentRefund} {wallet : Wallet}
    {s : Session DB} (huser : (s.work.users.get? order.userId).isSome)
    (hrefund : ∃ r, s.work.refunds.get? refund.id = some r ∧ r.userId = order.userId) :
    Tx.KeepsFrom debts s (reverseAtRisk a order refund wallet) := by
  have hatomic : Tx.Atomic (reverseAtRisk a order refund wallet) := by
    refine Tx.atomic_bind (Tx.quiet_add _) fun _ =>
      Tx.atomic_bind (quiet_applyUserFreeze ..) fun _ => ?_
    refine Tx.atomic_bind (Tx.quiet_add _) fun _ => Tx.atomic_bind (Tx.quiet_add _) fun _ => ?_
    exact Tx.atomic_bind (quiet_postTransaction ..) fun _ => atomic_finishRefund ..
  refine hatomic.keepsFrom fun hs r t h => ?_
  simp only [reverseAtRisk, setBalance, setOrder, setRefund, Tx.bind_ok, Tx.add_ok] at h
  obtain ⟨_, _, rfl, _, s₂, h2, _, _, rfl, _, _, rfl, _, s₅, h5, h6⟩ := h
  obtain ⟨hcommitted, hwork, hpending⟩ := applyUserFreeze_stages h2 huser
  obtain ⟨j, d, ledger, happly, -, -, hledger, rfl⟩ := postTransaction_moves h5
  simp only [hpending, Tx.applyAll_append, Tx.applyAll_cons, Tx.applyAll_nil, Option.some.injEq,
    exists_eq_right] at happly
  obtain ⟨d₄, ⟨d₃, ⟨d₂, ⟨d₁, h1, hbalance⟩, hfreeze⟩, horder⟩, hrisk⟩ := happly
  have h₁ := hwork.trans (Tx.applyAll_kept hs.pending h1)
  have h₂ := h₁.trans ((keepsMoney_debts.wallets ..).rel d₁ d₂ hbalance)
  have h₃ := h₂.trans ((updateUsers_debts fun _ _ => .inl rfl).rel d₂ d₃ hfreeze)
  have hfrozen := frozen_of_freeze (h₂.there _ huser) hfreeze
  have horder' := (updateOrders_debts ..).rel d₃ d₄ horder
  obtain ⟨x, hx, hxu⟩ := hrefund
  obtain ⟨x', hx', hxu'⟩ := (h₃.trans horder').owners _ x hx
  have h₅ := (h₃.trans horder').trans
    (atRisk_debts ⟨x', hx', hxu'.trans hxu⟩ (horder'.users _ hfrozen) hrisk)
  have hs₅ : Tx.Tracks debts ⟨s₂.committed, { d with ledger := ledger }, []⟩ := by
    rw [hcommitted]
    exact ⟨hs.work.trans (h₅.trans (.of_eq rfl rfl)), by simp⟩
  have hfinish := (keepsMoney_debts.finishRefund a order
    { refund with status := .risk, riskReason := some "refund_balance_insufficient" }).from
      ⟨s₂.committed, { d with ledger := ledger }, []⟩
  refine ⟨?_, hfinish.tracks hs₅ r t h6⟩
  have hcommit := hfinish.committed hs₅
  rw [h6, hcommitted] at hcommit
  exact hcommit

theorem reverseCredit_keeps {a : ApplyRefundArgs} {order : PaymentOrder}
    {refund : PaymentRefund} {s : Session DB}
    (huser : (s.work.users.get? order.userId).isSome)
    (hrefund : ∃ r, s.work.refunds.get? refund.id = some r ∧ r.userId = order.userId) :
    Tx.KeepsFrom debts s (reverseCredit a order refund) := by
  refine Tx.keepsFrom_select_bind (Tx.keepsFrom_orRaise_bind fun wallet _ => ?_)
  split
  · exact (keepsMoney_debts.reverseInFull a order refund wallet).from s
  · exact reverseAtRisk_keeps huser hrefund

theorem openRefund_keeps {a : ApplyRefundArgs} {order : PaymentOrder}
    {existing : Option PaymentRefund} {amount : Int}
    {currency : String} {s t : Session DB} {refund : PaymentRefund} (hs : Tx.Tracks debts s)
    (huser : (s.work.users.get? order.userId).isSome)
    (hexisting : ∀ r, existing = some r → r ∈ s.work.refunds.rows ∧ r.userId = order.userId)
    (h : openRefund a order existing amount currency s = (.ok refund, t)) :
    t.committed = s.committed ∧ (t.work.users.get? order.userId).isSome ∧
      ∃ r, t.work.refunds.get? refund.id = some r ∧ r.userId = order.userId := by
  cases existing with
  | none =>
    simp only [openRefund, Tx.bind_ok, conflictsAs_ok, Tx.add_ok, Tx.flush_ok, Tx.pure_ok] at h
    obtain ⟨_, _, rfl, _, _, ⟨d, ha, rfl⟩, rfl, rfl⟩ := h
    simp only [Tx.applyAll_append, Tx.applyAll_cons, Tx.applyAll_nil, Option.some.injEq,
      exists_eq_right] at ha
    obtain ⟨d₁, h1, h2⟩ := ha
    have hkept := (Tx.applyAll_kept hs.pending h1).trans
      ((insertRefund_debts (by simp [newRefund])).rel d₁ d h2)
    obtain ⟨rows, hrows, -, rfl⟩ := insertRefund_ok.1 h2
    exact ⟨rfl, hkept.there _ huser, _, by rw [Table.get?_insert hrows, if_pos rfl], rfl⟩
  | some existing =>
    simp only [openRefund, Tx.bind_ok, Tx.raiseIf_ok, setRefund, Tx.add_ok, Tx.pure_ok] at h
    obtain ⟨_, _, ⟨-, rfl⟩, _, s, ⟨-, rfl⟩, _, _, rfl, rfl, rfl⟩ := h
    obtain ⟨hmem, hr⟩ := hexisting existing rfl
    exact ⟨rfl, huser, existing, Table.get?_of_mem hmem, hr⟩

theorem applyRefund_keeps {a : ApplyRefundArgs} {s : Session DB} (howned : s.work.books.Owned) :
    Tx.KeepsFrom debts s (applyRefund a) := by
  refine Tx.keepsFrom_select_bind (Tx.keepsFrom_orRaise_bind fun _ _ => Tx.keepsFrom_select_bind ?_)
  refine Tx.keepsFrom_select_bind ?_
  split
  · exact (Tx.keeps_bind (by simp) fun _ => by simp : Keeps debts _).from s
  · refine Tx.keepsFrom_orRaise_bind fun order hfound => Tx.keepsFrom_raiseIf_bind fun _ => ?_
    refine Tx.keepsFrom_orRaise_bind fun amount _ => Tx.keepsFrom_orRaise_bind fun currency _ => ?_
    have hget : s.work.orders.get? a.orderId = some order := (Option.filter_eq_some_iff.1 hfound).1
    have huser : (s.work.users.get? order.userId).isSome :=
      mem_users.1 (howned.orders order (Table.mem_of_get? hget))
    have hexisting (r : PaymentRefund)
      (hr : refundWithKey a.orderId a.idempotencyKey s.work = some r) :
        r ∈ s.work.refunds.rows ∧ r.userId = order.userId := by
      have hmem := List.mem_of_find?_eq_some hr
      have hkey := List.find?_some hr
      simp only [decide_eq_true_eq] at hkey
      obtain ⟨o, ho, hu⟩ := howned.refunds r hmem
      rw [hkey.1] at ho
      obtain rfl := Option.some.inj (hget.symm.trans ho)
      exact ⟨hmem, hu.symm⟩
    have hopen := (keepsMoney_debts.openRefund a order
      (refundWithKey a.orderId a.idempotencyKey s.work) amount currency).from s
    refine Tx.keepsFrom_bind hopen fun hs refund t hrun => ?_
    obtain ⟨-, huser, hrefund⟩ := openRefund_keeps hs huser hexisting hrun
    exact reverseCredit_keeps huser hrefund

/-! ## Events and routes that complete a refund -/

theorem completeRefund_keeps {a : WebhookArgs} {order : PaymentOrder}
    {key providerRefundId : String} {s : Session DB}
    (howned : s.work.books.Owned) :
    Tx.KeepsFrom debts s (completeRefund a order key providerRefundId) := by
  refine Tx.keepsFrom_add_bind (keepsMoney_debts.event _)
    (Tx.keepsFrom_bind (applyRefund_keeps howned) fun _ _ t _ => ?_)
  exact (keeps_then_return (by simp) _ : Keeps debts _).from t

theorem applyRefundEvent_keeps {a : WebhookArgs} {order : PaymentOrder}
    {providerRefundId : String} {s : Session DB}
    (howned : s.work.books.Owned) :
    Tx.KeepsFrom debts s (applyRefundEvent a order providerRefundId) := by
  unfold applyRefundEvent
  split
  · refine Tx.Keeps.from ?_ s
    refine Tx.keeps_bind (by simp) fun _ => Tx.keeps_bind (by simp) fun _ => ?_
    exact Tx.keeps_bind (Tx.keeps_add (keepsMoney_debts.event _)) fun _ =>
      keeps_then_return (keeps_conflictsAs _ (by simp)) _
  · refine Tx.keepsFrom_select_bind ?_
    split
    · exact Tx.keepsFrom_raiseIf_bind fun _ => completeRefund_keeps howned
    · exact (Tx.keeps_raise _).from s
  · exact completeRefund_keeps howned
  · exact (Tx.keeps_raise _).from s

theorem applyWebhook_keeps {a : WebhookArgs} {s : Session DB} (howned : s.work.books.Owned) :
    Tx.KeepsFrom debts s (applyWebhook a) := by
  refine Tx.keepsFrom_raiseIf_bind fun _ => Tx.keepsFrom_select_bind ?_
  split
  · exact (Tx.keeps_bind (by simp) fun _ => keeps_then_return (by simp) _ : Keeps debts _).from s
  · refine Tx.keepsFrom_select_bind (Tx.keepsFrom_raiseIf_bind fun _ => Tx.keepsFrom_select_bind ?_)
    refine Tx.keepsFrom_orRaise_bind fun order _ => Tx.keepsFrom_raiseIf_bind fun _ =>
      Tx.keepsFrom_raiseIf_bind fun _ => ?_
    refine Tx.keepsFrom_orRaise_bind fun kind _ => ?_
    have hprogress (kind : EventStatus) : Keeps debts (applyProgressEvent a order kind) :=
      keepsMoney_debts.applyProgressEvent _ _ _ (updateOrders_debts ..)
    split
    · exact applyRefundEvent_keeps howned
    · exact (Tx.keeps_raise _).from s
    · refine Tx.keepsFrom_raiseIf_bind fun _ => ?_
      split
      · refine (Tx.keeps_ite _ (fun _ => keepsMoney_debts.creditOrder ..) fun _ =>
          ?_ : Keeps debts _).from s
        exact Tx.keeps_bind (by simp) fun _ => keeps_then_return (by simp) _
      · exact (hprogress _).from s

theorem applyReconciliation_keeps {a : ReconcileAnswer} {s : Session DB}
    (howned : s.work.books.Owned) :
    Tx.KeepsFrom debts s (applyReconciliation a) := by
  refine Tx.keepsFrom_add_bind (keepsMoney_debts.action _) ?_
  refine Tx.keepsFrom_bind (keepsFrom_answering (applyWebhook_keeps howned))
    fun _ duplicate t _ => ?_
  exact (keepsMoney_debts.closeReconciliation (keepsReconcile_debts a.claim.orderId) duplicate).from
    t

theorem refundConfirmed_keeps {a : ApplyRefundArgs} {op : Operator}
    {operationId : String} {refundId : Id}
    {s : Session DB} (howned : s.work.books.Owned) :
    Tx.KeepsFrom debts s (refundConfirmed a op operationId refundId) := by
  refine Tx.keepsFrom_add_bind (keepsMoney_debts.action _) (keepsFrom_answering ?_)
  refine Tx.keepsFrom_bind (applyRefund_keeps howned) fun _ _ t _ => ?_
  exact (keeps_then_return (by simp) _ : Keeps debts _).from t

/-! ## Accounts that become active -/

theorem atomic_consumeEmailVerification (digest : String) (now : Time) :
    Tx.Atomic (consumeEmailVerification digest now) := by
  refine Tx.atomic_bind (by simp) fun found => ?_
  split
  · exact (Tx.quiet_pure _).atomic
  · refine Tx.atomic_bind (by simp) fun user => ?_
    split
    · exact (Tx.quiet_bind Tx.quiet_rollback fun _ => Tx.quiet_pure _).atomic
    · refine Tx.atomic_bind (Tx.quiet_execute _) fun changed => Tx.atomic_ite _ ?_ ?_
      · exact (Tx.quiet_bind Tx.quiet_rollback fun _ => Tx.quiet_pure _).atomic
      · exact Tx.atomic_bind (Tx.quiet_add _) fun _ => Tx.atomic_commit_return _

theorem consumeEmailVerification_debts (digest : String) (now : Time) (d : DB) :
    Debts d (Tx.run (consumeEmailVerification digest now) d).2 := by
  rcases Tx.run_cases (atomic_consumeEmailVerification digest now) d with
    heq | ⟨b, t, h, heq⟩ <;> rw [heq]
  · exact debts.refl d
  · simp only [consumeEmailVerification, Tx.bind_ok, Tx.select_ok] at h
    obtain ⟨_, _, ⟨rfl, rfl⟩, h⟩ := h
    generalize (openEmailToken digest (Session.fresh d).work).filter _ = token at h
    cases token with
    | none =>
      obtain ⟨-, rfl⟩ := (Tx.pure_ok ..).1 h
      exact debts.refl d
    | some record =>
      simp only [Tx.bind_ok, Tx.select_ok] at h
      obtain ⟨found, _, ⟨hfound, rfl⟩, h⟩ := h
      cases found with
      | none =>
        simp only [Tx.bind_ok, Tx.rollback_ok, Tx.pure_ok] at h
        obtain ⟨_, _, rfl, -, rfl⟩ := h
        exact debts.refl d
      | some user =>
        obtain ⟨hget, hpending⟩ := Option.filter_eq_some_iff.1 hfound.symm
        have hpending := of_decide_eq_true hpending
        simp only [consumeEmailTokens, Tx.bind_ok, Tx.execute_ok, DB.updateEmailTokens,
          Option.some.injEq, Prod.mk.injEq, Tx.ite_ok, Tx.rollback_ok, Tx.add_ok, Tx.commit_ok,
          Tx.pure_ok] at h
        obtain ⟨n, _, ⟨_, ⟨rfl, -⟩, rfl⟩,
          ⟨-, _, _, rfl, -, rfl⟩ | ⟨-, _, _, rfl, _, _, ⟨e, hc, rfl⟩, -, rfl⟩⟩ := h
        · exact debts.refl d
        · obtain rfl := Option.some.inj hc
          refine .of_refunds rfl (fun i => frozen_update fun u hu hs hp => ?_) fun i hi => ?_
          · have hi : i = record.userId := by
              rw [← Table.key_of_get? hu, of_decide_eq_true hp, Table.key_of_get? hget]
            rw [hi] at hu
            obtain rfl := Option.some.inj (hu.symm.trans hget)
            rw [hs] at hpending
            cases hpending
          · simpa [Session.fresh, Table.isSome_get?_update] using hi

/-- The operator may lift the freeze of the account. -/
structure DB.Liftable (d : DB) (userId : Id) : Prop where
  verified : ∃ u, d.users.get? userId = some u ∧ u.emailVerifiedAt ≠ none
  settled : ∀ r ∈ d.refunds.rows, r.userId = userId → r.status ≠ .risk

theorem atomic_updateAccountStatus (a : AccountStatusArgs) : Tx.Atomic (updateAccountStatus a) := by
  refine Tx.atomic_bind (by simp) fun _ => Tx.atomic_bind (by simp) fun user =>
    Tx.atomic_bind ?_ fun _ => ?_
  · unfold changeStatus unfreeze
    split
    · split
      · simp
      · exact Tx.quiet_bind (quiet_applyUserFreeze ..) fun _ => by simp
    · repeat refine Tx.quiet_bind (by simp) fun _ => ?_
      simp
  · exact Tx.atomic_bind (Tx.quiet_add _) fun _ => Tx.atomic_commit

/-- An operator lifts the freeze of a verified account without debts, and of no other. -/
theorem unfreeze_cases {a : AccountStatusArgs} (ha : a.freeze = false) (d : DB) :
    (Tx.run (updateAccountStatus a) d).2 = d ∨ d.Liftable a.userId ∧
      (Tx.run (updateAccountStatus a) d).2.users =
        d.users.update (fun u => u.id = a.userId) (fun u => { u with status := .active }) ∧
      (Tx.run (updateAccountStatus a) d).2.refunds = d.refunds := by
  rcases Tx.run_cases (atomic_updateAccountStatus a) d with heq | ⟨u, t, h, heq⟩
  · exact .inl heq
  · right
    rw [heq]
    simp only [updateAccountStatus, changeStatus, ha, Bool.false_eq_true, ↓reduceIte, unfreeze,
      Tx.bind_ok, Tx.select_ok, Tx.orRaise_ok, Tx.raiseIf_ok, Tx.add_ok, Tx.commit_ok] at h
    obtain ⟨_, _, ⟨rfl, rfl⟩, user, _, ⟨huser, rfl⟩, _, _,
      ⟨_, _, ⟨-, rfl⟩, _, _, ⟨hverified, rfl⟩, risk, _, ⟨rfl, rfl⟩, _, _, ⟨hrisk, rfl⟩, rfl⟩, _, _,
      rfl, e, hc, rfl⟩ := h
    obtain rfl := Option.some.inj hc
    refine ⟨⟨⟨user, huser, hverified⟩, fun r hr hu hs => hrisk ?_⟩, rfl, rfl⟩
    exact List.any_eq_true.2 ⟨r, hr, by simp [hu, hs]⟩

/-! ## Every call -/

theorem exec_debts {op : Op} {d : DB} (howned : d.books.Owned)
    (h : ∀ a, op = .updateAccountStatus a → a.freeze) :
    Debts d (exec op d) := by
  by_cases hact : op.activates
  · cases op with
    | consumeEmailVerification digest now =>
      rw [exec, Op.service, run_discard]
      exact consumeEmailVerification_debts digest now d
    | updateAccountStatus a => simp [Op.activates, h a rfl] at hact
    | _ => cases hact
  · by_cases hcompletes : op.completes
    · have hfresh : (Session.fresh d).work.books.Owned := howned
      cases op with
      | applyRefund a =>
        rw [exec, Op.service, run_discard]
        exact (applyRefund_keeps hfresh).run
      | refundConfirmed a op operationId refundId =>
        rw [exec, Op.service, run_discard]
        exact (refundConfirmed_keeps hfresh).run
      | applyWebhook a =>
        rw [exec, Op.service, run_discard]
        exact (applyWebhook_keeps hfresh).run
      | applyReconciliation a =>
        rw [exec, Op.service, run_discard]
        exact (applyReconciliation_keeps hfresh).run
      | _ => cases hcompletes
    · exact exec_keeps_of keepsMoney_debts (fun h => absurd h hact) (fun h => absurd h hcompletes)
        (fun _ => keepsClaims_debts) (fun i _ => keepsReconcile_debts i) d

theorem exec_frozen {op : Op} {d : DB} {userId : Id} (howned : d.books.Owned)
    (h : d.Frozen userId) :
    (exec op d).Frozen userId ∨
      ∃ a, op = .updateAccountStatus a ∧ a.freeze = false ∧
        a.userId = userId ∧ d.Liftable userId := by
  by_cases hop : ∃ a, op = .updateAccountStatus a ∧ a.freeze = false
  · obtain ⟨a, rfl, ha⟩ := hop
    rw [exec, Op.service, run_discard]
    rcases unfreeze_cases ha d with heq | ⟨hlift, husers, -⟩
    · exact .inl (by rwa [heq])
    · by_cases hid : a.userId = userId
      · exact .inr ⟨a, rfl, ha, hid, hid ▸ hlift⟩
      · left
        have hstill : DB.Frozen { d with
            users := d.users.update (fun u => u.id = a.userId) fun u =>
              { u with status := .active } } userId := by
          refine frozen_update (fun u hu _ hp => absurd ?_ hid) h
          rw [← Table.key_of_get? hu, of_decide_eq_true hp]
        rw [DB.Frozen, husers]
        exact hstill
  · refine .inl ((exec_debts howned fun a ha => ?_).users userId h)
    by_contra hf
    exact hop ⟨a, ha, by simpa using hf⟩

/-- Whoever owes a refund is frozen. -/
structure DB.Secured (d : DB) : Prop where
  owned : d.books.Owned
  frozen : ∀ r ∈ d.refunds.rows, r.status = .risk → d.Frozen r.userId

theorem exec_secured {d : DB} (h : d.Secured) (op : Op) : (exec op d).Secured := by
  have hmoves : Moves .any d.books (exec op d).books :=
    exec_moves (fun _ => trivial) ⟨nofun, fun _ _ => trivial, fun _ _ => trivial⟩
  -- a debt that was there keeps its account frozen
  have old (r : PaymentRefund) (hr : r ∈ d.refunds.rows) (hs : r.status = .risk) :
      (exec op d).Frozen r.userId := by
    rcases exec_frozen h.owned (h.frozen r hr hs) with h | ⟨a, -, -, -, hlift⟩
    · exact h
    · exact absurd hs (hlift.settled r hr rfl)
  refine ⟨Moves.owned hmoves h.owned, fun r hr hs => ?_⟩
  by_cases hop : ∃ a, op = .updateAccountStatus a ∧ a.freeze = false
  · obtain ⟨a, rfl, ha⟩ := hop
    refine old r ?_ hs
    rw [exec, Op.service, run_discard] at hr
    rcases unfreeze_cases ha d with heq | ⟨-, -, hrefunds⟩
    · rwa [heq] at hr
    · rwa [hrefunds] at hr
  · have hdebts : Debts d (exec op d) := exec_debts h.owned fun a ha => by
      by_contra hf
      exact hop ⟨a, ha, by simpa using hf⟩
    rcases hdebts.risks r hr hs with ⟨r₀, h₀, hu, hs₀⟩ | hf
    · exact hu ▸ old r₀ h₀ hs₀
    · exact hf

theorem after_secured {d : DB} (h : d.Secured) (ops : List Op) : (Run.after exec d ops).Secured :=
  have along : Run.Along exec (fun _ _ => True) d ops := Run.along_of_forall d fun _ _ _ => trivial
  have keep (d : DB) (op : Op) (hd : d.Secured) (_ : True) :
  (exec op d).Secured := exec_secured hd op
  Run.invariant keep h along

theorem DB.Opened.secured {d : DB} (h : d.Opened) : d.Secured :=
  ⟨⟨forall_nil h.orders _, forall_nil h.refunds _⟩, forall_nil h.refunds _⟩

/-! ## Gates -/

/-- The call gives the user a reservation, an order, a checkout, a key, a session, a token, or what
a token is for. -/
def Op.admits (userId : Id) (op : Op) (d : DB) : Prop :=
  match op with
  | .reserveModelRequest a =>
    a.userId = userId ∧ ∃ r, (Tx.run (Kunlun.reserveModelRequest a) d).1 = .ok r
  | .createOrder a => a.userId = userId ∧ ∃ o, (Tx.run (Kunlun.createOrder a) d).1 = .ok o
  | .prepareCheckout orderId now lease =>
    (∃ o, d.orders.get? orderId = some o ∧ o.userId = userId) ∧
    ∃ r, (Tx.run (Kunlun.prepareCheckout orderId now lease) d).1 = .ok r
  | .createKey a => a.userId = userId ∧ ∃ u, (Tx.run (Kunlun.createKey a) d).1 = .ok u
  | .login a =>
    (∃ u, userWithEmail a.email d = some u ∧ u.id = userId) ∧ ∃ u,
      (Tx.run (Kunlun.login a) d).1 = .ok u
  | .requestPasswordReset email _ => (∃ u, userWithEmail email d = some u ∧ u.id = userId) ∧
    (exec op d).resetTokens ≠ d.resetTokens
  | .consumeEmailVerification digest now =>
    (∃ t, openEmailToken digest d = some t ∧ t.userId = userId) ∧
    (Tx.run (Kunlun.consumeEmailVerification digest now) d).1 = .ok true
  | .resetPassword a => (∃ t, openResetToken a.digest d = some t ∧ t.userId = userId) ∧
    (Tx.run (Kunlun.resetPassword a) d).1 = .ok true
  | _ => False

section Gates

variable {d : DB}

theorem active_of_admission {a : ReserveArgs} {price : ModelPrice}
    {amount estimatedInput : Int} {u : Unit}
    {t : Session DB} (h : admission a price amount estimatedInput (.fresh d) = (.ok u, t)) :
    ∃ u, d.users.get? a.userId = some u ∧ u.status = .active := by
  unfold admission at h
  obtain ⟨_, _, hfound, h⟩ := (Tx.bind_ok ..).1 h
  obtain ⟨rfl, rfl⟩ := (Tx.select_ok ..).1 hfound
  obtain ⟨user, _, hread, h⟩ := (Tx.bind_ok ..).1 h
  obtain ⟨huser, rfl⟩ := (Tx.orRollback_ok ..).1 hread
  obtain ⟨_, _, hactive, -⟩ := (Tx.bind_ok ..).1 h
  exact ⟨user, huser, not_not.1 ((Tx.rollbackIf_ok ..).1 hactive).1⟩

theorem active_of_reserve {a : ReserveArgs} {r : Reservation}
    (h : (Tx.run (reserveModelRequest a) d).1 = .ok r) :
    ∃ u, d.users.get? a.userId = some u ∧ u.status = .active := by
  have h : reserveModelRequest a (.fresh d) = (.ok r, _) := Prod.ext h rfl
  simp only [reserveModelRequest, conflictsAs_ok, Tx.bind_ok, Tx.select_ok, Tx.orRaise_ok,
    Tx.raiseIf_ok, Tx.lift_ok] at h
  obtain ⟨_, _, ⟨-, rfl⟩, price, _, ⟨-, rfl⟩, _, _, ⟨-, rfl⟩, _, _, ⟨-, rfl⟩, _, _, ⟨-, rfl⟩,
    _, _, ⟨-, rfl⟩, _, _, ⟨-, rfl⟩, _, _, ⟨-, rfl⟩, _, _, ⟨-, rfl⟩, _, _, hadmission, -⟩ := h
  exact active_of_admission hadmission

theorem active_of_createOrder {a : OrderArgs} {o : PaymentOrder}
    (h : (Tx.run (createOrder a) d).1 = .ok o) :
    ∃ u, d.users.get? a.userId = some u ∧ u.status = .active := by
  have h : createOrder a (.fresh d) = (.ok o, _) := Prod.ext h rfl
  unfold createOrder at h
  split at h
  · simp only [Tx.bind_ok, Tx.raiseIf_ok, Tx.select_ok, Tx.orRollback_ok, Tx.rollbackIf_ok] at h
    obtain ⟨_, _, ⟨-, rfl⟩, _, _, ⟨-, rfl⟩, _, _, ⟨rfl, rfl⟩, user, _, ⟨huser, rfl⟩, _, _,
      ⟨hactive, rfl⟩, -⟩ := h
    exact ⟨user, huser, not_not.1 hactive⟩
  · simp at h

theorem active_of_prepareCheckout {orderId : Id} {now lease : Time} {r : PaymentOrder × Bool}
    (h : (Tx.run (prepareCheckout orderId now lease) d).1 = .ok r) :
    ∃ o u, d.orders.get? orderId = some o ∧
      d.users.get? o.userId = some u ∧ u.status = .active := by
  have h : prepareCheckout orderId now lease (.fresh d) = (.ok r, _) := Prod.ext h rfl
  simp only [prepareCheckout, Tx.bind_ok, Tx.select_ok, Tx.orRaise_ok, Tx.orRollback_ok] at h
  obtain ⟨_, _, ⟨rfl, rfl⟩, owned, _, ⟨howned, rfl⟩, _, _, ⟨rfl, rfl⟩, user, _, ⟨huser, rfl⟩, -⟩ :=
    h
  obtain ⟨huser, hactive⟩ := Option.filter_eq_some_iff.1 huser
  exact ⟨owned, user, howned, huser, of_decide_eq_true hactive⟩

theorem active_of_createKey {a : KeyArgs} {u : Unit} (h : (Tx.run (createKey a) d).1 = .ok u) :
    ∃ u, d.users.get? a.userId = some u ∧ u.status = .active := by
  have h : createKey a (.fresh d) = (.ok u, _) := Prod.ext h rfl
  simp only [createKey, enforceKeyLimit, Tx.bind_ok, Tx.tryExcept_ok, Tx.raiseIf_ok, Tx.select_ok,
    Tx.raise_ok, and_false, exists_false, or_false] at h
  obtain ⟨_, _, ⟨_, _, ⟨-, rfl⟩, user, _, ⟨rfl, rfl⟩, _, _, ⟨hfound, rfl⟩, -⟩, -⟩ := h
  obtain ⟨user, huser⟩ := Option.ne_none_iff_exists'.1 hfound
  obtain ⟨huser, hactive⟩ := Option.filter_eq_some_iff.1 huser
  exact ⟨user, huser, (of_decide_eq_true hactive).1⟩

theorem active_of_login {a : LoginArgs} {u : Unit} (h : (Tx.run (login a) d).1 = .ok u) :
    ∃ u, userWithEmail a.email d = some u ∧ u.status = .active := by
  have h : login a (.fresh d) = (.ok u, _) := Prod.ext h rfl
  simp only [login, authenticate, Tx.bind_ok, Tx.select_ok, Tx.orRaise_ok] at h
  obtain ⟨_, _, ⟨rfl, rfl⟩, user, _, ⟨huser, rfl⟩, -⟩ := h
  obtain ⟨huser, hactive⟩ := Option.filter_eq_some_iff.1 huser
  simp only [Bool.and_eq_true, decide_eq_true_eq] at hactive
  exact ⟨user, huser, hactive.1.1⟩

theorem requestPasswordReset_inactive {email : String} {a : TokenArgs} {u : User}
    (hu : userWithEmail email d = some u)
    (hs : u.status ≠ .active) : (Tx.run (requestPasswordReset email a) d).2 = d := by
  have hrun : requestPasswordReset email a (.fresh d) = Tx.rollback (.fresh d) := by
    unfold requestPasswordReset
    refine (Tx.bind_of_ok rfl).trans ?_
    rw [show (userWithEmail email (Session.fresh d).work).filter
      (fun u => decide (u.status = .active)) = none by
      simp [Session.fresh, hu, hs]]
  rw [Tx.run, hrun]
  rfl

theorem pending_of_verification {digest : String} {now : Time}
    (h : (Tx.run (consumeEmailVerification digest now) d).1 = .ok true) :
    ∃ t u, openEmailToken digest d = some t ∧ d.users.get? t.userId = some u ∧
      u.status = .pendingEmail := by
  have h : consumeEmailVerification digest now (.fresh d) = (.ok true, _) := Prod.ext h rfl
  simp only [consumeEmailVerification, Tx.bind_ok, Tx.select_ok] at h
  obtain ⟨_, _, ⟨rfl, rfl⟩, h⟩ := h
  generalize htoken : (openEmailToken digest (Session.fresh d).work).filter _ = token at h
  cases token with
  | none => simp at h
  | some record =>
    simp only [Tx.bind_ok, Tx.select_ok] at h
    obtain ⟨found, _, ⟨hfound, rfl⟩, h⟩ := h
    cases found with
    | none => simp at h
    | some user =>
      obtain ⟨huser, hpending⟩ := Option.filter_eq_some_iff.1 hfound.symm
      exact ⟨record, user, (Option.filter_eq_some_iff.1 htoken).1, huser,
        of_decide_eq_true hpending⟩

theorem active_of_resetPassword {a : ResetArgs} (h : (Tx.run (resetPassword a) d).1 = .ok true) :
    ∃ t u, openResetToken a.digest d = some t ∧
      d.users.get? t.userId = some u ∧ u.status = .active := by
  have h : resetPassword a (.fresh d) = (.ok true, _) := Prod.ext h rfl
  simp only [resetPassword, Tx.bind_ok, Tx.select_ok] at h
  obtain ⟨_, _, ⟨rfl, rfl⟩, h⟩ := h
  generalize htoken : (openResetToken a.digest (Session.fresh d).work).filter _ = token at h
  cases token with
  | none => simp at h
  | some record =>
    simp only [Tx.bind_ok, Tx.select_ok] at h
    obtain ⟨found, _, ⟨hfound, rfl⟩, h⟩ := h
    cases found with
    | none => simp at h
    | some user =>
      obtain ⟨huser, hactive⟩ := Option.filter_eq_some_iff.1 hfound.symm
      exact ⟨record, user, (Option.filter_eq_some_iff.1 htoken).1, huser, of_decide_eq_true hactive⟩

theorem userWithEmail_get? {email : String} {u : User} (h : userWithEmail email d = some u) :
    d.users.get? u.id = some u := Table.get?_of_mem (List.mem_of_find?_eq_some h)

theorem DB.Frozen.not_admitted {userId : Id} (h : d.Frozen userId) (op : Op) :
    ¬ op.admits userId d := by
  obtain ⟨u, hu, hs⟩ := h
  have other {x : User} (hx : d.users.get? userId = some x)
    (ha : x.status = .active ∨ x.status = .pendingEmail) :
      False := by
    obtain rfl := Option.some.inj (hu.symm.trans hx)
    rcases ha with ha | ha <;> simp [hs] at ha
  intro hadmits
  cases op with
  | reserveModelRequest a =>
    obtain ⟨rfl, r, hr⟩ := hadmits
    obtain ⟨x, hx, ha⟩ := active_of_reserve hr
    exact other hx (.inl ha)
  | createOrder a =>
    obtain ⟨rfl, o, ho⟩ := hadmits
    obtain ⟨x, hx, ha⟩ := active_of_createOrder ho
    exact other hx (.inl ha)
  | prepareCheckout orderId now lease =>
    obtain ⟨⟨o, ho, rfl⟩, r, hr⟩ := hadmits
    obtain ⟨o', x, ho', hx, ha⟩ := active_of_prepareCheckout hr
    obtain rfl := Option.some.inj (ho.symm.trans ho')
    exact other hx (.inl ha)
  | createKey a =>
    obtain ⟨rfl, r, hr⟩ := hadmits
    obtain ⟨x, hx, ha⟩ := active_of_createKey hr
    exact other hx (.inl ha)
  | login a =>
    obtain ⟨⟨x, hx, rfl⟩, r, hr⟩ := hadmits
    obtain ⟨y, hy, ha⟩ := active_of_login hr
    obtain rfl := Option.some.inj (hx.symm.trans hy)
    exact other (userWithEmail_get? hx) (.inl ha)
  | requestPasswordReset email a =>
    obtain ⟨⟨x, hx, rfl⟩, hissued⟩ := hadmits
    refine hissued ?_
    rw [exec, Op.service, run_discard, requestPasswordReset_inactive hx]
    exact fun ha => other (userWithEmail_get? hx) (.inl ha)
  | consumeEmailVerification digest now =>
    obtain ⟨⟨t, ht, rfl⟩, hr⟩ := hadmits
    obtain ⟨t', x, ht', hx, ha⟩ := pending_of_verification hr
    obtain rfl := Option.some.inj (ht.symm.trans ht')
    exact other hx (.inr ha)
  | resetPassword a =>
    obtain ⟨⟨t, ht, rfl⟩, hr⟩ := hadmits
    obtain ⟨t', x, ht', hx, ha⟩ := active_of_resetPassword hr
    obtain rfl := Option.some.inj (ht.symm.trans ht')
    exact other hx (.inl ha)
  | _ => exact hadmits

end Gates

/-- In every run from the start: whoever owes a refund is frozen, an operator alone lifts a freeze,
of a verified account without debts, and no gate opens for a frozen account. -/
theorem debts_locked {d : DB} (h : d.Opened) (ops : List Op) :
    (∀ r ∈ (Run.after exec d ops).refunds.rows, r.status = .risk →
      (Run.after exec d ops).Frozen r.userId) ∧
    ∀ userId, (Run.after exec d ops).Frozen userId → ∀ op : Op,
      ¬ op.admits userId (Run.after exec d ops) ∧
      ((exec op (Run.after exec d ops)).Frozen userId ∨ ∃ a,
        op = .updateAccountStatus a ∧ a.freeze = false ∧
        a.userId = userId ∧ (Run.after exec d ops).Liftable userId) := by
  have hsecured := after_secured h.secured ops
  exact ⟨hsecured.frozen, fun userId hf op => ⟨hf.not_admitted op, exec_frozen hsecured.owned hf⟩⟩

theorem debts_locked_out :
    (Run.after exec shop spentRefund).Frozen "u" ∧ ¬ Op.admits "u"
      (.login ⟨"u@example.com", fun _ => true, true, "session", "token", 0⟩)
      (Run.after exec shop spentRefund) := by
  have hrisk := (debts_locked opened_shop spentRefund).1
    ⟨"r", "o", "u", some "refund", "webhook:provider:refunded", 100, "CNY", 5000, .risk,
      some "refund_balance_insufficient", 0⟩ (by decide +kernel) rfl
  exact ⟨hrisk, ((debts_locked opened_shop spentRefund).2 "u" hrisk _).1⟩

end Kunlun
