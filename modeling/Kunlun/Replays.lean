import Kunlun.Debts
import Kunlun.Deliveries

/-!
# Replays of refund commands

A refund that has been completed answers its command again, until its shortfall is resolved.
-/

namespace Kunlun

/-! ## What becomes of an ended refund -/

/-- An ended refund keeps its command and the id of its provider, and leaves its status only as
its shortfall is resolved. -/
structure RefundEnd (r r' : PaymentRefund) : Prop where
  edit : RefundEdit r r'
  status : r'.status = r.status ∨ r.status = .risk ∧ r'.status = .resolved

namespace RefundEnd

variable {r r' r'' : PaymentRefund}

theorem refl (r : PaymentRefund) : RefundEnd r r := ⟨⟨rfl, rfl, rfl, fun _ => rfl⟩, .inl rfl⟩

theorem isActive (h : RefundEnd r r') (hr : r.status.isActive = false) :
    r'.status.isActive = false := by
  rcases h.status with hs | ⟨-, hs⟩
  · rwa [hs]
  · rw [hs]
    rfl

theorem trans (h : RefundEnd r r') (h' : RefundEnd r' r'')
    (hr : r.status.isActive = false) : RefundEnd r r'' := by
  refine ⟨⟨h'.edit.orderId.trans h.edit.orderId, h'.edit.userId.trans h.edit.userId,
    h'.edit.command.trans h.edit.command, fun _ => (h'.edit.provider (h.isActive hr)).trans
      (h.edit.provider hr)⟩, ?_⟩
  rcases h.status with hs | ⟨hs, hs₁⟩
  · rw [← hs]
    exact h'.status
  · rcases h'.status with hs' | ⟨hs', -⟩
    · exact .inr ⟨hs, hs'.trans hs₁⟩
    · simp [hs₁] at hs'

end RefundEnd

section Moves

variable {env : Env} {b b' : Books}

theorem Move.ended (m : Move env b b') {i : Id} {r : PaymentRefund} (h : b.refunds.get? i = some r)
    (hr : r.status.isActive = false) : ∃ r', b'.refunds.get? i = some r' ∧ RefundEnd r r' := by
  cases m with
  | command o x found paid orderId status insert =>
    exact ⟨r, Table.get?_insert_of_some insert h, .refl r⟩
  | reissue p f hf edit =>
    have hp : ¬ p r := fun hp => absurd (edit r (Table.mem_of_get? h) hp).2.1 (by simp [hr])
    exact ⟨r, by rw [Table.get?_update, h]; simp [hp], .refl r⟩
  | reverse o g hg x f hf w recovered j kind found reversible edit refunded source foundRefund
    active orderId editRefund ended wallet nonneg within covered hkind posts post owner key =>
    rename_i refunds _
    have hthere : refunds.get? i = some r := by
      rcases source with rfl | ⟨insert, -⟩
      · exact h
      · exact Table.get?_insert_of_some insert h
    refine ⟨r, ?_, .refl r⟩
    dsimp only
    rw [Table.get?_modify, if_neg, hthere]
    rintro rfl
    obtain rfl := Option.some.inj (hthere.symm.trans foundRefund)
    simp [hr] at active
  | resolve x f hf o g hg w outstanding recovered j kind found atRisk editRefund resolved =>
    dsimp only
    rw [Table.get?_modify]
    by_cases hi : i = x.id
    · subst hi
      obtain rfl := Option.some.inj (found.symm.trans h)
      exact ⟨f x, by simp [found], editRefund, .inr ⟨atRisk, resolved⟩⟩
    · exact ⟨r, by rw [if_neg hi, h], .refl r⟩
  | _ => exact ⟨r, h, .refl r⟩

theorem Moves.ended (m : Moves env b b') {i : Id} {r : PaymentRefund}
    (h : b.refunds.get? i = some r)
    (hr : r.status.isActive = false) : ∃ r', b'.refunds.get? i = some r' ∧ RefundEnd r r' := by
  induction m with
  | refl => exact ⟨r, h, .refl r⟩
  | tail _ m ih =>
    obtain ⟨r₁, h1, he⟩ := ih
    obtain ⟨r₂, h2, he'⟩ := m.ended h1 (he.isActive hr)
    exact ⟨r₂, h2, he.trans he' hr⟩

end Moves

/-! ## What a completion leaves -/

section Completion

variable {a : ApplyRefundArgs} {order : PaymentOrder} {s t : Session DB} {c : Books}

/-- The refund of the command is there, and complete. -/
structure Completed (a : ApplyRefundArgs) (r : PaymentRefund) (b : Books) : Prop where
  orderId : r.orderId = a.orderId
  command : r.idempotencyKey = a.idempotencyKey
  provider : r.providerRefundId = some a.providerRefundId
  inactive : r.status.isActive = false
  order : (b.orders.get? a.orderId).isSome

theorem finishRefund_id {refund r : PaymentRefund}
    (h : finishRefund a order refund s = (.ok r, t)) : r = refund := by
  simp only [finishRefund, Tx.bind_ok, Tx.pure_ok] at h
  obtain ⟨_, _, -, _, _, -, _, _, -, rfl, -⟩ := h
  rfl

/-- The row of a refund after its reversal: what was staged for it, and the end. -/
structure Reversed (staged x : PaymentRefund) : Prop where
  status : x.status = .refunded ∨ x.status = .risk
  orderId : x.orderId = staged.orderId
  command : x.idempotencyKey = staged.idempotencyKey
  provider : x.providerRefundId = staged.providerRefundId

section Reversal

variable {refund row r : PaymentRefund} {refunds : Table PaymentRefund PaymentRefund.id}
  {f : PaymentRefund → PaymentRefund} {hf : ∀ r, (f r).id = r.id} {wallet : Wallet}

theorem reverseInFull_reversed
    (hs : Stages s c { c with refunds := refunds } fun b =>
      { b with refunds := b.refunds.modify row.id f hf })
    (hrow : refunds.get? row.id = some row) (hid : refund.id = row.id)
    (h : reverseInFull a order refund wallet s = (.ok r, t)) :
    r.id = row.id ∧ ∃ x, t.committed.refunds.get? row.id = some x ∧ Reversed (f row) x := by
  simp only [reverseInFull, setBalance, setRefund, Tx.bind_ok] at h
  obtain ⟨_, s₁, h1, _, s₂, h2, _, s₃, h3, h4⟩ := h
  have hs₂ := (hs.add (effect_setBalance ..) h1).add (effect_setRefund ..) h2
  obtain ⟨j, ledger, -, -, -, hs₃⟩ := hs₂.postTransaction h3
  have hb := congrArg Books.refunds (finishRefund_stages hs₃ h4).2
  rw [hid] at hb
  refine ⟨?_, { f row with status := .refunded }, ?_, .inl rfl, rfl, rfl, rfl⟩
  · rw [finishRefund_id h4, ← hid]
  · rw [show t.committed.refunds = _ from hb]
    exact Table.get?_modify_self (Table.get?_modify_self hrow f hf)
      (fun r => { r with status := .refunded }) fun _ => rfl

theorem reverseAtRisk_reversed
    (hs : Stages s c { c with refunds := refunds } fun b =>
      { b with refunds := b.refunds.modify row.id f hf })
    (hrow : refunds.get? row.id = some row) (hid : refund.id = row.id)
    (h : reverseAtRisk a order refund wallet s = (.ok r, t)) :
    r.id = row.id ∧ ∃ x, t.committed.refunds.get? row.id = some x ∧ Reversed (f row) x := by
  simp only [reverseAtRisk, setBalance, setOrder, setRefund, Tx.bind_ok] at h
  obtain ⟨_, s₁, h1, _, s₂, h2, _, s₃, h3, _, s₄, h4, _, s₅, h5, h6⟩ := h
  have hs₁ := hs.add (effect_setBalance ..) h1
  obtain ⟨hc, hw, vs, hp, hv⟩ := applyUserFreeze_ok h2
  have hs₄ := ((hs₁.addAll hv hc hw hp).add (effect_setOrder ..) h3).add (effect_setRefund ..) h4
  obtain ⟨j, ledger, -, -, -, hs₅⟩ := hs₄.postTransaction h5
  have hb := congrArg Books.refunds (finishRefund_stages hs₅ h6).2
  rw [hid] at hb
  refine ⟨?_, { f row with status := .risk, riskReason := some "refund_balance_insufficient" }, ?_,
    .inr rfl, rfl, rfl, rfl⟩
  · rw [finishRefund_id h6, ← hid]
  · rw [show t.committed.refunds = _ from hb]
    exact Table.get?_modify_self (Table.get?_modify_self hrow f hf)
      (fun r => { r with status := .risk, riskReason := some "refund_balance_insufficient" })
        fun _ => rfl

theorem reverseCredit_reversed
    (hs : Stages s c { c with refunds := refunds } fun b =>
      { b with refunds := b.refunds.modify row.id f hf })
    (hrow : refunds.get? row.id = some row) (hid : refund.id = row.id)
    (h : reverseCredit a order refund s = (.ok r, t)) :
    r.id = row.id ∧ ∃ x, t.committed.refunds.get? row.id = some x ∧ Reversed (f row) x := by
  simp only [reverseCredit, Tx.bind_ok, Tx.select_ok, Tx.orRaise_ok, Tx.ite_ok] at h
  obtain ⟨_, _, ⟨-, rfl⟩, wallet, s, ⟨-, rfl⟩, ⟨-, h⟩ | ⟨-, h⟩⟩ := h
  · exact reverseInFull_reversed hs hrow hid h
  · exact reverseAtRisk_reversed hs hrow hid h

end Reversal

theorem applyRefund_completed {r : PaymentRefund} (hs : Staged s)
    (h : applyRefund a s = (.ok r, t)) :
    ∃ x, t.committed.refunds.get? r.id = some x ∧ Completed a x t.committed.books := by
  have hmoves : Moves .any s.committed.books t.committed.books := by
    have hleaves : Tx.Leaves (applyRefund a) s fun d => Moves .any s.committed.books d.books :=
      (carries_applyRefund a).moves s hs
    rwa [Tx.Leaves, h] at hleaves
  simp only [applyRefund, Tx.bind_ok, Tx.select_ok, Tx.orRaise_ok] at h
  obtain ⟨_, _, ⟨rfl, rfl⟩, order, _, ⟨hthere, rfl⟩, found, _, ⟨hfound, rfl⟩, existing, s,
    ⟨hexisting, rfl⟩, h⟩ := h
  rw [show s.work.orders = s.committed.orders from hs.orders] at hthere
  obtain ⟨o, ho, -⟩ := Moves.order hmoves hthere
  have horder : (t.committed.books.orders.get? a.orderId).isSome := Option.isSome_of_eq_some ho
  generalize hdone : existing.filter (fun r => decide (r.status = .refunded ∨ r.status = .risk)) =
    done at h
  cases done with
  | some refund =>
    simp only [Tx.bind_ok, Tx.raiseIf_ok, Tx.pure_ok] at h
    obtain ⟨_, _, ⟨hprovider, rfl⟩, rfl, rfl⟩ := h
    obtain ⟨hrefund, hstatus⟩ := Option.filter_eq_some_iff.1 hdone
    obtain ⟨hget, hid, hkey⟩ := refundWithKey_some (hexisting.symm.trans hrefund)
    refine ⟨r, ?_, hid, hkey, not_not.1 hprovider, ?_, horder⟩
    · rw [← show t.work.refunds = t.committed.refunds from congrArg Books.refunds hs.work]
      exact hget
    · rcases of_decide_eq_true hstatus with hst | hst <;> rw [hst] <;> rfl
  | none =>
    simp only [Tx.bind_ok, Tx.orRaise_ok, Tx.raiseIf_ok] at h
    obtain ⟨order, _, ⟨horder', rfl⟩, _, _, ⟨hne, rfl⟩, amount, _, ⟨-, rfl⟩, currency, s, ⟨-, rfl⟩,
      refund, s₁, hopen, h⟩ := h
    obtain ⟨hfound', hstatus⟩ := Option.filter_eq_some_iff.1 horder'
    rw [hfound] at hfound'
    have hid := Table.key_of_get? hfound'
    have hget : s.committed.books.orders.get? order.id = some order := by
      rw [← hs.work, hid]
      exact hfound'
    rw [← hid] at hexisting
    obtain ⟨refunds, row, f, hf, hrow, hs₁, hr, hkey, hprovider⟩ :=
      openRefund_stages hs hget (by simpa [hne] using hstatus) hexisting hopen
    obtain ⟨hrid, x, hx, hreversed⟩ := reverseCredit_reversed hs₁ hr.inserted hrow h
    refine ⟨x, by rw [hrid, hx], ?_, hreversed.command.trans hkey, hreversed.provider.trans hprovider, ?_, horder⟩
    · rw [hreversed.orderId, hr.edit.orderId, hr.orderId, hid]
    · rcases hreversed.status with hst | hst <;> rw [hst] <;> rfl

end Completion

/-! ## The answers -/

section Answers

variable {a : ApplyRefundArgs} {r : PaymentRefund} {d : DB}

/-- Every later call of the command returns the refund `i` as it is, and changes nothing. -/
def Replayed (a : ApplyRefundArgs) (i : Id) (d : DB) : Prop :=
  ∃ r, d.refunds.get? i = some r ∧
    (∀ c : PrepareRefundArgs, c.orderId = a.orderId → c.idempotencyKey = a.idempotencyKey →
      prepareRefund c (.fresh d) = (.ok (r, false), .fresh d)) ∧
    ∀ c : ApplyRefundArgs, c.orderId = a.orderId → c.idempotencyKey = a.idempotencyKey →
      c.providerRefundId = a.providerRefundId → applyRefund c (.fresh d) = (.ok r, .fresh d)

theorem Completed.withKey (h : Completed a r d.books) (hd : d.Indexed)
    (hr : d.refunds.get? r.id = some r) :
    refundWithKey a.orderId a.idempotencyKey d = some r := by
  rw [← h.orderId, ← h.command]
  exact refundWithKey_of_get? hd hr

theorem prepareRefund_existing {c : PrepareRefundArgs} (hkey : c.idempotencyKey ≠ "")
    (hr : refundWithKey c.orderId c.idempotencyKey d = some r) :
    prepareRefund c (.fresh d) = reclaimRefund r c.now c.lease (.fresh d) := by
  unfold prepareRefund
  rw [Tx.raiseIf_bind hkey, Tx.select_bind]
  dsimp only [Session.fresh]
  rw [hr]

theorem reclaimRefund_completed (hs : r.status = .refunded ∨ r.status = .risk) (now lease : Time) :
    reclaimRefund r now lease (.fresh d) = (.ok (r, false), .fresh d) := by
  unfold reclaimRefund
  rcases hs with hs | hs <;> rw [hs] <;> rfl

theorem applyRefund_existing {c : ApplyRefundArgs} {o : PaymentOrder}
    (ho : d.orders.get? c.orderId = some o)
    (hr : refundWithKey c.orderId c.idempotencyKey d = some r)
    (hs : r.status = .refunded ∨ r.status = .risk)
    (hprovider : r.providerRefundId = some c.providerRefundId) :
    applyRefund c (.fresh d) = (.ok r, .fresh d) := by
  have hfilter : (refundWithKey c.orderId c.idempotencyKey (Session.fresh d).work).filter
      (fun r => decide (r.status = .refunded ∨ r.status = .risk)) = some r := by
    dsimp only [Session.fresh]
    rw [hr, Option.filter_eq_some_iff]
    exact ⟨rfl, decide_eq_true hs⟩
  have ho' : (Session.fresh d).work.orders.get? c.orderId = some o := ho
  unfold applyRefund
  rw [Tx.select_bind, Tx.orRaise_bind ho', Tx.select_bind, Tx.select_bind, hfilter]
  dsimp only
  rw [Tx.raiseIf_bind (not_not.2 hprovider)]
  rfl

theorem replayed_iff (h : Completed a r d.books) (hd : d.Indexed)
    (hr : d.refunds.get? r.id = some r) :
    Replayed a r.id d ↔ a.idempotencyKey ≠ "" ∧ r.status ≠ .resolved := by
  have hkey := h.withKey hd hr
  constructor
  · rintro ⟨x, -, hprepare, -⟩
    have hrun := hprepare ⟨a.orderId, a.idempotencyKey, 0, 0, "", 0⟩ rfl rfl
    have hne : a.idempotencyKey ≠ "" := by
      intro hempty
      unfold prepareRefund at hrun
      rw [Tx.raiseIf_raises hempty] at hrun
      cases hrun
    refine ⟨hne, fun hs => ?_⟩
    rw [prepareRefund_existing hne hkey, reclaimRefund, hs] at hrun
    cases hrun
  · rintro ⟨hne, hs⟩
    have hended : r.status = .refunded ∨ r.status = .risk := by
      have := h.inactive
      cases hst : r.status <;> simp_all [RefundStatus.isActive]
    refine ⟨r, hr, fun c horder hc => ?_, fun c horder hc hprovider => ?_⟩
    · rw [prepareRefund_existing (by rw [hc]; exact hne) (by rw [horder, hc, hkey])]
      exact reclaimRefund_completed hended ..
    · obtain ⟨o, ho⟩ := Option.isSome_iff_exists.1 h.order
      exact applyRefund_existing (by rw [horder]; exact ho) (by rw [horder, hc, hkey]) hended
        (by rw [hprovider, h.provider])

end Answers

/-! ## Runs -/

theorem Staged.tracks_indexed {s : Session DB} (hs : Staged s) : Tx.Tracks indexed s where
  work := indexed_of_eq hs.orders (congrArg Books.refunds hs.work)
  pending w hw := ⟨fun d e he =>
    indexed_of_eq (congrArg Books.orders (hs.pending w hw d e he))
      (congrArg Books.refunds (hs.pending w hw d e he))⟩

theorem Completed.after {a : ApplyRefundArgs} {r : PaymentRefund} {b b' : Books} {env : Env}
    (h : Completed a r b)
    (m : Moves env b b') (hr : b.refunds.get? r.id = some r) :
    ∃ r', b'.refunds.get? r.id = some r' ∧ r'.id = r.id ∧ Completed a r' b' := by
  obtain ⟨r', hr', he⟩ := m.ended hr h.inactive
  obtain ⟨o, ho⟩ := Option.isSome_iff_exists.1 h.order
  obtain ⟨o', ho', -⟩ := m.order ho
  exact ⟨r', hr', Table.key_of_get? hr', he.edit.orderId.trans h.orderId,
    he.edit.command.trans h.command, (he.edit.provider h.inactive).trans h.provider,
    he.isActive h.inactive, Option.isSome_of_eq_some ho'⟩

/-- Once a call has completed a refund, in a session `s` that may have an event or an audit
staged, its command is answered with that refund in every later state, unless its shortfall has
been resolved. -/
theorem refunds_replayed {d₀ : DB} (hd₀ : d₀.Opened) (past : List Op)
    {s t : Session DB} (hs : Staged s)
    (hcommitted : s.committed = Run.after exec d₀ past) {a : ApplyRefundArgs} {r : PaymentRefund}
    (happly : applyRefund a s = (.ok r, t)) {d : DB}
    (hd : d.books = t.committed.books) (ops : List Op) :
    Replayed a r.id (Run.after exec d ops) ↔ a.idempotencyKey ≠ "" ∧
      ∀ x, (Run.after exec d ops).refunds.get? r.id = some x → x.status ≠ .resolved := by
  have hindexed : t.committed.Indexed := by
    have hkept := (keepsMoney_indexed.applyRefund keepsAll_indexed.toKeepsRisk a).committed
      s hs.tracks_indexed
    rw [happly] at hkept
    rw [hcommitted] at hkept
    exact hkept (after_keeps keepsAll_indexed d₀ past hd₀.indexed)
  obtain ⟨x, hx, hcompleted⟩ := applyRefund_completed hs happly
  have hid := Table.key_of_get? hx
  rw [show t.committed.refunds = d.books.refunds from congrArg Books.refunds hd.symm] at hx
  rw [← hd] at hcompleted
  have hmoves : Moves .any d.books (Run.after exec d ops).books := after_moves .any trivial
    (Run.along_of_forall d fun _ _ _ => ⟨nofun, fun _ _ => trivial, fun _ _ => trivial⟩)
  obtain ⟨y, hy, hyid, hycompleted⟩ := hcompleted.after hmoves (by rw [hid]; exact hx)
  have hdindexed : d.Indexed := by
    refine indexed_of_eq ?_ ?_ hindexed
    · exact congrArg Books.orders hd
    · exact congrArg Books.refunds hd
  have hy' : (Run.after exec d ops).refunds.get? y.id = some y := by
    rw [hyid]
    exact hy
  have hiff := replayed_iff hycompleted (after_keeps keepsAll_indexed d ops hdindexed) hy'
  rw [hid] at hyid
  rw [hyid] at hiff hy'
  rw [hiff]
  simp [hy']

/-- The order whose credit is held, before its refund. -/
def spentOrder : List Op := spentRefund.take 3

def orderRefund : ApplyRefundArgs := ⟨"o", "command", "refund", 0, "r", "x'", 0⟩

theorem refunds_replayed_at_risk :
    Replayed orderRefund "r" (Run.after exec
      (exec (.applyRefund orderRefund) (Run.after exec shop spentOrder)) []) := by
  have happly : applyRefund orderRefund (.fresh (Run.after exec shop spentOrder)) =
    (.ok ⟨"r", "o", "u", some "refund", "command", 100, "CNY", 5000, .risk,
      some "refund_balance_insufficient", 0⟩, _) :=
    Prod.ext (by decide +kernel) rfl
  have hexec : (exec (.applyRefund orderRefund) (Run.after exec shop spentOrder)).books =
      (applyRefund orderRefund (.fresh (Run.after exec shop spentOrder))).2.committed.books := by
    rw [exec, Op.service, run_discard]
    rfl
  refine (refunds_replayed opened_shop spentOrder (staged_fresh _) rfl happly hexec []).2
    ⟨by decide, fun x hx => ?_⟩
  have hall : ((exec (.applyRefund orderRefund) (Run.after exec shop spentOrder)).refunds.get?
    "r").all
      fun x => x.status ≠ .resolved := by decide +kernel
  rw [show (exec (.applyRefund orderRefund) (Run.after exec shop spentOrder)).refunds.get? "r" =
    some x from hx] at hall
  exact of_decide_eq_true hall

/-- The hold ends, and an operator recovers the shortfall from what it gives back. -/
def recovery : List Op := [
  .releaseModelRequest ⟨"q", "provider_failed", [.reserved], .failed, .release⟩,
  .disposeRefundRisk ⟨"r", "recover_available", "k", "x\""⟩ ⟨"ops", "ops:payments", "token", none,
    "reason"⟩ "operation"]

theorem refund_not_replayed :
    ¬ ∀ (d₀ : DB) (past ops : List Op) (a : ApplyRefundArgs) (r : PaymentRefund)
    (t : Session DB), d₀.Opened → applyRefund a (.fresh (Run.after exec d₀ past)) = (.ok r, t) →
      Replayed a r.id (Run.after exec t.committed ops) := by
  intro h
  have happly : applyRefund orderRefund (.fresh (Run.after exec shop spentOrder)) =
    (.ok ⟨"r", "o", "u", some "refund", "command", 100, "CNY", 5000, .risk,
      some "refund_balance_insufficient", 0⟩, _) :=
    Prod.ext (by decide +kernel) rfl
  obtain ⟨x, -, hprepare, -⟩ := h shop spentOrder recovery orderRefund _ _ opened_shop happly
  have hrun := congrArg Prod.fst (hprepare ⟨"o", "command", 0, 0, "", 0⟩ rfl rfl)
  have hraise : (prepareRefund ⟨"o", "command", 0, 0, "", 0⟩ (.fresh (Run.after exec
      (applyRefund orderRefund (.fresh (Run.after exec shop spentOrder))).2.committed
        recovery))).1 =
      .error (.paymentDomain "退款状态需要人工核对" 409) := by decide +kernel
  rw [hraise] at hrun
  cases hrun

end Kunlun
