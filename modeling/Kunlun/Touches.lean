import Kunlun.Keeps
import Kunlun.Moves.Billing

/-!
# What a service touches

The status of an account, an order, a refund or a request, and the amounts of a wallet, are
left alone by the services that do not have them as their subject.
-/

namespace Kunlun

/-! ## Objects -/

inductive Object where
  | user (id : Id)
  | order (id : Id)
  | refund (id : Id)
  | request (id : Id)
  | wallet (userId : Id)

/-- The object has the status that it had, and the wallet its amounts. -/
def Object.Same (d e : DB) : Object → Prop
  | user i => (e.users.get? i).map User.status = (d.users.get? i).map User.status
  | order i => (e.orders.get? i).map PaymentOrder.status = (d.orders.get? i).map PaymentOrder.status
  | refund i =>
    (e.refunds.get? i).map PaymentRefund.status = (d.refunds.get? i).map PaymentRefund.status
  | request i =>
    (e.requests.get? i).map ModelRequest.status = (d.requests.get? i).map ModelRequest.status
  | wallet i => e.wallets.get? i = d.wallets.get? i

theorem Object.Same.trans {x : Object} {d e f : DB} (h : x.Same d e)
    (h' : x.Same e f) : x.Same d f := by
  cases x <;> exact Eq.trans h' h

/-- Nothing but these objects is changed. -/
def touching (S : Object → Prop) : Track DB where
  rel d e := ∀ x, ¬ S x → x.Same d e
  refl _ x _ := by cases x <;> rfl
  trans h h' x hx := (h x hx).trans (h' x hx)

section Touching

variable {S : Object → Prop}

theorem touching_of_eq {d e : DB} (hu : e.users = d.users) (ho : e.orders = d.orders)
    (hr : e.refunds = d.refunds)
    (hq : e.requests = d.requests) (hw : e.wallets = d.wallets) : (touching S).rel d e := by
  intro x _
  cases x <;> simp [Object.Same, hu, ho, hr, hq, hw]

/-! ## Statements -/

theorem touching_updateUsers (p : User → Bool) (f : User → User) (hf : ∀ u, (f u).id = u.id)
    (h : ∀ u, p u → S (.user u.id) ∨ (f u).status = u.status) :
    Kept (touching S) (DB.flushing (DB.updateUsers p f hf)) := by
  refine ⟨fun d e he x hx => ?_⟩
  obtain rfl := Option.some.inj he
  cases x with
  | user i =>
    exact Table.map_get?_update hf fun u hu hp => (h u hp).resolve_left fun hs =>
      hx (Table.key_of_get? hu ▸ hs)
  | _ => rfl

theorem touching_updateOrders (p : PaymentOrder → Bool) (f : PaymentOrder → PaymentOrder)
    (hf : ∀ o, (f o).id = o.id)
    (h : ∀ o, p o → S (.order o.id) ∨ (f o).status = o.status) :
    Kept (touching S) (DB.flushing (DB.updateOrders p f hf)) := by
  refine ⟨fun d e he x hx => ?_⟩
  obtain rfl := of_update_unique he
  cases x with
  | order i =>
    exact Table.map_get?_update hf fun o ho hp => (h o hp).resolve_left fun hs =>
      hx (Table.key_of_get? ho ▸ hs)
  | _ => rfl

theorem touching_updateRefunds (p : PaymentRefund → Bool) (f : PaymentRefund → PaymentRefund)
    (hf : ∀ r, (f r).id = r.id) (h : ∀ r, p r → S (.refund r.id) ∨ (f r).status = r.status) :
    Kept (touching S) (DB.flushing (DB.updateRefunds p f hf)) := by
  refine ⟨fun d e he x hx => ?_⟩
  obtain rfl := of_update_unique he
  cases x with
  | refund i =>
    exact Table.map_get?_update hf fun r hr hp => (h r hp).resolve_left fun hs =>
      hx (Table.key_of_get? hr ▸ hs)
  | _ => rfl

theorem touching_updateRequests (p : ModelRequest → Bool) (f : ModelRequest → ModelRequest)
    (hf : ∀ r, (f r).id = r.id) (h : ∀ r, p r → S (.request r.id) ∨ (f r).status = r.status) :
    Kept (touching S) (DB.flushing (DB.updateRequests p f hf)) := by
  refine ⟨fun d e he x hx => ?_⟩
  obtain rfl := Option.some.inj he
  cases x with
  | request i =>
    exact Table.map_get?_update hf fun r hr hp => (h r hp).resolve_left fun hs =>
      hx (Table.key_of_get? hr ▸ hs)
  | _ => rfl

theorem touching_updateWallets (p : Wallet → Bool) (f : Wallet → Wallet)
    (hf : ∀ w, (f w).userId = w.userId)
    (h : ∀ w, p w → S (.wallet w.userId)) : Kept (touching S)
    (DB.flushing (DB.updateWallets p f hf)) := by
  refine ⟨fun d e he x hx => ?_⟩
  obtain rfl := Option.some.inj he
  cases x with
  | wallet i => exact Table.get?_update_of_not hf fun w hw hp => hx (hw ▸ h w hp)
  | _ => rfl

theorem touching_apart {w : DB → Option DB}
    (h : ∀ d e, w d = some e → e.users = d.users ∧ e.orders = d.orders ∧
    e.refunds = d.refunds ∧ e.requests = d.requests ∧ e.wallets = d.wallets) :
    Kept (touching S) w := by
  refine ⟨fun d e he => ?_⟩
  obtain ⟨hu, ho, hr, hq, hw⟩ := h d e he
  exact touching_of_eq hu ho hr hq hw

/-! ## Services -/

theorem touching_setOrder (i : Id) (f : PaymentOrder → PaymentOrder) (hf : ∀ o, (f o).id = o.id)
    (h : S (.order i) ∨ ∀ o, (f o).status = o.status) : Keeps (touching S) (setOrder i f hf) := by
  refine Tx.keeps_add (touching_updateOrders _ _ _ fun o ho => ?_)
  rw [of_decide_eq_true ho]
  exact h.imp_right fun h => h o

theorem touching_setRefund (i : Id) (f : PaymentRefund → PaymentRefund) (hf : ∀ r, (f r).id = r.id)
    (h : S (.refund i)) : Keeps (touching S) (setRefund i f hf) := by
  refine Tx.keeps_add (touching_updateRefunds _ _ _ fun r hr => ?_)
  rw [of_decide_eq_true hr]
  exact .inl h

theorem touching_setBalance (userId : Id) (balance : Int) (h : S (.wallet userId)) :
    Keeps (touching S) (setBalance userId balance) := by
  refine Tx.keeps_add (touching_updateWallets _ _ _ fun w hw => ?_)
  rwa [of_decide_eq_true hw]

theorem touching_insertLedger (j : LedgerTransaction) : Kept (touching S) (DB.insertLedger j) :=
  touching_apart fun d e h => by obtain ⟨t, rfl⟩ := of_insert h; exact ⟨rfl, rfl, rfl, rfl, rfl⟩

theorem touching_insertEvent (x : PaymentWebhookEvent) : Kept (touching S) (DB.insertEvent x) :=
  touching_apart fun d e h => by obtain ⟨t, rfl⟩ := of_insert_unique h; exact ⟨rfl,
    rfl, rfl, rfl, rfl⟩

theorem touching_insertOutbox (x : OutboxEvent) : Kept (touching S) (DB.insertOutbox x) :=
  touching_apart fun d e h => by obtain rfl := Option.some.inj h; exact ⟨rfl, rfl, rfl, rfl, rfl⟩

theorem touching_insertAction (x : OperatorAction) : Kept (touching S) (DB.insertAction x) :=
  touching_apart fun d e h => by obtain rfl := Option.some.inj h; exact ⟨rfl, rfl, rfl, rfl, rfl⟩

theorem touching_postTransaction (userId : Id) (kind : LedgerKind) (reference key : String)
    (entries : List (Account × Int)) : Keeps (touching S)
    (postTransaction userId kind reference key entries) := by
  unfold postTransaction
  split
  · exact Tx.keeps_bind (Tx.keeps_add (touching_insertLedger _)) fun _ => by simp
  · simp

theorem touching_applyUserFreeze (userId : Id) (now : Time) (h : S (.user userId)) :
    Keeps (touching S) (applyUserFreeze userId now) := by
  have apart {w : DB → Option DB} (hw : ∀ d e, w d = some e → e.users = d.users ∧
    e.orders = d.orders ∧
      e.refunds = d.refunds ∧ e.requests = d.requests ∧ e.wallets = d.wallets) :
      Kept (touching S) w :=
    touching_apart hw
  refine Tx.keeps_bind (by simp) fun found => ?_
  cases found with
  | none => simp
  | some _ =>
    refine Tx.keeps_bind (Tx.keeps_add (touching_updateUsers _ _ _ fun u hu => ?_)) fun _ => ?_
    · rw [of_decide_eq_true hu]
      exact .inl h
    refine Tx.keeps_bind (keeps_execute (apart ?_)) fun _ => ?_
    · rintro d e ⟨⟩; exact ⟨rfl, rfl, rfl, rfl, rfl⟩
    refine Tx.keeps_bind (keeps_execute (apart ?_)) fun _ => ?_
    · rintro d e ⟨⟩; exact ⟨rfl, rfl, rfl, rfl, rfl⟩
    refine Tx.keeps_bind (keeps_execute (apart ?_)) fun _ => ?_
    · rintro d e ⟨⟩; exact ⟨rfl, rfl, rfl, rfl, rfl⟩
    refine Tx.keeps_bind (keeps_execute (apart ?_)) fun _ => by simp
    rintro d e ⟨⟩
    exact ⟨rfl, rfl, rfl, rfl, rfl⟩

theorem touching_openRefund {a : ApplyRefundArgs} {order : PaymentOrder}
    {refund : PaymentRefund} {amount : Int}
    {currency : String} (h : S (.refund refund.id)) :
    Keeps (touching S) (openRefund a order (some refund) amount currency) := by
  refine Tx.keeps_bind (by simp) fun _ => Tx.keeps_bind (by simp) fun _ => ?_
  exact keeps_then_return (touching_setRefund _ _ _ h) _

theorem touching_finishRefund {a : ApplyRefundArgs} {order : PaymentOrder} {refund : PaymentRefund}
    (h : S (.order order.id)) : Keeps (touching S) (finishRefund a order refund) := by
  refine Tx.keeps_bind (touching_setOrder _ _ _ (.inl h)) fun _ => ?_
  refine Tx.keeps_bind (Tx.keeps_add (touching_insertOutbox _)) fun _ => ?_
  exact keeps_then_return (keeps_conflictsAs _ (by simp)) _

theorem touching_reverseCredit {a : ApplyRefundArgs} {order : PaymentOrder} {refund : PaymentRefund}
    (horder : S (.order order.id)) (hrefund : S (.refund refund.id))
    (huser : S (.user order.userId))
    (hwallet : S (.wallet order.userId)) : Keeps (touching S) (reverseCredit a order refund) := by
  refine Tx.keeps_bind (by simp) fun _ => Tx.keeps_bind (by simp) fun wallet => ?_
  refine Tx.keeps_ite _ (fun _ => ?_) fun _ => ?_
  · refine Tx.keeps_bind (touching_setBalance _ _ hwallet) fun _ => ?_
    refine Tx.keeps_bind (touching_setRefund _ _ _ hrefund) fun _ => ?_
    exact Tx.keeps_bind (touching_postTransaction ..) fun _ => touching_finishRefund horder
  · refine Tx.keeps_bind (touching_setBalance _ _ hwallet) fun _ => ?_
    refine Tx.keeps_bind (touching_applyUserFreeze _ _ huser) fun _ => ?_
    refine Tx.keeps_bind (touching_setOrder _ _ _ (.inl horder)) fun _ => ?_
    refine Tx.keeps_bind (touching_setRefund _ _ _ hrefund) fun _ => ?_
    exact Tx.keeps_bind (touching_postTransaction ..) fun _ => touching_finishRefund horder

theorem touching_applyRefund {a : ApplyRefundArgs} {s : Session DB} {refund : PaymentRefund}
    (hcommand : refundWithKey a.orderId a.idempotencyKey s.work = some refund)
    (hrefund : S (.refund refund.id))
    (horder : S (.order a.orderId))
    (huser : ∀ o, s.work.orders.get? a.orderId = some o → S (.user o.userId) ∧
      S (.wallet o.userId)) :
    Tx.KeepsFrom (touching S) s (applyRefund a) := by
  unfold applyRefund
  refine Tx.keepsFrom_select_bind (Tx.keepsFrom_orRaise_bind fun _ _ => ?_)
  refine Tx.keepsFrom_select_bind (Tx.keepsFrom_select_bind ?_)
  rw [hcommand]
  split
  · exact (Tx.keeps_bind (by simp) fun _ => by simp).from s
  · refine Tx.keepsFrom_orRaise_bind fun order ho => ?_
    obtain ⟨hfound, -⟩ := Option.filter_eq_some_iff.1 ho
    have hid := Table.key_of_get? hfound
    obtain ⟨hu, hw⟩ := huser order hfound
    refine Tx.keepsFrom_raiseIf_bind fun _ => Tx.keepsFrom_orRaise_bind fun amount _ => ?_
    refine Tx.keepsFrom_orRaise_bind fun currency _ => ?_
    refine Tx.keepsFrom_bind ((touching_openRefund hrefund).from s) fun _ r t hopen => ?_
    have hr : r.id = refund.id := by
      simp only [openRefund, setRefund, Tx.bind_ok, Tx.raiseIf_ok, Tx.add_ok, Tx.pure_ok] at hopen
      obtain ⟨_, _, -, _, _, -, _, _, -, rfl, -⟩ := hopen
      rfl
    exact (touching_reverseCredit (hid ▸ horder) (hr ▸ hrefund) hu hw).from t

/-! ## Payments -/

theorem touching_applyProgressEvent (a : WebhookArgs) (order : PaymentOrder) (kind : EventStatus)
    (h : S (.order order.id)) : Keeps (touching S) (applyProgressEvent a order kind) := by
  refine Tx.keeps_bind (by simp) fun _ =>
    Tx.keeps_bind (Tx.keeps_add (touching_insertEvent _)) fun _ => ?_
  refine Tx.keeps_bind (touching_setOrder _ _ _ (.inl h)) fun _ => ?_
  exact keeps_then_return (keeps_conflictsAs _ (by simp)) _

theorem touching_creditOrder (a : WebhookArgs) (order : PaymentOrder) (h : S (.order order.id))
    (hw : S (.wallet order.userId)) : Keeps (touching S) (creditOrder a order) := by
  refine Tx.keeps_bind (Tx.keeps_add (touching_insertEvent _)) fun _ => ?_
  refine Tx.keeps_bind (keeps_execute (touching_updateOrders _ _ _ fun o ho => ?_)) fun _ => ?_
  · rw [Bool.and_eq_true, decide_eq_true_eq] at ho
    rw [ho.1]
    exact .inl h
  refine Tx.keeps_bind (by simp) fun _ => Tx.keeps_bind (by simp) fun _ =>
    Tx.keeps_bind (by simp) fun _ => ?_
  refine Tx.keeps_bind (touching_setBalance _ _ hw) fun _ =>
    Tx.keeps_bind (touching_postTransaction ..) fun _ => ?_
  refine Tx.keeps_bind (Tx.keeps_add (touching_insertOutbox _)) fun _ => ?_
  exact keeps_then_return (keeps_conflictsAs _ (by simp)) _

theorem touching_applyWebhook {a : WebhookArgs} {s : Session DB}
    (hkind : validEvent a.eventType ≠ some .refunded)
    (horder : S (.order a.orderId))
    (hw : ∀ o, s.work.orders.get? a.orderId = some o → S (.wallet o.userId)) :
    Tx.KeepsFrom (touching S) s (applyWebhook a) := by
  unfold applyWebhook
  refine Tx.keepsFrom_raiseIf_bind fun _ => Tx.keepsFrom_select_bind ?_
  split
  · exact (Tx.keeps_bind (by simp) fun _ => Tx.keeps_bind (by simp) fun _ => by simp).from s
  · refine Tx.keepsFrom_select_bind (Tx.keepsFrom_raiseIf_bind fun _ => ?_)
    unfold dispatchEvent
    refine Tx.keepsFrom_select_bind (Tx.keepsFrom_orRaise_bind fun order ho => ?_)
    obtain ⟨hfound, -⟩ := Option.filter_eq_some_iff.1 ho
    have hid := Table.key_of_get? hfound
    refine Tx.keepsFrom_raiseIf_bind fun _ => Tx.keepsFrom_raiseIf_bind fun _ => ?_
    refine Tx.keepsFrom_orRaise_bind fun kind hk => ?_
    have hk := (Option.filter_eq_some_iff.1 hk).1
    have hpaid : Keeps (touching S) (applyPaidEvent a order) := by
      refine Tx.keeps_ite _ (fun _ => touching_creditOrder a order (hid ▸ horder) (hw order hfound))
        fun _ => ?_
      exact Tx.keeps_bind (by simp) fun _ => Tx.keeps_bind (by simp) fun _ => by simp
    have hprogress (kind : EventStatus) : Keeps (touching S) (applyProgressEvent a order kind) :=
      touching_applyProgressEvent a order kind (hid ▸ horder)
    cases kind with
    | refunded => exact absurd hk hkind
    | paid => exact (Tx.keeps_bind (by simp) fun _ => hpaid).from s
    | _ => exact (Tx.keeps_bind (by simp) fun _ => hprogress _).from s

theorem touching_disposeShortfall {a : ResolveArgs} {refund : PaymentRefund}
    {order : PaymentOrder} {wallet : Wallet}
    {outstanding : Int} (hrefund : S (.refund refund.id)) (hw : S (.wallet refund.userId)) :
    Keeps (touching S) (disposeShortfall a refund order wallet outstanding) := by
  refine Tx.keeps_bind (touching_setBalance _ _ hw) fun _ =>
    Tx.keeps_bind (touching_postTransaction ..) fun _ => ?_
  refine Tx.keeps_bind (touching_setRefund _ _ _ hrefund) fun _ => ?_
  refine Tx.keeps_bind (touching_setOrder _ _ _ (.inr fun _ => rfl)) fun _ => ?_
  exact keeps_then_return (Tx.keeps_add (touching_insertOutbox _)) _

theorem touching_resolveRefundRisk {a : ResolveArgs} {s : Session DB}
    (hrefund : S (.refund a.refundId))
    (hw : ∀ r, s.work.refunds.get? a.refundId = some r → S (.wallet r.userId)) :
    Tx.KeepsFrom (touching S) s (resolveRefundRisk a) := by
  unfold resolveRefundRisk
  refine Tx.keepsFrom_raiseIf_bind fun _ =>
    Tx.keepsFrom_select_bind (Tx.keepsFrom_orRaise_bind fun refund hr => ?_)
  have hid := Table.key_of_get? hr
  refine Tx.keepsFrom_select_bind ?_
  split
  · exact (Tx.keeps_bind (by simp) fun _ => by simp).from s
  · have hdispose (order : PaymentOrder) (wallet : Wallet) (net : Int) :
        Keeps (touching S) (disposeShortfall a refund order wallet net) :=
      touching_disposeShortfall (hid ▸ hrefund) (hw refund hr)
    refine (Tx.keeps_bind (by simp) fun _ => Tx.keeps_bind (by simp) fun _ =>
      Tx.keeps_bind (by simp) fun order => ?_).from s
    iterate 6 refine Tx.keeps_bind (by simp) fun _ => ?_
    exact hdispose ..

/-! ## Model requests -/

theorem touching_finishHold {request set : ModelRequest} {back charged : Int}
    {kind : LedgerKind} {key : String}
    {entries : List (Account × Int)} {written : Bool} (h : S (.request request.id))
    (hw : S (.wallet request.userId)) :
    Keeps (touching S) (finishHold request set back charged kind key entries written) := by
  refine Tx.keeps_bind ?_ fun _ => Tx.keeps_bind (touching_postTransaction ..) fun _ => ?_
  · refine Tx.keeps_bind (keeps_execute (touching_updateWallets _ _ _ fun w hp => ?_)) fun _ => ?_
    · rw [Bool.and_eq_true, decide_eq_true_eq] at hp
      rwa [hp.1]
    refine Tx.keeps_bind (by simp) fun _ => ?_
    cases request.budgetId with
    | none => simp
    | some _ =>
      refine Tx.keeps_bind (keeps_execute (touching_apart ?_)) fun _ => by simp
      rintro d e ⟨⟩
      exact ⟨rfl, rfl, rfl, rfl, rfl⟩
  · refine Tx.keeps_bind (by simp) fun _ => ?_
    refine Tx.keeps_bind (Tx.keeps_add (touching_updateRequests _ _ _ fun r hr => ?_))
      fun _ => by simp
    rw [of_decide_eq_true hr]
    exact .inl h

theorem touching_settleModelRequest {a : SettleArgs} {s : Session DB} (h : S (.request a.requestId))
    (hw : ∀ r, s.work.requests.get? a.requestId = some r → S (.wallet r.userId)) :
    Tx.KeepsFrom (touching S) s (settleModelRequest a) := by
  have hread : Keeps (touching S) (settleable a.requestId a.allowedStatuses) :=
    Tx.keeps_bind (by simp) fun _ => Tx.keeps_bind (by simp) fun _ =>
      Tx.keeps_bind (by simp) fun _ => by simp
  refine Tx.keepsFrom_bind (hread.from s) fun _ r t hr => ?_
  obtain ⟨hfound, -, rfl⟩ := settleable_ok hr
  have hid := Table.key_of_get? hfound
  refine (Tx.keeps_bind (by simp) fun usage => ?_).from t
  iterate 4 refine Tx.keeps_bind (by simp) fun _ => ?_
  exact keeps_then_return (touching_finishHold (hid ▸ h) (hw r hfound)) _

theorem touching_releaseModelRequest {a : ReleaseArgs} {s : Session DB}
    (h : S (.request a.requestId))
    (hw : ∀ r, s.work.requests.get? a.requestId = some r → S (.wallet r.userId)) :
    Tx.KeepsFrom (touching S) s (releaseModelRequest a) := by
  unfold releaseModelRequest
  refine Tx.keepsFrom_select_bind ?_
  cases hr : releasable a.requestId a.allowedStatuses s.work with
  | none => exact (Tx.keeps_pure _).from s
  | some r =>
    obtain ⟨hfound, hid, -⟩ := releasable_some hr
    exact (touching_finishHold (hid ▸ h) (hw r (hid ▸ hfound))).from s

/-! ## Accounts -/

theorem touching_updateAccountStatus {a : AccountStatusArgs} (h : S (.user a.userId)) :
    Keeps (touching S) (updateAccountStatus a) := by
  refine Tx.keeps_bind (by simp) fun _ => Tx.keeps_bind (by simp) fun user =>
    Tx.keeps_bind ?_ fun _ => ?_
  · refine Tx.keeps_ite _ (fun _ => Tx.keeps_ite _ (fun _ => by simp) fun _ => ?_) fun hf => ?_
    · exact keeps_then_return (touching_applyUserFreeze _ _ h) _
    · iterate 4 refine Tx.keeps_bind (by simp) fun _ => ?_
      refine Tx.keeps_add (touching_updateUsers _ _ _ fun u hu => ?_)
      rw [of_decide_eq_true hu]
      exact .inl h
  · exact Tx.keeps_bind (Tx.keeps_add (touching_insertAction _)) fun _ => by simp

/-! ## Orders -/

theorem touching_claimReconciliation {a : ReconcileArgs} (h : S (.order a.orderId)) :
    Keeps (touching S) (claimReconciliation a) := by
  refine Tx.keeps_select_bind fun d => Tx.keeps_orRaise_bind fun order ho => ?_
  have hid := Table.key_of_get? (Option.filter_eq_some_iff.1 ho).1
  iterate 3 refine Tx.keeps_bind (by simp) fun _ => ?_
  refine Tx.keeps_bind (touching_setOrder _ _ _ (.inl (hid ▸ h))) fun _ => ?_
  refine Tx.keeps_bind (Tx.keeps_add (touching_insertAction _)) fun _ => ?_
  exact keeps_then_return (by simp) _

theorem touching_closeReconciliation (a : ReconcileAnswer) (duplicate : Bool) :
    Keeps (touching S) (closeReconciliation a duplicate) := by
  refine Tx.keeps_bind ?_ fun _ =>
    Tx.keeps_bind (keeps_execute (touching_updateOrders _ _ _ fun _ _ => .inr rfl)) fun _ => ?_
  · exact Tx.keeps_ite _ (fun _ => Tx.keeps_add (touching_insertAction _)) fun _ => by simp
  · exact keeps_then_return (by simp) _

end Touching

end Kunlun
