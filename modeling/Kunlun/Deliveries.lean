import Kunlun.Gateway
import Kunlun.Indexes

/-!
# Deliveries of one event

An event that was accepted has a row, under which the event id and the nonce stand for its
body from then on. One of the exits that accept an event leaves no row.
-/

namespace Kunlun

theorem DB.Opened.indexed {d : DB} (h : d.Opened) : d.Indexed := by
  constructor
  · simp [h.orders, uniqueOrders, unique]
  · simp [h.refunds, uniqueRefunds, unique]

/-! ## Rows stay -/

/-- The rows of events stay, under the indexes of their table. -/
def eventsGrow : Track DB where
  rel d e := (∀ x ∈ d.events.rows, x ∈ e.events.rows) ∧
    (uniqueEvents d.events.rows → uniqueEvents e.events.rows)
  refl _ := ⟨fun _ => id, id⟩
  trans h h' := ⟨fun x hx => h'.1 x (h.1 x hx), fun hu => h'.2 (h.2 hu)⟩

theorem eventsGrow_of_eq {d e : DB} (h : e.events = d.events) : eventsGrow.rel d e := by
  show (∀ x ∈ d.events.rows, x ∈ e.events.rows) ∧ _
  rw [h]
  exact ⟨fun _ => id, id⟩

theorem updateOrders_eventsGrow (p : PaymentOrder → Bool) (f : PaymentOrder → PaymentOrder)
    (hf : ∀ o, (f o).id = o.id) :
    Kept eventsGrow (DB.flushing (DB.updateOrders p f hf)) :=
  ⟨fun d e h => by obtain rfl := of_update_unique h; exact eventsGrow_of_eq rfl⟩

theorem updateRefunds_eventsGrow (p : PaymentRefund → Bool) (f : PaymentRefund → PaymentRefund)
    (hf : ∀ r, (f r).id = r.id) : Kept eventsGrow (DB.flushing (DB.updateRefunds p f hf)) :=
  ⟨fun d e h => by obtain rfl := of_update_unique h; exact eventsGrow_of_eq rfl⟩

theorem keepsMoney_eventsGrow : KeepsMoney eventsGrow := by
  refine keepsMoney_of (keepsAccounts_of (fun _ _ _ _ _ _ _ => eventsGrow_of_eq rfl) fun _ _ _ _ =>
    ?_)
    (fun _ _ _ _ _ => eventsGrow_of_eq rfl) (fun _ => ?_) (fun _ => ?_)
      (fun _ => ?_) (fun _ _ => ?_)
    (fun p f hf _ => updateOrders_eventsGrow p f hf) fun p f hf _ => updateRefunds_eventsGrow p f hf
  · exact ⟨fun d e h => by obtain rfl := Option.some.inj h; exact eventsGrow_of_eq rfl⟩
  · exact ⟨fun d e h => by obtain ⟨t, rfl⟩ := of_insert_unique h; exact eventsGrow_of_eq rfl⟩
  · refine ⟨fun d e h => ?_⟩
    simp only [DB.insertEvent, Option.bind_eq_some_iff, Option.ite_none_right_eq_some] at h
    obtain ⟨t, ht, hu, h⟩ := h
    obtain rfl := Option.some.inj h
    exact ⟨fun x hx => (Table.mem_insert ht).2 (.inl hx), fun _ => hu⟩
  · exact ⟨fun d e h => by obtain ⟨t, rfl⟩ := of_insert_unique h; exact eventsGrow_of_eq rfl⟩
  · exact ⟨fun d e h => by obtain ⟨t, rfl⟩ := of_insert_unique h; exact eventsGrow_of_eq rfl⟩

theorem keepsAll_eventsGrow : KeepsAll eventsGrow where
  toKeepsMoney := keepsMoney_eventsGrow
  atRisk _ := updateRefunds_eventsGrow ..
  verify _ _ := ⟨fun d e h => by obtain rfl := Option.some.inj h; exact eventsGrow_of_eq rfl⟩
  unfreeze _ := ⟨fun d e h => by obtain rfl := Option.some.inj h; exact eventsGrow_of_eq rfl⟩
  regrant _ _ _ _ _ _ := updateRefunds_eventsGrow ..
  uncertain _ _ := updateRefunds_eventsGrow ..
  reconcile _ := ⟨fun _ _ => updateOrders_eventsGrow .., updateOrders_eventsGrow .., fun _ =>
    updateOrders_eventsGrow ..⟩

/-! ## What is added is committed -/

attribute [simp] Tx.binds_pure Tx.binds_raise Tx.binds_lift Tx.binds_select Tx.binds_raiseIf
  Tx.binds_rollbackIf Tx.binds_orRaise Tx.binds_flush Tx.binds_commit Tx.settles_commit

section Settles

variable {K : Track DB} {P : DB → Prop} (h : KeepsMoney K) (hP : ∀ d e, K.rel d e → P d → P e)

include hP in
theorem holds_of_kept {w : DB → Option DB} (hw : Kept K w) : Tx.Holds P w :=
  fun d e he => hP d e (hw.rel d e he)

theorem settles_commitOr (e : Exc) : Tx.Settles P (conflictsAs e Tx.commit) :=
  Tx.settles_tryExcept Tx.settles_commit fun _ s a t => by simp

theorem binds_conflictsAs {x : Service α} (e : Exc) (hx : Tx.Binds P x) :
    Tx.Binds P (conflictsAs e x) :=
  Tx.binds_tryExcept hx fun _ s a t => by simp

include h hP

theorem binds_setOrder (orderId : Id) (f : PaymentOrder → PaymentOrder) (hf : ∀ o, (f o).id = o.id)
    (hstep : ∀ o, OrderStep o (f o)) : Tx.Binds P (setOrder orderId f hf) :=
  Tx.binds_add (holds_of_kept hP (h.orders _ _ _ fun o _ => hstep o))

theorem binds_setBalance (userId : Id) (balance : Int) : Tx.Binds P (setBalance userId balance) :=
  Tx.binds_add (holds_of_kept hP (h.wallets ..))

theorem binds_postTransaction (userId : Id) (kind : LedgerKind) (reference key : String)
    (entries : List (Account × Int)) :
    Tx.Binds P (postTransaction userId kind reference key entries) := by
  unfold postTransaction
  split
  · exact Tx.binds_bind (Tx.binds_add (holds_of_kept hP (h.ledger _))) fun _ => Tx.binds_flush
  · exact Tx.binds_raise _

theorem binds_applyUserFreeze (userId : Id) (now : Time) :
    Tx.Binds P (applyUserFreeze userId now) := by
  refine Tx.binds_bind (by simp) fun found => ?_
  cases found with
  | none => simp
  | some _ =>
    refine Tx.binds_bind (Tx.binds_add (holds_of_kept hP (h.users _ _ _ fun _ _ => .inl rfl)))
      fun _ => ?_
    refine Tx.binds_bind (Tx.binds_execute (holds_of_kept hP (h.apiKeys ..))) fun _ => ?_
    refine Tx.binds_bind (Tx.binds_execute (holds_of_kept hP (h.accessSessions ..))) fun _ => ?_
    refine Tx.binds_bind (Tx.binds_execute (holds_of_kept hP (h.emailTokens ..))) fun _ => ?_
    exact Tx.binds_bind (Tx.binds_execute (holds_of_kept hP (h.resetTokens ..))) fun _ => by simp

theorem binds_openRefund (a : ApplyRefundArgs) (order : PaymentOrder)
    (existing : Option PaymentRefund) (amount : Int)
    (currency : String) : Tx.Binds P (openRefund a order existing amount currency) := by
  cases existing with
  | none =>
    refine Tx.binds_bind (Tx.binds_add (holds_of_kept hP (h.refund _ (by simp [newRefund]))))
      fun _ => ?_
    exact Tx.binds_bind (binds_conflictsAs _ (by simp)) fun _ => by simp
  | some refund =>
    refine Tx.binds_bind (by simp) fun _ => Tx.binds_bind (by simp) fun _ =>
      Tx.binds_bind ?_ fun _ => by simp
    refine Tx.binds_add (holds_of_kept hP (h.refunds _ _ _ ?_))
    exact fun _ _ => ⟨rfl, ⟨rfl, rfl⟩, .inl ⟨rfl, rfl⟩⟩

theorem binds_finishRefund (a : ApplyRefundArgs) (order : PaymentOrder) (refund : PaymentRefund) :
    Tx.Binds P (finishRefund a order refund) := by
  refine Tx.binds_bind (binds_setOrder h hP _ _ _ fun o => .ended rfl rfl) fun _ => ?_
  refine Tx.binds_bind (Tx.binds_add (holds_of_kept hP (h.outbox _))) fun _ => ?_
  exact Tx.binds_bind (binds_conflictsAs _ (by simp)) fun _ => by simp

theorem binds_reverseCredit (hrisk : KeepsRisk K) (a : ApplyRefundArgs) (order : PaymentOrder)
    (refund : PaymentRefund) : Tx.Binds P (reverseCredit a order refund) := by
  refine Tx.binds_bind (by simp) fun _ => Tx.binds_bind (by simp) fun wallet => Tx.binds_ite _ ?_ ?_
  · refine Tx.binds_bind (binds_setBalance h hP ..) fun _ => ?_
    refine Tx.binds_bind (Tx.binds_add
      (holds_of_kept hP (h.refunds _ _ _ fun r _ => ⟨rfl, ⟨rfl, rfl⟩, .inr (.inl rfl)⟩))) fun _ =>
        ?_
    exact Tx.binds_bind (binds_postTransaction h hP ..) fun _ => binds_finishRefund h hP ..
  · refine Tx.binds_bind (binds_setBalance h hP ..) fun _ =>
      Tx.binds_bind (binds_applyUserFreeze h hP ..) fun _ => ?_
    refine Tx.binds_bind (binds_setOrder h hP _ _ _ fun o => .same rfl rfl rfl) fun _ => ?_
    refine Tx.binds_bind (Tx.binds_add (holds_of_kept hP (hrisk.atRisk _))) fun _ => ?_
    exact Tx.binds_bind (binds_postTransaction h hP ..) fun _ => binds_finishRefund h hP ..

theorem binds_applyRefund (hrisk : KeepsRisk K) (a : ApplyRefundArgs) :
    Tx.Binds P (applyRefund a) := by
  unfold applyRefund
  iterate 4 refine Tx.binds_bind (by simp) fun _ => ?_
  split
  · exact Tx.binds_bind (by simp) fun _ => by simp
  · iterate 4 refine Tx.binds_bind (by simp) fun _ => ?_
    exact Tx.binds_bind (binds_openRefund h hP ..) fun refund => binds_reverseCredit h hP hrisk ..

end Settles

/-! ## An accepted event has a row -/

/-- The event has a row under its event id, its nonce and its body. -/
def Recorded (a : WebhookArgs) (d : DB) : Prop :=
  ∃ e ∈ d.events.rows, e.provider = a.provider ∧ e.eventId = a.eventId ∧ e.nonce = a.nonceText ∧
    e.rawDigest = a.rawDigest

/-- The exit that leaves no row: a new event says that an order is paid which is paid. -/
def PaidReplay (a : WebhookArgs) (d : DB) : Prop :=
  eventWithId a.provider a.eventId d = none ∧ validEvent a.eventType = some .paid ∧
    ∃ o, d.orders.get? a.orderId = some o ∧ o.status = .paid

section Recorded

variable {a : WebhookArgs}

theorem Recorded.grow {d e : DB} (h : eventsGrow.rel d e) (hr : Recorded a d) : Recorded a e := by
  obtain ⟨x, hx, hr⟩ := hr
  exact ⟨x, h.1 x hx, hr⟩

/-- Code that has recorded the event, where it returns. -/
structure Records (a : WebhookArgs) {α : Type} (x : Service α) : Prop where
  recorded : ∀ s b t, (∀ w ∈ s.pending, Tx.Holds (Recorded a) w) → x s = (.ok b, t) →
    Recorded a t.committed

theorem records_recordEvent {α : Type} (order : PaymentOrder)
    (status : WebhookStatus) {x : Service α}
    (hx : Tx.Settles (Recorded a) x) : Records a (recordEvent a order status >>= fun _ => x) := by
  refine ⟨fun s b t hs h => ?_⟩
  obtain ⟨_, s', h1, h2⟩ := (Tx.bind_ok ..).1 h
  obtain rfl := (Tx.add_ok ..).1 h1
  refine hx.committed _ b t (Tx.bound_add hs fun d e hw => ?_) h2
  simp only [DB.insertEvent, Option.bind_eq_some_iff, Option.ite_none_right_eq_some] at hw
  obtain ⟨rows, ht, -, hw⟩ := hw
  obtain rfl := Option.some.inj hw
  exact ⟨_, (Table.mem_insert ht).2 (.inr rfl), rfl, rfl, rfl, rfl⟩

theorem records_raise {α : Type} (e : Exc) : Records a (Tx.raise e : Service α) :=
  ⟨fun _ _ _ _ h => absurd ((Tx.raise_ok ..).1 h) not_false⟩

theorem records_select {α β : Type} (f : DB → α) {x : α → Service β} (hx : ∀ c, Records a (x c)) :
    Records a (Tx.select f >>= x) := by
  refine ⟨fun s b t hs h => ?_⟩
  obtain ⟨c, s', h1, h2⟩ := (Tx.bind_ok ..).1 h
  obtain ⟨-, rfl⟩ := (Tx.select_ok ..).1 h1
  exact (hx c).recorded _ b t hs h2

theorem records_raiseIf {α : Type} (c : Prop) [Decidable c] (e : Exc)
    {x : Service α} (hx : Records a x) :
    Records a (Tx.raiseIf c e >>= fun _ => x) := by
  refine ⟨fun s b t hs h => ?_⟩
  obtain ⟨_, s', h1, h2⟩ := (Tx.bind_ok ..).1 h
  obtain ⟨-, rfl⟩ := (Tx.raiseIf_ok ..).1 h1
  exact hx.recorded _ b t hs h2

theorem records_completeRefund (order : PaymentOrder) (key providerRefundId : String) :
    Records a (completeRefund a order key providerRefundId) := by
  refine records_recordEvent _ _
    (Tx.settles_bind ?_ fun _ => Tx.settles_then_return Tx.settles_commit _)
  exact binds_applyRefund keepsMoney_eventsGrow (fun _ _ => Recorded.grow)
    keepsAll_eventsGrow.toKeepsRisk _

theorem records_applyRefundEvent (order : PaymentOrder) (providerRefundId : String) :
    Records a (applyRefundEvent a order providerRefundId) := by
  unfold applyRefundEvent
  split
  · refine records_select _ fun _ => records_raiseIf _ _ (records_recordEvent _ _ ?_)
    exact Tx.settles_then_return (settles_commitOr _) _
  · refine records_select _ fun active => ?_
    split
    · exact records_raiseIf _ _ (records_completeRefund ..)
    · exact records_raise _
  · exact records_completeRefund ..
  · exact records_raise _

theorem records_applyProgressEvent (order : PaymentOrder) (kind : EventStatus) :
    Records a (applyProgressEvent a order kind) := by
  refine records_raiseIf _ _ (records_recordEvent _ _ (Tx.settles_bind ?_ fun _ => ?_))
  · exact Tx.binds_add (holds_of_kept (fun _ _ => Recorded.grow) (updateOrders_eventsGrow ..))
  · exact Tx.settles_then_return (settles_commitOr _) _

theorem records_creditOrder (order : PaymentOrder) : Records a (creditOrder a order) := by
  have hk := keepsMoney_eventsGrow
  have hP : ∀ d e, eventsGrow.rel d e → Recorded a d → Recorded a e := fun _ _ => Recorded.grow
  refine records_recordEvent _ _
    (Tx.settles_bind (Tx.binds_execute (holds_of_kept hP (updateOrders_eventsGrow ..))) fun _ => ?_)
  refine Tx.settles_bind (by simp) fun _ => Tx.settles_bind (by simp) fun _ =>
    Tx.settles_bind (by simp) fun _ => ?_
  refine Tx.settles_bind (binds_setBalance hk hP ..) fun _ =>
    Tx.settles_bind (binds_postTransaction hk hP ..) fun _ => ?_
  refine Tx.settles_bind (Tx.binds_add (holds_of_kept hP (hk.outbox _))) fun _ => ?_
  exact Tx.settles_then_return (settles_commitOr _) _

theorem applyPaidEvent_records {order : PaymentOrder} {s t : Session DB} {b : Bool}
    (hs : ∀ w ∈ s.pending, Tx.Holds (Recorded a) w) (h : applyPaidEvent a order s = (.ok b, t)) :
    Recorded a t.committed ∨ order.status = .paid ∧ t = .fresh s.committed := by
  unfold applyPaidEvent at h
  rcases (Tx.ite_ok ..).1 h with ⟨-, h⟩ | ⟨-, h⟩
  · exact .inl ((records_creditOrder order).recorded s b t hs h)
  · simp only [Tx.bind_ok, Tx.raiseIf_ok, Tx.rollback_ok, Tx.pure_ok] at h
    obtain ⟨_, _, ⟨hpaid, rfl⟩, _, _, rfl, -, rfl⟩ := h
    exact .inr ⟨(not_not.1 hpaid).2, rfl⟩

theorem dispatchEvent_records {s t : Session DB} {b : Bool}
    (hs : ∀ w ∈ s.pending, Tx.Holds (Recorded a) w)
    (h : dispatchEvent a s = (.ok b, t)) :
    Recorded a t.committed ∨ validEvent a.eventType = some .paid ∧
      (∃ o, s.work.orders.get? a.orderId = some o ∧ o.status = .paid) ∧ t = .fresh s.committed := by
  simp only [dispatchEvent, Tx.bind_ok, Tx.select_ok, Tx.orRaise_ok, Tx.raiseIf_ok] at h
  obtain ⟨_, _, ⟨rfl, rfl⟩, order, _, ⟨hfound, rfl⟩, _, _, ⟨-, rfl⟩, _, _, ⟨-, rfl⟩, kind, _,
    ⟨hkind, rfl⟩, h⟩ := h
  cases kind with
  | refunded =>
    cases hid : a.providerRefundId with
    | none => simp [hid] at h
    | some providerRefundId =>
      by_cases hempty : providerRefundId = ""
      · simp [hid, hempty, Option.filter] at h
      · simp only [hid, Option.filter, ne_eq, hempty, not_false_eq_true,
          decide_true, ↓reduceIte] at h
        exact .inl ((records_applyRefundEvent order providerRefundId).recorded _ b t hs h)
  | paid =>
    simp only [Tx.bind_ok, Tx.raiseIf_ok] at h
    obtain ⟨_, _, ⟨-, rfl⟩, h⟩ := h
    rcases applyPaidEvent_records hs h with hr | ⟨hpaid, ht⟩
    · exact .inl hr
    · exact .inr ⟨(Option.filter_eq_some_iff.1 hkind).1,
        ⟨order, (Option.filter_eq_some_iff.1 hfound).1, hpaid⟩, ht⟩
  | pending | failed | closed =>
    simp only [Tx.bind_ok, Tx.raiseIf_ok] at h
    obtain ⟨_, _, ⟨-, rfl⟩, h⟩ := h
    exact .inl ((records_applyProgressEvent order _).recorded _ b t hs h)

/-- An accepted event has a row, but for one exit. -/
theorem applyWebhook_records {s t : Session DB} {b : Bool}
    (hs : ∀ w ∈ s.pending, Tx.Holds (Recorded a) w)
    (hw : s.work = s.committed) (h : applyWebhook a s = (.ok b, t)) :
    Recorded a t.committed ∨ PaidReplay a s.work ∧ t = .fresh s.committed := by
  simp only [applyWebhook, Tx.bind_ok, Tx.select_ok, Tx.raiseIf_ok] at h
  obtain ⟨_, _, ⟨-, rfl⟩, existing, _, ⟨hex, rfl⟩, h⟩ := h
  cases existing with
  | some existing =>
    simp only [Tx.bind_ok, Tx.raiseIf_ok, Tx.rollback_ok, Tx.pure_ok] at h
    obtain ⟨_, _, ⟨hsame, rfl⟩, _, _, rfl, -, rfl⟩ := h
    push Not at hsame
    have hid := List.find?_some hex.symm
    simp only [decide_eq_true_eq] at hid
    exact .inl ⟨existing, hw ▸ List.mem_of_find?_eq_some hex.symm, hid.1, hid.2, hsame.2, hsame.1⟩
  | none =>
    simp only [Tx.bind_ok, Tx.select_ok, Tx.raiseIf_ok] at h
    obtain ⟨_, _, ⟨-, rfl⟩, _, _, ⟨-, rfl⟩, h⟩ := h
    rcases dispatchEvent_records hs h with hr | ⟨hpaid, ho, ht⟩
    · exact .inl hr
    · exact .inr ⟨⟨hex.symm, hpaid, ho⟩, ht⟩

/-! ## A row stands for its body -/

theorem applyWebhook_agrees {a' : WebhookArgs} {s t : Session DB} {b : Bool}
    (hu : uniqueEvents s.work.events.rows)
    (hr : Recorded a s.work) (hp : a'.provider = a.provider)
    (hsame : a'.eventId = a.eventId ∨ a'.nonceText = a.nonceText)
    (h : applyWebhook a' s = (.ok b, t)) :
    a'.rawDigest = a.rawDigest := by
  obtain ⟨e, he, hprovider, hid, hnonce, hdigest⟩ := hr
  rw [uniqueEvents, Bool.and_eq_true] at hu
  simp only [applyWebhook, Tx.bind_ok, Tx.select_ok, Tx.raiseIf_ok] at h
  obtain ⟨_, _, ⟨-, rfl⟩, existing, _, ⟨hex, rfl⟩, h⟩ := h
  cases existing with
  | some existing =>
    simp only [Tx.bind_ok, Tx.raiseIf_ok] at h
    obtain ⟨_, _, ⟨hmatch, -⟩, -⟩ := h
    push Not at hmatch
    have hmem := List.mem_of_find?_eq_some hex.symm
    have hfound := List.find?_some hex.symm
    simp only [decide_eq_true_eq] at hfound
    have heq : existing = e := by
      rcases hsame with hsame | hsame
      · exact unique_injective hu.1 hmem he (by simp [hfound, hprovider, hid, hp, hsame])
      · exact unique_injective hu.2 hmem he (by simp [hfound, hmatch, hprovider, hnonce, hp, hsame])
    rw [← hmatch.1, heq, hdigest]
  | none =>
    simp only [Tx.bind_ok, Tx.select_ok, Tx.raiseIf_ok] at h
    obtain ⟨_, _, ⟨rfl, rfl⟩, _, _, ⟨hfresh, -⟩, -⟩ := h
    rcases hsame with hsame | hsame
    · have hno := List.find?_eq_none.1 hex.symm e he
      simp [hprovider, hid, hp, hsame] at hno
    · simp only [eventWithNonce, List.find?_isSome, not_exists, not_and] at hfresh
      exact absurd (hfresh e he) (by simp [hprovider, hnonce, hp, hsame])

/-! ## The exit without a row -/

/-- What the exit that leaves no row has checked. -/
structure PaidAgain (a : WebhookArgs) (d : DB) (o : PaymentOrder) : Prop where
  complete : ¬ (a.eventId = "" ∨ a.nonceText = "" ∨ a.rawDigest = "" ∨ a.providerTransactionId = "")
  newId : eventWithId a.provider a.eventId d = none
  newNonce : eventWithNonce a.provider a.nonceText d = none
  found : d.orders.get? a.orderId = some o
  provider : o.provider = a.provider
  amount : o.paymentAmountMinor = some a.paymentAmountMinor
  currency : o.paymentCurrency = some a.paymentCurrency
  transaction : o.providerTransactionId = some a.providerTransactionId
  paid : o.status = .paid
  type : validEvent a.eventType = some .paid
  status : a.status = "paid"
  noRefund : a.providerRefundId = none

theorem PaidAgain.accepted {o : PaymentOrder} {s : Session DB} (h : PaidAgain a s.work o) :
    applyWebhook a s = (.ok true, .fresh s.committed) := by
  have hfound : (s.work.orders.get? a.orderId).filter
      (fun o => o.provider = a.provider) = some o := by
    simp [h.found, Option.filter, h.provider]
  have hkind : (validEvent a.eventType).filter (fun k => k.text = a.status) = some .paid := by
    simp [h.type, Option.filter, EventStatus.text, h.status]
  have hpaid : applyPaidEvent a o s = (.ok true, .fresh s.committed) := by
    simp [applyPaidEvent, OrderStatus.isOpen, h.paid, h.transaction]
  have hdispatch : dispatchEvent a s = (.ok true, .fresh s.committed) := by
    simp only [dispatchEvent, Tx.bind_ok, Tx.select_ok, Tx.orRaise_ok, Tx.raiseIf_ok]
    refine ⟨_, s, ⟨rfl, rfl⟩, o, s, ⟨hfound, rfl⟩, (), s, ⟨by simp [h.amount, h.currency], rfl⟩, (),
      s, ⟨by simp [h.transaction], rfl⟩, .paid, s, ⟨hkind, rfl⟩, ?_⟩
    simp only [Tx.bind_ok, Tx.raiseIf_ok]
    exact ⟨(), s, ⟨by simp [h.noRefund], rfl⟩, hpaid⟩
  simp only [applyWebhook, Tx.bind_ok, Tx.select_ok, Tx.raiseIf_ok]
  refine ⟨(), s, ⟨h.complete, rfl⟩, none, s, ⟨h.newId.symm, rfl⟩, ?_⟩
  simp only [Tx.bind_ok, Tx.select_ok, Tx.raiseIf_ok]
  exact ⟨none, s, ⟨h.newNonce.symm, rfl⟩, (), s, ⟨by simp, rfl⟩, hdispatch⟩

theorem PaidAgain.body {o : PaymentOrder} {d : DB} (h : PaidAgain a d o)
    {digest : String} (hd : digest ≠ "") :
    PaidAgain { a with rawDigest := digest } d o := by
  have hc := h.complete
  push Not at hc
  have hc' : ¬ (a.eventId = "" ∨ a.nonceText = "" ∨ digest = "" ∨
    a.providerTransactionId = "") := by
    simp [hc, hd]
  exact { h with complete := hc' }

theorem PaidReplay.again {s t : Session DB} {b : Bool} (hr : PaidReplay a s.work)
    (h : applyWebhook a s = (.ok b, t)) :
    ∃ o, PaidAgain a s.work o := by
  obtain ⟨hid, htype, o, ho, hpaid⟩ := hr
  simp only [applyWebhook, Tx.bind_ok, Tx.select_ok, Tx.raiseIf_ok] at h
  obtain ⟨_, _, ⟨hcomplete, rfl⟩, existing, _, ⟨hex, rfl⟩, h⟩ := h
  obtain rfl := hex.trans hid
  simp only [dispatchEvent, Tx.bind_ok, Tx.select_ok, Tx.orRaise_ok, Tx.raiseIf_ok] at h
  obtain ⟨_, _, ⟨rfl, rfl⟩, _, _, ⟨hnonce, rfl⟩, _, _, ⟨rfl, rfl⟩, order, _, ⟨hfound, rfl⟩, _, _,
    ⟨hquote, rfl⟩, _, _, ⟨htransaction, rfl⟩, kind, _, ⟨hkind, rfl⟩, h⟩ := h
  rw [ho, Option.filter_eq_some_iff] at hfound
  obtain ⟨hsome, hprovider⟩ := hfound
  obtain rfl := Option.some.inj hsome
  rw [htype, Option.filter_eq_some_iff] at hkind
  obtain ⟨hsome, hstatus⟩ := hkind
  obtain rfl := Option.some.inj hsome
  simp only [applyPaidEvent, OrderStatus.isOpen, hpaid, Bool.false_eq_true, ↓reduceIte, Tx.bind_ok,
    Tx.raiseIf_ok] at h
  obtain ⟨_, _, ⟨hrefund, rfl⟩, _, _, ⟨hsame, -⟩, -⟩ := h
  push Not at hquote hrefund
  exact ⟨o, hcomplete, hid, by simpa using hnonce, ho, by simpa using hprovider, hquote.1, hquote.2,
    (not_not.1 hsame).1, hpaid, htype, (of_decide_eq_true hstatus).symm, hrefund⟩

end Recorded

/-! ## Runs -/

/-- The session in which the answer of a query is applied. -/
def stagedSession (r : ReconcileAnswer) (d : DB) : Session DB :=
  { Session.fresh d with pending := [DB.insertAction (reconcileAction r r.claim.operationId)] }

/-- The event of a call of `apply_webhook` that returned. -/
def Op.accepted (op : Op) (d : DB) : Option WebhookArgs :=
  match op with
  | .applyWebhook a => if (Kunlun.applyWebhook a (.fresh d)).1.isOk then some a else none
  | .applyReconciliation a =>
    if (Kunlun.applyWebhook a.event (stagedSession a d)).1.isOk then some a.event else none
  | _ => none

theorem accepted_of {a : WebhookArgs} {d : DB} (h : (applyWebhook a (.fresh d)).1.isOk) :
    Op.accepted (.applyWebhook a) d = some a := if_pos h

theorem isOk_iff {α : Type} {x : Service α} {s : Session DB} :
    (x s).1.isOk = true ↔ ∃ a t, x s = (.ok a, t) := by
  rcases h : x s with ⟨r, t⟩
  cases r <;> simp [Except.isOk, Except.toBool]

theorem applyReconciliation_call {r : ReconcileAnswer} {d : DB} {b : Bool} {t : Session DB}
    (h : applyWebhook r.event (stagedSession r d) = (.ok b, t)) :
    applyReconciliation r (.fresh d) = closeReconciliation r b t := by
  rw [applyReconciliation_eq]
  exact (Tx.bind_of_ok rfl).trans (Tx.bind_of_ok ((answering_ok ..).2 h))

theorem tracks_stagedSession (r : ReconcileAnswer) (d : DB) :
    Tx.Tracks eventsGrow (stagedSession r d) := by
  refine ⟨eventsGrow.refl d, fun w hw => ?_⟩
  rw [List.mem_singleton.1 hw]
  exact keepsMoney_eventsGrow.action _

theorem accepted_session {op : Op} {d : DB} {a : WebhookArgs} (h : op.accepted d = some a) :
    ∃ s b t, applyWebhook a s = (.ok b, t) ∧ s.work = d ∧ s.committed = d ∧ Tx.Tracks eventsGrow s ∧
      eventsGrow.rel t.committed (exec op d) := by
  cases op with
  | applyWebhook a' =>
    obtain ⟨hok, heq⟩ := Option.ite_none_right_eq_some.1 h
    obtain rfl := Option.some.inj heq
    obtain ⟨b, t, hrun⟩ := isOk_iff.1 hok
    refine ⟨.fresh d, b, t, hrun, rfl, rfl, Tx.tracks_fresh d, ?_⟩
    rw [exec, Op.service, run_discard, Tx.run, hrun]
    exact eventsGrow.refl _
  | applyReconciliation r =>
    obtain ⟨hok, heq⟩ := Option.ite_none_right_eq_some.1 h
    obtain rfl := Option.some.inj heq
    obtain ⟨b, t, hrun⟩ := isOk_iff.1 hok
    have hkeeps : Keeps eventsGrow (Kunlun.applyWebhook r.event) :=
      keepsMoney_eventsGrow.applyWebhook
      (fun _ => keepsAll_eventsGrow.toKeepsRisk) fun _ => keepsAll_eventsGrow.reconcile _
    have htracks := hkeeps.tracks _ (tracks_stagedSession r d)
    rw [hrun] at htracks
    refine ⟨_, b, t, hrun, rfl, rfl, tracks_stagedSession r d, ?_⟩
    rw [exec, Op.service, run_discard, Tx.run, applyReconciliation_call hrun]
    exact (keepsMoney_eventsGrow.closeReconciliation (keepsAll_eventsGrow.reconcile _) b).committed
      t htracks
  | _ => cases h

theorem accepted_records {op : Op} {d : DB} {a : WebhookArgs} (h : op.accepted d = some a)
    (hr : ¬ PaidReplay a d) :
    Recorded a (exec op d) := by
  obtain ⟨s, b, t, hrun, rfl, hcommitted, hs, hgrow⟩ := accepted_session h
  rcases applyWebhook_records
    (fun w hw => holds_of_kept (fun _ _ => Recorded.grow) (hs.pending w hw)) hcommitted.symm
    hrun with hrec | ⟨hreplay, -⟩
  · exact hrec.grow hgrow
  · exact absurd hreplay hr

theorem accepted_agrees {op : Op} {d : DB} {a a' : WebhookArgs} (hu : uniqueEvents d.events.rows)
    (h : op.accepted d = some a') (hr : Recorded a d) (hp : a'.provider = a.provider)
    (hsame : a'.eventId = a.eventId ∨ a'.nonceText = a.nonceText) : a'.rawDigest = a.rawDigest := by
  obtain ⟨s, b, t, hrun, rfl, -, -, -⟩ := accepted_session h
  exact applyWebhook_agrees hu hr hp hsame hrun

theorem atomic_closeReconciliation (r : ReconcileAnswer) (duplicate : Bool) :
    Tx.Atomic (closeReconciliation r duplicate) := by
  refine Tx.atomic_bind ?_ fun _ => Tx.atomic_bind (by simp) fun _ => by simp
  unfold auditDuplicate
  split <;> simp

theorem PaidAgain.close {a : WebhookArgs} {d : DB} {o : PaymentOrder} (h : PaidAgain a d o)
    (r : ReconcileAnswer) :
    ∃ o, PaidAgain a (Tx.run (closeReconciliation r true) d).2 o := by
  rcases Tx.run_cases (atomic_closeReconciliation r true) d with
    heq | ⟨u, t, hrun, heq⟩ <;> rw [heq]
  · exact ⟨o, h⟩
  · simp only [closeReconciliation, auditDuplicate, ↓reduceIte, Tx.bind_ok, Tx.add_ok,
      Tx.execute_ok, Tx.commit_ok, Tx.pure_ok] at hrun
    obtain ⟨_, _, rfl, n, _, ⟨d', hd, rfl⟩, _, _, ⟨d'', hc, rfl⟩, -, rfl⟩ := hrun
    obtain ⟨-, rfl, -⟩ := updateOrders_ok.1 hd
    obtain rfl := Option.some.inj hc
    have hfound := Table.get?_update d.orders (fun o => o.id = r.claim.orderId)
      (fun o => { o with reconciliationClaimStartedAt := none }) (fun _ => rfl) a.orderId
    rw [h.found, Option.map_some] at hfound
    by_cases hid : o.id = r.claim.orderId
    · rw [if_pos (by simpa using hid)] at hfound
      exact ⟨_, { h with found := hfound }⟩
    · rw [if_neg (by simpa using hid)] at hfound
      exact ⟨o, { h with found := hfound }⟩

/-- The exit without a row leaves the order as it found it. -/
theorem paidAgain_after {op : Op} {d : DB} {a : WebhookArgs} (h : op.accepted d = some a)
    (hr : PaidReplay a d) :
    ∃ o, PaidAgain a (exec op d) o := by
  cases op with
  | applyWebhook a' =>
    obtain ⟨hok, heq⟩ := Option.ite_none_right_eq_some.1 h
    obtain rfl := Option.some.inj heq
    obtain ⟨b, t, hrun⟩ := isOk_iff.1 hok
    obtain ⟨o, ho⟩ := PaidReplay.again (s := .fresh d) hr hrun
    refine ⟨o, ?_⟩
    rw [exec, Op.service, run_discard, Tx.run, PaidAgain.accepted (s := .fresh d) ho]
    exact ho
  | applyReconciliation r =>
    obtain ⟨hok, heq⟩ := Option.ite_none_right_eq_some.1 h
    obtain rfl := Option.some.inj heq
    obtain ⟨b, t, hrun⟩ := isOk_iff.1 hok
    obtain ⟨o, ho⟩ := PaidReplay.again (s := stagedSession r d) hr hrun
    rw [exec, Op.service, run_discard, Tx.run,
      applyReconciliation_call (PaidAgain.accepted (s := stagedSession r d) ho)]
    exact ho.close r
  | _ => cases h

/-- What was accepted under an event id or a nonce is all that is ever accepted under it, but
where the event went out by the exit that leaves no row. -/
theorem accepted_once {d : DB} (hd : uniqueEvents d.events.rows) (ops : List Op)
    {op : Op} {a : WebhookArgs}
    (h : op.accepted (Run.after exec d ops) = some a) :
    (∀ (more : List Op) (op' : Op) (a' : WebhookArgs),
      op'.accepted (Run.after exec d (ops ++ op :: more)) = some a' →
      a'.provider = a.provider → a'.eventId = a.eventId ∨ a'.nonceText = a.nonceText →
      a'.rawDigest = a.rawDigest) ↔ ¬ PaidReplay a (Run.after exec d ops) := by
  constructor
  · intro hall hreplay
    obtain ⟨o, ho⟩ := paidAgain_after h hreplay
    have hlength : (a.rawDigest ++ "'").length = a.rawDigest.length + 1 := String.length_append ..
    have hdigest : a.rawDigest ++ "'" ≠ "" := fun h => by simp [h] at hlength
    have haccepted := PaidAgain.accepted
        (s := .fresh (exec op (Run.after exec d ops))) (ho.body hdigest)
    have heq := hall [] (.applyWebhook { a with rawDigest := a.rawDigest ++ "'" })
        { a with rawDigest := a.rawDigest ++ "'" }
      (accepted_of (by rw [Run.after_append, Run.after_cons, Run.after_nil, haccepted]; rfl)) rfl
        (.inl rfl)
    rw [show a.rawDigest ++ "'" = a.rawDigest from heq] at hlength
    omega
  · intro hreplay more op' a' h' hprovider hsame
    have hgrow (d : DB) (ops : List Op) : eventsGrow.rel d (Run.after exec d ops) :=
      after_keeps keepsAll_eventsGrow d ops
    rw [Run.after_append, Run.after_cons] at h'
    have hrecorded := (accepted_records h hreplay).grow (hgrow _ more)
    refine accepted_agrees ?_ h' hrecorded hprovider hsame
    rw [← Run.after_cons, ← Run.after_append]
    exact (hgrow d _).2 hd

/-- A payment of the order that `paid` opens. -/
def paidEvent (eventId nonce rawDigest : String) : WebhookArgs :=
  ⟨"provider", eventId, some nonce, rawDigest, "o", "payment.succeeded", "paid", 100, "CNY",
    "transaction", none, 0, eventId, "refund", eventId, 0⟩

/-- An order, and the event that pays it. -/
def paid : List Op := [
  .registerIdentity ⟨"u", "u@example.com", "", .active, some 0⟩,
  .createOrder ⟨"u", "provider", 100, "CNY", true, 500, "q", 5, 1, "key", some 3, "o"⟩,
  .applyWebhook (paidEvent "first" "nonce" "digest")]

/-- A second event for the paid order is accepted twice, with two bodies. -/
theorem accepted_twice :
    ¬ ∀ (ops : List Op) (op : Op) (a : WebhookArgs),
    op.accepted (Run.after exec DB.empty ops) = some a →
      ∀ (more : List Op) (op' : Op) (a' : WebhookArgs),
        op'.accepted (Run.after exec DB.empty (ops ++ op :: more)) = some a' →
        a'.provider = a.provider →
        a'.eventId = a.eventId ∨ a'.nonceText = a.nonceText → a'.rawDigest = a.rawDigest := by
  intro h
  have heq := h paid _ _ (accepted_of (a := paidEvent "second" "other" "one") (by decide +kernel))
    [] _ _ (accepted_of (a := paidEvent "second" "other" "two") (by decide +kernel)) rfl (.inl rfl)
  revert heq
  decide

theorem accepted_once_paid : PaidReplay (paidEvent "second" "other" "one")
    (Run.after exec DB.empty paid) := by
  by_contra h
  have heq := (accepted_once (d := DB.empty) (by decide) paid
    (accepted_of (a := paidEvent "second" "other" "one") (by decide +kernel))).2 h [] _ _
    (accepted_of (a := paidEvent "second" "other" "two") (by decide +kernel)) rfl (.inl rfl)
  revert heq
  decide

end Kunlun
