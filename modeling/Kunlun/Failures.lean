import Kunlun.Billing
import Kunlun.LivePayments

/-!
# The failures of the bridge

A membership test hashes what it tests, so that a list or a dictionary in the place of a status
raises what no route catches.
-/

namespace Kunlun.LivePayments

variable {α β : Type}

/-! ## Errors of one's own -/

/-- The code raises nothing but `PaymentBridgeError`. -/
structure Own (x : Except BridgeExc α) : Prop where
  of_error : ∀ e, x = .error e → e.own

/-- The code returns what it should, or raises `PaymentBridgeError`. -/
def Meets (P : α → Prop) (x : Except BridgeExc α) : Prop :=
  match x with
  | .ok a => P a
  | .error e => e.own

theorem own_ok (a : α) : Own (.ok a : Except BridgeExc α) := ⟨nofun⟩

theorem own_error_iff {e : BridgeExc} : Own (.error e : Except BridgeExc α) ↔ e.own :=
  ⟨fun h => h.of_error e rfl, fun h => ⟨fun _ heq => Except.error.inj heq ▸ h⟩⟩

theorem own_bridgeError (message code : String) :
    Own (.error (bridgeError message code) : Except BridgeExc α) :=
  own_error_iff.2 rfl

theorem meets_iff {P : α → Prop} {x : Except BridgeExc α}
    (h : ∀ a, x = .ok a → P a) : Meets P x ↔ Own x := by
  cases x with
  | ok a => exact ⟨fun _ => own_ok a, fun _ => h a rfl⟩
  | error e => exact own_error_iff.symm

theorem own_bind_iff {x : Except BridgeExc α} {f : α → Except BridgeExc β} :
    Own (x >>= f) ↔ Own x ∧ ∀ a, x = .ok a → Own (f a) := by
  cases x with
  | error e =>
    show Own (.error e : Except BridgeExc β) ↔ _
    rw [own_error_iff, own_error_iff]
    exact ⟨fun h => ⟨h, nofun⟩, And.left⟩
  | ok a =>
    refine ⟨fun h => ⟨own_ok a, fun a' ha => ?_⟩, fun h => h.2 a rfl⟩
    rw [← Except.ok.inj ha]
    exact h

theorem own_bind {x : Except BridgeExc α} {f : α → Except BridgeExc β} (hx : Own x)
    (hf : ∀ a, x = .ok a → Own (f a)) :
    Own (x >>= f) := own_bind_iff.2 ⟨hx, hf⟩

theorem own_unless {c : Prop} [Decidable c] {message code : String}
    {x : Except BridgeExc α} (hx : Own x) :
    Own (if c then throw (bridgeError message code) else x) := by
  split_ifs
  · exact own_bridgeError ..
  · exact hx

/-! ## The validators -/

theorem validateText_ok {format : PyStr → Bool} {e : BridgeExc} {x : Json} {s : PyStr} :
    validateText format e x = .ok s ↔ x = .str s ∧ format s := by
  unfold validateText
  cases x <;> simp only [reduceCtorEq, false_and]
  rename_i s'
  split_ifs with h
  · simp only [Except.ok.injEq, Json.str.injEq]
    exact ⟨fun heq => ⟨heq, heq ▸ h⟩, And.left⟩
  · simp only [Json.str.injEq, false_iff]
    rintro ⟨rfl, hs⟩
    exact h hs

theorem own_validateText (format : PyStr → Bool) (message code : String) (x : Json) :
    Own (validateText format (bridgeError message code) x) := by
  unfold validateText
  cases x <;> try exact own_bridgeError ..
  dsimp only
  split_ifs
  · exact own_ok _
  · exact own_bridgeError ..

theorem validateAmount_ok {x : Json} {n : Int} : validateAmount x = .ok n ↔
    x = .int n ∧ isAmount n := by
  unfold validateAmount
  cases x <;> simp only [reduceCtorEq, false_and]
  split_ifs with h
  · simp only [Except.ok.injEq, Json.int.injEq]
    exact ⟨fun heq => ⟨heq, heq ▸ h⟩, And.left⟩
  · simp only [Json.int.injEq, false_iff]
    rintro ⟨rfl, hn⟩
    exact h hn

theorem own_validateAmount (x : Json) : Own (validateAmount x) := by
  unfold validateAmount
  cases x <;> try exact own_bridgeError ..
  dsimp only
  split_ifs
  · exact own_ok _
  · exact own_bridgeError ..

theorem memberOf_ok {names : List PyStr} {e : BridgeExc} {x : Json} {s : PyStr} :
    memberOf names e x = .ok s ↔ x = .str s ∧ s ∈ names := by
  unfold memberOf
  cases x <;> simp only [reduceCtorEq, false_and]
  split_ifs with h
  · simp only [Except.ok.injEq, Json.str.injEq]
    exact ⟨fun heq => ⟨heq, heq ▸ h⟩, And.left⟩
  · simp only [Json.str.injEq, false_iff]
    rintro ⟨rfl, hs⟩
    exact h hs

/-- What a set cannot hash is not refused in the bridge's own words. -/
theorem own_memberOf (names : List PyStr) (message code : String) (x : Json) :
    Own (memberOf names (bridgeError message code) x) ↔ hashable x := by
  unfold memberOf hashable
  cases x <;> simp only [own_error_iff, bridgeError, BridgeExc.own, reduceCtorEq]
  split_ifs
  · exact iff_of_true (own_ok _) trivial
  · exact iff_of_true (own_bridgeError ..) trivial

/-! ## Answers of the sidecar -/

/-- The field holds a text of the format. -/
def HasText (format : PyStr → Bool) (data : Json) (field : String) : Prop :=
  ∃ s, getD data field (.str []) = .str s ∧ format s

/-- What `_status` checks before it looks at the status. -/
structure StatusFields (data : Json) : Prop where
  order : HasText isId data "order_id"
  amount : ∃ n, getD data "payment_amount_minor" .null = .int n ∧ isAmount n
  currency : HasText isCurrency data "currency"
  transaction : HasText isId data "provider_transaction_id"

section Status

variable {data : Json} {orderId currency : PyStr} {amount : Int} {transaction : Option PyStr}

theorem own_statusOf_iff : Own (statusOf data orderId amount currency transaction) ↔
    (StatusFields data → hashable (getD data "status" .null)) := by
  unfold statusOf
  constructor
  · rintro h ⟨⟨o, ho⟩, ⟨n, hn⟩, ⟨c, hc⟩, ⟨t, ht⟩⟩
    have h := (own_bind_iff.1 h).2 o (validateText_ok.2 ho)
    have h := (own_bind_iff.1 h).2 n (validateAmount_ok.2 hn)
    have h := (own_bind_iff.1 h).2 c (validateText_ok.2 hc)
    have h := (own_bind_iff.1 h).2 t (validateText_ok.2 ht)
    exact (own_memberOf ..).1 (own_bind_iff.1 h).1
  · intro h
    refine own_bind (own_validateText ..) fun o ho => own_bind (own_validateAmount _) fun n hn => ?_
    refine own_bind (own_validateText ..) fun c hc => own_bind (own_validateText ..) fun t ht => ?_
    have hfields : StatusFields data :=
      ⟨⟨o, validateText_ok.1 ho⟩, ⟨n, validateAmount_ok.1 hn⟩, ⟨c, validateText_ok.1 hc⟩,
        ⟨t, validateText_ok.1 ht⟩⟩
    refine own_bind ((own_memberOf ..).2 (h hfields)) fun s _ => ?_
    exact own_unless (own_unless (own_ok _))

/-- The answer `r` is what the data says, and one to the request. -/
structure Answers (data : Json) (orderId : PyStr) (amount : Int) (currency : PyStr)
    (transaction : Option PyStr)
    (r : PaymentStatus) : Prop where
  orderId : r.orderId = orderId
  amount : r.paymentAmountMinor = amount
  currency : r.currency = currency
  transaction : ∀ t ∈ transaction, r.providerTransactionId = t
  orderFound : getD data "order_id" (.str []) = .str r.orderId ∧ isId r.orderId
  amountFound : getD data "payment_amount_minor" .null = .int r.paymentAmountMinor ∧
    isAmount r.paymentAmountMinor
  currencyFound : getD data "currency" (.str []) = .str r.currency ∧ isCurrency r.currency
  transactionFound : getD data "provider_transaction_id" (.str []) = .str r.providerTransactionId ∧
    isId r.providerTransactionId
  status : getD data "status" .null = .str r.status ∧ r.status ∈ statuses

theorem statusOf_ok {r : PaymentStatus} :
    statusOf data orderId amount currency transaction = .ok r ↔
    Answers data orderId amount currency transaction r := by
  unfold statusOf
  constructor
  · intro h
    obtain ⟨o, ho, h⟩ := except_bind_ok.1 h
    obtain ⟨n, hn, h⟩ := except_bind_ok.1 h
    obtain ⟨c, hc, h⟩ := except_bind_ok.1 h
    obtain ⟨t, ht, h⟩ := except_bind_ok.1 h
    obtain ⟨s, hs, h⟩ := except_bind_ok.1 h
    obtain ⟨hmatch, h⟩ := except_unless_ok.1 h
    obtain ⟨htransaction, h⟩ := except_unless_ok.1 h
    obtain rfl := Except.ok.inj h
    obtain ⟨rfl, rfl, rfl⟩ : o = orderId ∧ n = amount ∧ c = currency := by simpa using hmatch
    refine ⟨rfl, rfl, rfl, fun x hx => ?_, validateText_ok.1 ho, validateAmount_ok.1 hn,
      validateText_ok.1 hc, validateText_ok.1 ht, memberOf_ok.1 hs⟩
    rw [Option.mem_def] at hx
    simpa [hx, eq_comm] using htransaction
  · rintro ⟨rfl, rfl, rfl, htransaction, ho, hn, hc, ht, hs⟩
    refine except_bind_ok.2 ⟨_, validateText_ok.2 ho,
      except_bind_ok.2 ⟨_, validateAmount_ok.2 hn, ?_⟩⟩
    refine except_bind_ok.2 ⟨_, validateText_ok.2 hc,
      except_bind_ok.2 ⟨_, validateText_ok.2 ht, ?_⟩⟩
    refine except_bind_ok.2 ⟨_, memberOf_ok.2 hs,
      except_unless_ok.2 ⟨by simp, except_unless_ok.2 ⟨?_, rfl⟩⟩⟩
    rintro ⟨hne, hother⟩
    obtain ⟨x, rfl⟩ := Option.ne_none_iff_exists'.1 hne
    exact hother (congrArg some (htransaction x rfl).symm)

end Status

/-! ## The calls -/

section Calls

variable {L : Library} {b : Bridge} {post : Post} {data : Json} {m : RequestMeta}

/-- What `create_checkout` reads of its answer can be hashed, and its address can be parsed. -/
def UrlReadable (L : Library) (data : Json) : Prop :=
  ∀ url, getD data "checkout_url" .null = .str url → (L.urlparse url).isSome

def StatusReadable (data : Json) : Prop := StatusFields data → hashable (getD data "status" .null)

theorem own_validateCheckoutUrl {x : Json} : Own (validateCheckoutUrl L b x) ↔ ∀ url, x = .str url →
    (L.urlparse url).isSome := by
  unfold validateCheckoutUrl
  cases x with
  | str url =>
    dsimp only
    cases hurl : L.urlparse url with
    | none => simp [own_error_iff, BridgeExc.own, hurl]
    | some parsed =>
      refine iff_of_true ?_ fun x hx => ?_
      · dsimp only
        split_ifs
        · exact own_ok _
        · exact own_bridgeError ..
      · rw [← Json.str.inj hx, hurl]
        rfl
  | _ => exact iff_of_true (own_bridgeError ..) nofun

theorem own_checkCheckout (a : CheckoutArgs) : Own (checkCheckout a) := by
  unfold checkCheckout
  refine own_bind (own_validateText ..) fun _ _ => own_bind (own_validateAmount _) fun _ _ => ?_
  refine own_bind (own_validateText ..) fun _ _ => own_unless ?_
  split_ifs
  · exact own_bridgeError ..
  · exact own_ok _

theorem own_checkStatusArgs (a : StatusArgs) : Own (checkStatusArgs a) := by
  unfold checkStatusArgs
  refine own_bind (own_validateText ..) fun _ _ => own_bind (own_validateAmount _) fun _ _ => ?_
  refine own_bind (own_validateText ..) fun _ _ => own_bind (own_validateText ..)
    fun _ _ => own_ok _

theorem own_checkReconcile (a : ReconcilePaymentArgs) : Own (checkReconcile a) := by
  unfold checkReconcile
  refine own_bind (own_validateText ..) fun _ _ => own_bind (own_validateAmount _) fun _ _ => ?_
  refine own_bind (own_validateText ..) fun _ _ => ?_
  cases a.providerTransactionId with
  | none => exact own_ok _
  | some t => exact own_bind (own_validateText ..) fun _ _ => own_ok _

theorem own_createCheckout_iff {a : CheckoutArgs}
    (hpost : post "/v1/payments/checkout" (checkoutPayload b a) = .ok (data, m)) :
    Own (createCheckout L b post a) ↔ (checkCheckout a = .ok () → StatusReadable data ∧
      ((∃ r, Answers data a.orderId a.paymentAmountMinor a.currency none r) →
        UrlReadable L data)) := by
  unfold createCheckout
  rw [own_bind_iff]
  refine ⟨fun h hcheck => ?_, fun h =>
    ⟨own_checkCheckout a, fun _ hcheck => own_bind_iff.2 ⟨?_, ?_⟩⟩⟩
  · have h := (own_bind_iff.1 (h.2 () hcheck)).2 _ hpost
    refine ⟨fun hfields => ?_, fun ⟨r, hr⟩ url hurl => ?_⟩
    · obtain ⟨t, ht⟩ := hfields.transaction
      have h := (own_bind_iff.1 h).2 t (validateText_ok.2 ht)
      exact own_statusOf_iff.1 (own_bind_iff.1 h).1 hfields
    · have h := (own_bind_iff.1 h).2 _ (validateText_ok.2 hr.transactionFound)
      have hstatus : statusOf data a.orderId a.paymentAmountMinor a.currency
          (some r.providerTransactionId) = .ok r :=
        statusOf_ok.2 { hr with transaction := fun t ht => Option.some.inj ht }
      have h := (own_bind_iff.1 h).2 r hstatus
      exact own_validateCheckoutUrl.1 (own_bind_iff.1 h).1 url hurl
  · rw [hpost]
    exact own_ok _
  · intro p hp
    obtain rfl := Except.ok.inj (hpost.symm.trans hp)
    obtain ⟨hreadable, hurl⟩ := h hcheck
    refine own_bind (own_validateText ..) fun t _ =>
      own_bind (own_statusOf_iff.2 hreadable) fun r hr => ?_
    have hr := statusOf_ok.1 hr
    refine own_bind (own_validateCheckoutUrl.2 ?_) fun _ _ => own_ok _
    exact hurl ⟨r, { hr with transaction := nofun }⟩

theorem own_statusCallData_iff {path : String} {a : StatusArgs} {extra : List (PyStr × Json)}
    (hpost : post path (statusPayload b a extra) = .ok (data, m)) :
    Own (statusCallData b post path a extra) ↔
    (checkStatusArgs a = .ok () → StatusReadable data) := by
  unfold statusCallData
  rw [own_bind_iff]
  refine ⟨fun h hcheck => ?_, fun h =>
    ⟨own_checkStatusArgs a, fun _ hcheck => own_bind_iff.2 ⟨?_, ?_⟩⟩⟩
  · have h := (own_bind_iff.1 (h.2 () hcheck)).2 _ hpost
    exact own_statusOf_iff.1 (own_bind_iff.1 h).1
  · rw [hpost]
    exact own_ok _
  · intro p hp
    obtain rfl := Except.ok.inj (hpost.symm.trans hp)
    exact own_bind (own_statusOf_iff.2 (h hcheck)) fun _ _ => own_ok _

theorem own_refundPayment_iff {a : StatusArgs} {key : PyStr}
    (hpost : post "/v1/payments/refund" (statusPayload b a [(py "idempotency_key", .str key)]) =
      .ok (data, m)) :
    Own (refundPayment b post a key) ↔
    (isId key → checkStatusArgs a = .ok () → StatusReadable data) := by
  unfold refundPayment
  by_cases hkey : isId key
  · simp only [hkey, not_true, if_false, true_imp_iff]
    rw [← own_statusCallData_iff hpost]
    refine ⟨fun h => (own_bind_iff.1 h).1, fun h => own_bind h fun _ _ => ?_⟩
    exact own_bind (own_validateText ..) fun _ _ => own_ok _
  · rw [if_pos hkey]
    exact iff_of_true (own_bridgeError ..) fun h => absurd h hkey

theorem own_reconcilePayment_iff {a : ReconcilePaymentArgs}
    (hpost : post "/v1/payments/reconcile" (reconcilePayload b a) = .ok (data, m)) :
    Own (reconcilePayment b post a) ↔ (checkReconcile a = .ok () → StatusReadable data) := by
  unfold reconcilePayment
  rw [own_bind_iff]
  refine ⟨fun h hcheck => ?_, fun h =>
    ⟨own_checkReconcile a, fun _ hcheck => own_bind_iff.2 ⟨?_, ?_⟩⟩⟩
  · exact own_statusOf_iff.1 ((own_bind_iff.1 (h.2 () hcheck)).2 _ hpost)
  · rw [hpost]
    exact own_ok _
  · intro p hp
    obtain rfl := Except.ok.inj (hpost.symm.trans hp)
    exact own_statusOf_iff.2 (h hcheck)

theorem createCheckout_ok {a : CheckoutArgs} {r : Checkout}
    (hpost : post "/v1/payments/checkout" (checkoutPayload b a) = .ok (data, m))
    (h : createCheckout L b post a = .ok r) : Answers data a.orderId a.paymentAmountMinor
      a.currency none r.status := by
  unfold createCheckout at h
  obtain ⟨_, -, h⟩ := except_bind_ok.1 h
  obtain ⟨p, hp, h⟩ := except_bind_ok.1 h
  obtain rfl := Except.ok.inj (hpost.symm.trans hp)
  obtain ⟨t, -, h⟩ := except_bind_ok.1 h
  obtain ⟨status, hstatus, h⟩ := except_bind_ok.1 h
  obtain ⟨url, -, h⟩ := except_bind_ok.1 h
  obtain rfl := Except.ok.inj h
  exact { statusOf_ok.1 hstatus with transaction := nofun }

theorem refundPayment_ok {a : StatusArgs} {key : PyStr} {r : RefundResult}
    (hpost : post "/v1/payments/refund" (statusPayload b a [(py "idempotency_key", .str key)]) =
      .ok (data, m))
    (h : refundPayment b post a key = .ok r) :
    Answers data a.orderId a.paymentAmountMinor a.currency
      (some a.providerTransactionId) r.status := by
  unfold refundPayment at h
  obtain ⟨-, h⟩ := except_unless_ok.1 h
  obtain ⟨q, hq, h⟩ := except_bind_ok.1 h
  obtain ⟨x, -, h⟩ := except_bind_ok.1 h
  obtain rfl := Except.ok.inj h
  unfold statusCallData at hq
  obtain ⟨_, -, hq⟩ := except_bind_ok.1 hq
  obtain ⟨p, hp, hq⟩ := except_bind_ok.1 hq
  obtain rfl := Except.ok.inj (hpost.symm.trans hp)
  obtain ⟨status, hstatus, hq⟩ := except_bind_ok.1 hq
  obtain rfl := Except.ok.inj hq
  exact statusOf_ok.1 hstatus

theorem reconcilePayment_ok {a : ReconcilePaymentArgs} {r : PaymentStatus}
    (hpost : post "/v1/payments/reconcile" (reconcilePayload b a) = .ok (data, m))
    (h : reconcilePayment b post a = .ok r) :
    Answers data a.orderId a.paymentAmountMinor a.currency a.providerTransactionId r := by
  unfold reconcilePayment at h
  obtain ⟨_, -, h⟩ := except_bind_ok.1 h
  obtain ⟨p, hp, h⟩ := except_bind_ok.1 h
  obtain rfl := Except.ok.inj (hpost.symm.trans hp)
  exact statusOf_ok.1 h

end Calls

/-! ## Webhooks -/

/-- What `verify_webhook` checks of an event before it looks at its type. -/
structure EventFields (event : Json) : Prop where
  eventId : HasText isId event "event_id"
  order : HasText isId event "order_id"
  amount : ∃ n, getD event "payment_amount_minor" .null = .int n ∧ isAmount n
  currency : HasText isCurrency event "currency"
  transaction : HasText isId event "provider_transaction_id"

/-- The type of the event can be hashed, and so can its status when the type is one of the five. -/
def EventReadable (event : Json) : Prop :=
  EventFields event → hashable (getD event "type" .null) ∧
    ((∃ t ∈ eventTypes, getD event "type" .null = .str t) → hashable (getD event "status" .null))

structure WebhookResult.WellFormed (r : WebhookResult) : Prop where
  orderId : isId r.orderId
  amount : isAmount r.paymentAmountMinor
  currency : isCurrency r.currency
  status : r.status ∈ statuses
  transaction : isId r.providerTransactionId
  eventId : isId r.eventId
  eventType : r.eventType ∈ eventTypes
  nonce : isId r.nonce
  refundId : ∀ x ∈ r.providerRefundId, isId x

section Webhooks

variable {L : Library} {b : Bridge} {seen : Seen} {nonce digest : PyStr}
  {duplicate : Bool} {event : Json}
  {clock : Option Int} {body : Octets} {headers : Headers}

theorem own_refundIdOf (event : Json) (eventType : PyStr) : Own (refundIdOf event eventType) := by
  unfold refundIdOf
  split_ifs
  · cases validateTxn (getD event "provider_refund_id" (.str [])) with
    | ok x => exact own_ok _
    | error e => exact own_bridgeError ..
  · cases getD event "provider_refund_id" .null with
    | null => exact own_ok _
    | _ => exact own_bridgeError ..

theorem refundIdOf_ok {eventType : PyStr} {x : Option PyStr}
    (h : refundIdOf event eventType = .ok x) :
    ∀ s ∈ x, isId s := by
  unfold refundIdOf at h
  split_ifs at h
  · cases hx : validateTxn (getD event "provider_refund_id" (.str [])) with
    | ok s =>
      simp only [hx, Except.ok.injEq] at h
      rintro s' hs'
      obtain rfl := Option.some.inj (h.trans hs')
      exact (validateText_ok.1 hx).2
    | error e => simp [hx] at h
  · cases hx : getD event "provider_refund_id" .null <;> simp [hx] at h
    subst h
    exact nofun

theorem refundIdOf_isSome {eventType : PyStr} {x : Option PyStr}
    (h : refundIdOf event eventType = .ok x) :
    x.isSome ↔ eventType = py "payment.refunded" := by
  unfold refundIdOf at h
  split_ifs at h with htype
  · cases hx : validateTxn (getD event "provider_refund_id" (.str [])) with
    | ok s =>
      simp only [hx, Except.ok.injEq] at h
      simp [← h, htype]
    | error e => simp [hx] at h
  · cases hx : getD event "provider_refund_id" .null <;> simp [hx] at h
    simp [← h, htype]

theorem own_readEvent_iff : Own (readEvent seen nonce digest duplicate event) ↔
    EventReadable event := by
  unfold readEvent
  constructor
  · rintro h ⟨⟨i, hi⟩, ⟨o, ho⟩, ⟨n, hn⟩, ⟨c, hc⟩, ⟨t, ht⟩⟩
    have h := (own_bind_iff.1 h).2 i (validateText_ok.2 hi)
    have h := (own_bind_iff.1 h).2 o (validateText_ok.2 ho)
    have h := (own_bind_iff.1 h).2 n (validateAmount_ok.2 hn)
    have h := (own_bind_iff.1 h).2 c (validateText_ok.2 hc)
    have h := (own_bind_iff.1 h).2 t (validateText_ok.2 ht)
    refine ⟨(own_memberOf ..).1 (own_bind_iff.1 h).1, fun ⟨y, hy, htype⟩ => ?_⟩
    have h := (own_bind_iff.1 h).2 y (memberOf_ok.2 ⟨htype, hy⟩)
    exact (own_memberOf ..).1 (own_bind_iff.1 h).1
  · intro h
    refine own_bind (own_validateText ..) fun i hi => own_bind (own_validateText ..) fun o ho => ?_
    refine own_bind (own_validateAmount _) fun n hn => own_bind (own_validateText ..) fun c hc => ?_
    refine own_bind (own_validateText ..) fun t ht => ?_
    obtain ⟨htype, hstatus⟩ :=
      h ⟨⟨i, validateText_ok.1 hi⟩, ⟨o, validateText_ok.1 ho⟩, ⟨n, validateAmount_ok.1 hn⟩,
        ⟨c, validateText_ok.1 hc⟩, ⟨t, validateText_ok.1 ht⟩⟩
    refine own_bind ((own_memberOf ..).2 htype) fun y hy => ?_
    obtain ⟨hy, hmem⟩ := memberOf_ok.1 hy
    refine own_bind ((own_memberOf ..).2 (hstatus ⟨y, hmem, hy⟩)) fun s _ =>
      own_bind (own_refundIdOf ..) fun x _ => ?_
    exact own_unless (own_ok _)

theorem readEvent_ok {r : WebhookResult} (h : readEvent seen nonce digest duplicate event = .ok r)
    (hnonce : isId nonce) :
    r.WellFormed ∧ r.nonce = nonce := by
  unfold readEvent at h
  obtain ⟨i, hi, h⟩ := except_bind_ok.1 h
  obtain ⟨o, ho, h⟩ := except_bind_ok.1 h
  obtain ⟨n, hn, h⟩ := except_bind_ok.1 h
  obtain ⟨c, hc, h⟩ := except_bind_ok.1 h
  obtain ⟨t, ht, h⟩ := except_bind_ok.1 h
  obtain ⟨y, hy, h⟩ := except_bind_ok.1 h
  obtain ⟨s, hs, h⟩ := except_bind_ok.1 h
  obtain ⟨x, hx, h⟩ := except_bind_ok.1 h
  obtain ⟨-, h⟩ := except_unless_ok.1 h
  obtain rfl := Except.ok.inj h
  exact ⟨⟨(validateText_ok.1 ho).2, (validateAmount_ok.1 hn).2, (validateText_ok.1 hc).2,
    (memberOf_ok.1 hs).2, (validateText_ok.1 ht).2, (validateText_ok.1 hi).2, (memberOf_ok.1 hy).2,
    hnonce, refundIdOf_ok hx⟩, rfl⟩

theorem own_checkSignedHeaders (clock : Option Int) (headers : Headers) (body : Octets) :
    Own (checkSignedHeaders L b clock headers body) := by
  unfold checkSignedHeaders
  refine own_unless (own_unless (own_unless (own_unless ?_)))
  cases clock with
  | none => exact own_bridgeError ..
  | some now =>
    refine own_unless ?_
    split_ifs
    · exact own_bridgeError ..
    · exact own_ok _

theorem checkSignedHeaders_ok (h : checkSignedHeaders L b clock headers body = .ok ()) :
    isId (header L headers "x-kunlun-nonce") := by
  unfold checkSignedHeaders at h
  obtain ⟨-, h⟩ := except_unless_ok.1 h
  obtain ⟨-, h⟩ := except_unless_ok.1 h
  obtain ⟨hnonce, -⟩ := except_unless_ok.1 h
  exact not_not.1 hnonce

/-- The body that is signed and new, or the same as before, is an object. -/
structure Received (L : Library) (b : Bridge) (seen : Seen) (clock : Option Int) (body : Octets)
    (headers : Headers)
    (items : List (PyStr × Json)) : Prop where
  signed : checkSignedHeaders L b clock headers body = .ok ()
  nonce : lookup seen.nonces (header L headers "x-kunlun-nonce") = none ∨
    lookup seen.nonces (header L headers "x-kunlun-nonce") = some (L.sha256Hex body)
  json : L.loads body = some (.obj items)

theorem own_parseWebhook_iff : Own (parseWebhook L b seen clock body headers) ↔
    ∀ items, Received L b seen clock body headers items → EventReadable (.obj items) := by
  unfold parseWebhook
  rw [own_bind_iff]
  constructor
  · rintro ⟨-, h⟩ items ⟨hsigned, hnonce, hjson⟩
    have h := h () hsigned
    rw [if_neg (by rw [not_and_or, not_not, not_not]; exact hnonce), hjson] at h
    exact own_readEvent_iff.1 h
  · refine fun h => ⟨own_checkSignedHeaders .., fun _ hsigned => ?_⟩
    dsimp only
    split_ifs with hknown
    · exact own_bridgeError ..
    · rw [not_and_or, not_not, not_not] at hknown
      cases hjson : L.loads body with
      | none => exact own_bridgeError ..
      | some x =>
        cases x with
        | obj items => exact own_readEvent_iff.2 (h items ⟨hsigned, hknown, hjson⟩)
        | _ => exact own_bridgeError ..

theorem parseWebhook_ok {r : WebhookResult}
    (h : parseWebhook L b seen clock body headers = .ok r) : r.WellFormed := by
  unfold parseWebhook at h
  obtain ⟨_, hsigned, h⟩ := except_bind_ok.1 h
  obtain ⟨-, h⟩ := except_unless_ok.1 h
  cases hjson : L.loads body with
  | none => simp [hjson] at h
  | some x =>
    rw [hjson] at h
    cases x with
    | obj items => exact (readEvent_ok h (checkSignedHeaders_ok hsigned)).1
    | _ => simp at h

theorem parseWebhook_refundId {r : WebhookResult}
    (h : parseWebhook L b seen clock body headers = .ok r) :
    r.providerRefundId.isSome ↔ r.eventType = py "payment.refunded" := by
  unfold parseWebhook at h
  obtain ⟨_, -, h⟩ := except_bind_ok.1 h
  obtain ⟨-, h⟩ := except_unless_ok.1 h
  cases hjson : L.loads body with
  | none => simp [hjson] at h
  | some x =>
    rw [hjson] at h
    cases x with
    | obj items =>
      unfold readEvent at h
      obtain ⟨i, -, h⟩ := except_bind_ok.1 h
      obtain ⟨o, -, h⟩ := except_bind_ok.1 h
      obtain ⟨n, -, h⟩ := except_bind_ok.1 h
      obtain ⟨c, -, h⟩ := except_bind_ok.1 h
      obtain ⟨t, -, h⟩ := except_bind_ok.1 h
      obtain ⟨y, -, h⟩ := except_bind_ok.1 h
      obtain ⟨s, -, h⟩ := except_bind_ok.1 h
      obtain ⟨x, hx, h⟩ := except_bind_ok.1 h
      obtain ⟨-, h⟩ := except_unless_ok.1 h
      obtain rfl := Except.ok.inj h
      exact refundIdOf_isSome hx
    | _ => simp at h

theorem verifyWebhook_result (L : Library) (b : Bridge) (seen : Seen)
    (clock : Option Int) (body : Octets)
    (headers : Headers) : (verifyWebhook L b seen clock body headers).1 = parseWebhook L b
      seen clock body headers := by
  unfold verifyWebhook
  split
  · exact Eq.symm ‹_›
  · exact Eq.symm ‹_›

/-- A webhook is accepted well formed, or refused in the bridge's own words and forgotten. -/
def VerifyMeets (seen : Seen) : Except BridgeExc WebhookResult × Seen → Prop
  | (.ok r, _) => r.WellFormed
  | (.error e, seen') => e.own ∧ seen' = seen

theorem verifyMeets_iff : VerifyMeets seen (verifyWebhook L b seen clock body headers) ↔
    Own (parseWebhook L b seen clock body headers) := by
  unfold verifyWebhook
  cases h : parseWebhook L b seen clock body headers with
  | ok r => exact iff_of_true (parseWebhook_ok h) (own_ok r)
  | error e =>
    rw [own_error_iff]
    exact and_iff_left rfl

end Webhooks

/-! ## All of the bridge -/

theorem own_post_iff {L : Library} {b : Bridge}
    {send : PyStr → Octets → Headers → Option Response} {m : RequestMeta}
    {clock : Option Int} {path : String} {payload : List (PyStr × Json)} :
    Own (post L b send m clock path payload) ↔ (encode? (sortKeys payload).dumps).isSome := by
  unfold post
  cases encode? (sortKeys payload).dumps with
  | none => exact own_error_iff
  | some body =>
    refine iff_of_true ?_ rfl
    dsimp only
    cases send (py path) body (requestHeaders L b body m) with
    | none => exact own_bridgeError ..
    | some response =>
      refine own_unless (own_unless (own_bind (own_checkSignedHeaders ..) fun _ _ => ?_))
      cases L.loads response.chunks.flatten with
      | none => exact own_bridgeError ..
      | some x =>
        cases x with
        | obj items => exact own_ok _
        | _ => exact own_bridgeError ..

/-- A webhook is well formed or refused in the bridge's own words, and an answer is one to its
request or so refused, exactly where what the bridge looks up in a set can be hashed and the
address it parses can be parsed. A request gets no answer in other words only where it cannot be
encoded. -/
theorem bridge_fails_closed_iff (L : Library) (b : Bridge) :
    (∀ send m clock path payload, Own (post L b send m clock path payload) ↔
      (encode? (sortKeys payload).dumps).isSome) ∧
    (∀ seen clock body headers, VerifyMeets seen (verifyWebhook L b seen clock body headers) ↔
      ∀ items, Received L b seen clock body headers items → EventReadable (.obj items)) ∧
    (∀ (post : Post) (a : CheckoutArgs) (data : Json) (m : RequestMeta),
      post "/v1/payments/checkout" (checkoutPayload b a) = .ok (data, m) →
        (Meets (fun r => Answers data a.orderId a.paymentAmountMinor a.currency none r.status)
          (createCheckout L b post a) ↔
          (checkCheckout a = .ok () → StatusReadable data ∧
            ((∃ r, Answers data a.orderId a.paymentAmountMinor a.currency none r) →
              UrlReadable L data)))) ∧
    (∀ (post : Post) (a : StatusArgs) (key : PyStr) (data : Json) (m : RequestMeta),
      post "/v1/payments/refund" (statusPayload b a [(py "idempotency_key", .str key)]) =
        .ok (data, m) →
        (Meets (fun r => Answers data a.orderId a.paymentAmountMinor a.currency
          (some a.providerTransactionId) r.status)
            (refundPayment b post a key) ↔
          (isId key → checkStatusArgs a = .ok () → StatusReadable data))) ∧
    ∀ (post : Post) (a : ReconcilePaymentArgs) (data : Json) (m : RequestMeta),
      post "/v1/payments/reconcile" (reconcilePayload b a) = .ok (data, m) →
        (Meets (Answers data a.orderId a.paymentAmountMinor a.currency a.providerTransactionId)
          (reconcilePayment b post a) ↔
          (checkReconcile a = .ok () → StatusReadable data)) := by
  refine ⟨fun _ _ _ _ _ => own_post_iff, fun seen clock body headers => ?_,
    fun post a data m hpost => ?_,
    fun post a key data m hpost => ?_, fun post a data m hpost => ?_⟩
  · rw [verifyMeets_iff, own_parseWebhook_iff]
  · rw [meets_iff fun r => createCheckout_ok hpost, own_createCheckout_iff hpost]
  · rw [meets_iff fun r => refundPayment_ok hpost, own_refundPayment_iff hpost]
  · rw [meets_iff fun r => reconcilePayment_ok hpost, own_reconcilePayment_iff hpost]

/-! ## An event whose type is a list -/

def listEventBody : Octets :=
  py ("\x7b\"event_id\":\"evt_1\",\"order_id\":\"ord_1\",\"payment_amount_minor\":1,\"currency\":" ++
  "\"CNY\",\"provider_transaction_id\":\"txn_1\",\"type\":[],\"status\":\"paid\"\x7d")

def listEvent : List (PyStr × Json) :=
  [(py "event_id", .str (py "evt_1")), (py "order_id", .str (py "ord_1")),
    (py "payment_amount_minor", .int 1), (py "currency", .str (py "CNY")),
  (py "provider_transaction_id", .str (py "txn_1")), (py "type", .arr []),
  (py "status", .str (py "paid"))]

def listEventSignature : PyStr :=
  py "fcd805af3feec3fa9c6731105adbdd8290f33bbbaebc2a9a4a2055847c13b0b8"

/-- The library on this one event. -/
def listEventLibrary : Library where
  casefold := fun s => s
  hmacHex := fun key message =>
    if key = py "secret" ∧ message = py "1700000000.nonce_1." ++ listEventBody then
      listEventSignature else []
  sha256Hex := fun body =>
    if body = listEventBody then
      py "e3ca38bea688abd87281b9c7374971a1fb7cc7dcf83004c29059fd19b36b3773" else []
  loads := fun body => if body = listEventBody then some (.obj listEvent) else none
  urlparse := fun _ => none

def listEventHeaders : Headers :=
  [(py "x-kunlun-timestamp", py "1700000000"), (py "x-kunlun-nonce", py "nonce_1"),
    (py "x-kunlun-signature", listEventSignature)]

theorem list_type_not_refused :
    ¬ ∀ (L : Library) (b : Bridge) (seen : Seen) (clock : Option Int) (body : Octets)
    (headers : Headers), VerifyMeets seen (verifyWebhook L b seen clock body headers) := by
  intro h
  simp only [verifyMeets_iff, own_parseWebhook_iff] at h
  have hreceived : Received listEventLibrary ⟨py "merchant", py "secret", [], 300⟩ ⟨[], []⟩
    (some 1700000000) listEventBody
      listEventHeaders listEvent := ⟨by decide +kernel, .inl rfl, by simp [listEventLibrary]⟩
  have hreadable := h _ _ _ _ _ _ listEvent hreceived
  have hfields : EventFields (.obj listEvent) :=
    ⟨⟨py "evt_1", rfl, by decide⟩, ⟨py "ord_1", rfl, by decide⟩, ⟨1, rfl, by decide⟩,
      ⟨py "CNY", rfl, by decide⟩, ⟨py "txn_1", rfl, by decide⟩⟩
  exact absurd (hreadable hfields).1 (by decide)

end Kunlun.LivePayments
