import Kunlun.Completions.Around

/-!
# Failover

Whatever others do while the handler runs, a client is called only after all before it have
refused without billing, and the last one called decides how the hold ends.
-/

namespace Kunlun.Completions

/-! ## One client -/

/-- What awaiting the client gives first: an open stream, or the whole result. -/
def awaited (a : ChatArgs) (client : Client) : Except Failure (UpstreamStream ⊕ Json) :=
  match a.openStream client with
  | some openStream => (openStream a.upstreamPayload).map .inl
  | none => (client.completion a.upstreamPayload).map .inr

section Endings

variable (c : Admitted) (r₀ : ModelRequest) (index : Nat) (client : Client)

def Admitted.settlement (result : Json) : SettleArgs := c.settle index (client.name index)
    (c.prices client) result false

/-- What the check of an output says. -/
def outputOutcome (result : Json) : Except Failure (Option String) :=
  match c.args.contentSafety with
  | none => .ok none
  | some check =>
    (check "output" c.args.payload.model ((result.get? (py "choices")).getD (.arr []))).outcome.map
      fun o => some o.outcome

/-- What is raised in the `try` that no provider raised, before the row is settled. -/
inductive Breaks : Failure → Prop where
  | await (f : Failure) (awaits : awaited c.args client = .error f) (own : ∀ e, f ≠ .provider e) :
    Breaks f
  | header (stream : UpstreamStream) (awaits : awaited c.args client = .ok (.inl stream))
      (name : latin1 (client.name index) = false) : Breaks .other
  | check (result : Json) (f : Failure) (awaits : awaited c.args client = .ok (.inr result))
      (checked : outputOutcome c result = .error f) : Breaks f
  | audit (result : Json) (awaits : awaited c.args client = .ok (.inr result))
    (checks : c.args.contentSafety.isSome) :
      Breaks (.raised .integrityError)
  /-- The terms of the settlement cannot be computed, or do not fit their columns. -/
  | terms (result : Json) (e : Exc) (awaits : awaited c.args client = .ok (.inr result))
      (fails : settlementTerms (c.settlement index client result) r₀ = .error e) :
      Breaks (.raised e)

/-- A result whose terms are computed and written, and what its check says. -/
structure Completes (result : Json) (outcome : Option String) (t : SettlementTerms) : Prop where
  awaits : awaited c.args client = .ok (.inr result)
  checked : outputOutcome c result = .ok outcome
  terms : settlementTerms (c.settlement index client result) r₀ = .ok t

/-- How the handler is left at its last client, and the row it leaves. -/
inductive Ending (last : Bool) : Except Failure Response → ModelRequest → Prop where
  | refused (e : ProviderError) (awaits : awaited c.args client = .error (.provider e))
      (unbilled : e.requestMayBeBillable = false) (stays : (e.safeToFailover && !last) = false) :
      Ending last (.ok (c.refuse e.statusCode "模型供应商拒绝或不可用" e.category))
        (releasedRequest (c.release e.category) r₀)
  | billable (e : ProviderError) (awaits : awaited c.args client = .error (.provider e))
      (billable : e.requestMayBeBillable = true) :
      Ending last (.ok (c.refuse 502 "上游状态不确定，已转人工对账且未自动切换" "reconciliation_pending"))
        (pendingRequest (c.mark index e.category (client.name index)) r₀)
  | cancelled (breaks : Breaks c r₀ index client .cancelled) :
      Ending last (.error .cancelled)
        (pendingRequest (c.mark index "client_disconnected" (client.name index)) r₀)
  | broken (f : Failure) (breaks : Breaks c r₀ index client f) (going : f ≠ .cancelled) :
      Ending last (.ok (c.refuse 502 "上游状态不确定，已转人工对账" "reconciliation_pending"))
        (pendingRequest (c.mark index "unexpected_provider_failure" (client.name index)) r₀)
  | settled (result : Json) (outcome : Option String) (t : SettlementTerms) (response : Response)
      (completes : Completes c r₀ index client result outcome t)
      (answers : answer c index client result outcome = .ok response) :
      Ending last (.ok response) (t.row (c.settlement index client result) r₀)
  /-- The row is settled, and the caller is told that it is pending. -/
  | unanswered (result : Json) (outcome : Option String) (t : SettlementTerms)
      (completes : Completes c r₀ index client result outcome t)
      (answers : answer c index client result outcome = .error .other) :
      Ending last (.ok (c.refuse 502 "上游状态不确定，已转人工对账" "reconciliation_pending"))
        (t.row (c.settlement index client result) r₀)
  | forwarded (stream : UpstreamStream) (awaits : awaited c.args client = .ok (.inl stream))
      (name : latin1 (client.name index)) :
      Ending last (.ok (.forwarded ⟨c.reservation, index, client.name index, c.prices client,
        stream⟩ c.reservation.requestId)) r₀

end Endings

section Client

variable {c : Admitted} {r₀ : ModelRequest} {index : Nat} {client : Client} {ids ids' : List Id}
  {called : List (Nat × Json)} {others : Neighbour → Prop} {lost : Books → Prop}

/-- What holds when the handler is left, unless others have ended the hold before its settlement. -/
def Closed (c : Admitted) (r₀ : ModelRequest) (lost : Books → Prop) (index : Nat)
    (client : Client) (last : Bool)
    (called : List (Nat × Json)) (result : Except Failure Response) (d : DB) (g : Own) : Prop :=
  Tables c.reservation.requestId [] (index + 1) d ∧ g.called = called ∧
    ((∃ r, Ending c r₀ index client last result r ∧ Row lost c.reservation.requestId r d.books) ∨
      result = .ok (c.refuse 503 "调用成功但结算待人工对账" "settlement_pending") ∧ lost d.books)

/-- What holds when the `try` is left by an exception. -/
inductive Thrown (c : Admitted) (r₀ : ModelRequest) (lost : Books → Prop) (index : Nat)
    (client : Client) (ids : List Id)
    (called : List (Nat × Json)) (f : Failure) (d : DB) (g : Own) : Prop where
  /-- An error of the provider comes before any attempt is recorded. -/
  | refused (e : ProviderError) (provider : f = .provider e)
    (awaits : awaited c.args client = .error (.provider e))
      (stage : Stage c.reservation.requestId (client.attemptId :: ids) index
        (Row lost c.reservation.requestId r₀) called d g)
  | broken (breaks : Breaks c r₀ index client f)
      (stage : Stage c.reservation.requestId ids (index + 1)
        (Row lost c.reservation.requestId r₀) called d g)
  | unanswered (result : Json) (outcome : Option String) (t : SettlementTerms) (other : f = .other)
      (completes : Completes c r₀ index client result outcome t)
      (answers : answer c index client result outcome = .error .other)
      (stage : Stage c.reservation.requestId ids (index + 1)
        (Row lost c.reservation.requestId (t.row (c.settlement index client result) r₀)) called d g)

theorem Stage.closed {last : Bool} {result : Except Failure Response}
    {r : ModelRequest} {d : DB} {g : Own}
    (h : Stage c.reservation.requestId ids (index + 1)
      (Row lost c.reservation.requestId r) called d g)
    (hending : Ending c r₀ index client last result r) :
    Closed c r₀ lost index client last called result d g :=
  ⟨h.1.mono (List.nil_subset _) le_rfl, h.2.2, .inl ⟨r, hending, h.2.1⟩⟩

theorem outputOutcome_error {result : Json} {f : Failure} (h : outputOutcome c result = .error f) :
    ∀ e, f ≠ .provider e := by
  unfold outputOutcome at h
  split at h
  · cases h
  · rename_i check hcheck
    cases hx : check "output" c.args.payload.model
      ((result.get? (py "choices")).getD (.arr [])) with
    | interrupted i =>
      cases i <;> simp [hx, SafetyAnswer.outcome, Interrupt.failure, Except.map] at h <;> simp [← h]
    | _ => simp [hx, SafetyAnswer.outcome, Except.map] at h

theorem Breaks.own {f : Failure} (h : Breaks c r₀ index client f) : ∀ e, f ≠ .provider e := by
  cases h with
  | await f _ own => exact own
  | check result f _ checked => exact outputOutcome_error checked
  | _ => simp

theorem answer_error {result : Json} {outcome : Option String} {f : Failure}
    (h : answer c index client result outcome = .error f) : f = .other := by
  unfold answer respond at h
  split_ifs at h <;> cases h <;> rfl

/-- By how the `try` was left. -/
theorem meets_thrown {α : Type} {f : Failure} {x : Chat α} {Q : α → DB → Own → Prop}
    {R : Failure → DB → Own → Prop}
    (refused : ∀ e, f = .provider e → awaited c.args client = .error (.provider e) →
      Handler.Meets others
      (Stage c.reservation.requestId (client.attemptId :: ids) index
        (Row lost c.reservation.requestId r₀) called) x Q R)
    (broken : Breaks c r₀ index client f → Handler.Meets others
      (Stage c.reservation.requestId ids (index + 1) (Row lost c.reservation.requestId r₀) called) x
        Q R)
    (unanswered : ∀ result outcome t, f = .other → Completes c r₀ index client result outcome t →
      answer c index client result outcome = .error .other → Handler.Meets others
      (Stage c.reservation.requestId ids (index + 1)
        (Row lost c.reservation.requestId (t.row (c.settlement index client result) r₀)) called) x Q
          R) :
    Handler.Meets others (Thrown c r₀ lost index client ids called f) x Q R := by
  constructor
  · intro w w' a hw heq
    cases hw.2 with
    | refused e provider awaits stage => exact (refused e provider awaits).ok ⟨hw.1, stage⟩ heq
    | broken breaks stage => exact (broken breaks).ok ⟨hw.1, stage⟩ heq
    | unanswered result outcome t other completes answers stage =>
      exact (unanswered result outcome t other completes answers).ok ⟨hw.1, stage⟩ heq
  · intro w w' a hw heq
    cases hw.2 with
    | refused e provider awaits stage => exact (refused e provider awaits).error ⟨hw.1, stage⟩ heq
    | broken breaks stage => exact (broken breaks).error ⟨hw.1, stage⟩ heq
    | unanswered result outcome t other completes answers stage =>
      exact (unanswered result outcome t other completes answers).error ⟨hw.1, stage⟩ heq

section Serve

variable (henv : Around c.reservation.requestId r₀.createdAt ids' others lost)
  (hr₀ : r₀.status = .reserved)
  (hnew : client.attemptId ∉ ids) (hsub : client.attemptId :: ids ⊆ ids')

include henv hnew hsub in
theorem meets_attempt (status : String) (statusCode : Option Int) (category : Option String)
    {R : Failure → DB → Own → Prop} :
    Handler.Meets others
      (Stage c.reservation.requestId (client.attemptId :: ids) index
        (Row lost c.reservation.requestId r₀) called)
      (session (recordAttempt (c.attempt index client status statusCode category)))
      (fun _ => Stage c.reservation.requestId ids (index + 1)
        (Row lost c.reservation.requestId r₀) called) R :=
  meets_record (a := c.attempt index client status statusCode category) henv hnew rfl hsub

theorem Stage.thrown_first {f : Failure} {d : DB} {g : Own} (hf : awaited c.args client = .error f)
    (h : Stage c.reservation.requestId (client.attemptId :: ids) index
      (Row lost c.reservation.requestId r₀) called d g) :
    Thrown c r₀ lost index client ids called f d g := by
  by_cases hown : ∀ e, f ≠ .provider e
  · exact .broken (.await f hf hown)
      (h.mono (List.subset_cons_self ..) (Nat.le_succ _) fun _ hrow => hrow)
  · obtain ⟨e, he⟩ := not_forall_not.1 hown
    subst he
    exact .refused e rfl hf h

include henv hnew hsub in
theorem meets_forward (last : Bool) {openStream : Json → Except Failure UpstreamStream}
    (hopen : c.args.openStream client = some openStream) :
    Handler.Meets others
      (Stage c.reservation.requestId (client.attemptId :: ids) index
        (Row lost c.reservation.requestId r₀) called)
      (forward c index client openStream)
      (fun response => Closed c r₀ lost index client last called (.ok response))
      (Thrown c r₀ lost index client ids called) := by
  have hawaited : awaited c.args client = (openStream c.args.upstreamPayload).map .inl := by
    rw [awaited, hopen]
  unfold forward
  cases hstream : openStream c.args.upstreamPayload with
  | error f =>
    refine Handler.meets_bind
      (Handler.meets_lift (Q := fun _ _ _ => False) _ (by simp) fun f' hf d g h => ?_) fun _ =>
      Handler.meets_never fun _ _ h => h
    obtain rfl := Except.error.inj hf
    exact h.thrown_first (by rw [hawaited, hstream]; rfl)
  | ok stream =>
    rw [hstream] at hawaited
    refine Handler.meets_bind (Q := fun x d g => x = stream ∧
      Stage c.reservation.requestId (client.attemptId :: ids) index
        (Row lost c.reservation.requestId r₀) called d g)
      (Handler.meets_lift _ (fun x hx d g h => ⟨(Except.ok.inj hx).symm, h⟩) (by simp)) fun x =>
      Handler.meets_assume fun hx => ?_
    subst hx
    refine Handler.meets_bind
      (Handler.meets_tryExcept (fun _ _ _ => False) (meets_attempt henv hnew hsub ..) fun f =>
      Handler.meets_never fun _ _ h => h) fun _ =>
        Handler.meets_lift _ (fun response hr d g h => ?_) fun f hf d g h => ?_
    · split at hr
      · rename_i hname
        obtain rfl := Except.ok.inj hr
        exact h.closed (.forwarded x hawaited hname)
      · cases hr
    · split at hf
      · cases hf
      · rename_i hname
        obtain rfl := Except.error.inj hf
        exact .broken (.header x hawaited (by simpa using hname)) h

theorem meets_addAudit {requestId : Id} {tried : Nat} {row : Books → Prop} (audit : SafetyAudit) :
    Handler.Meets others (Stage requestId ids tried row called) (addAudit audit)
      (fun _ => Stage requestId ids tried row called)
      fun f d g => f = .raised .integrityError ∧ Stage requestId ids tried row called d g := by
  refine Handler.meets_note _ (fun d g u g' h heq => ?_) fun d g f h heq => ?_
  · split at heq
    · cases heq
      exact h
    · cases heq
  · split at heq
    · cases heq
    · cases heq
      exact ⟨rfl, h⟩

theorem meets_checkOutput {result : Json} (hawaited : awaited c.args client = .ok (.inr result)) :
    Handler.Meets others (Stage c.reservation.requestId ids (index + 1)
      (Row lost c.reservation.requestId r₀) called)
      (checkOutput c result)
      (fun outcome d g => outputOutcome c result = .ok outcome ∧
        Stage c.reservation.requestId ids (index + 1)
          (Row lost c.reservation.requestId r₀) called d g)
      (Thrown c r₀ lost index client ids called) := by
  cases hsafety : c.args.contentSafety with
  | none =>
    simp only [checkOutput, hsafety]
    exact Handler.meets_pure _ fun d g h => ⟨by simp [outputOutcome, hsafety], h⟩
  | some check =>
    have houtcome : outputOutcome c result = (check "output" c.args.payload.model
        ((result.get? (py "choices")).getD (.arr []))).outcome.map fun o => some o.outcome := by
      simp [outputOutcome, hsafety]
    simp only [checkOutput, hsafety]
    refine Handler.meets_bind (Q := fun o d g => outputOutcome c result = .ok (some o.outcome) ∧
      Stage c.reservation.requestId ids (index + 1)
        (Row lost c.reservation.requestId r₀) called d g)
      (Handler.meets_lift _ (fun o ho d g h => ⟨by rw [houtcome, ho]; rfl, h⟩) fun f hf d g h => ?_)
        fun o =>
      Handler.meets_assume fun ho => ?_
    · exact .broken (.check result f hawaited (by rw [houtcome, hf]; rfl)) h
    · refine Handler.meets_bind
        ((meets_addAudit _).mono (fun _ _ h => h) (fun _ _ _ h => h) fun f d g h => ?_) fun _ =>
        Handler.meets_pure _ fun _ _ h => ⟨ho, h⟩
      obtain ⟨rfl, h⟩ := h
      exact .broken (.audit result hawaited (by simp [hsafety])) h

include henv hr₀ hnew hsub in
theorem meets_buffer (last : Bool) (hopen : c.args.openStream client = none) :
    Handler.Meets others
      (Stage c.reservation.requestId (client.attemptId :: ids) index
        (Row lost c.reservation.requestId r₀) called)
      (buffer c index client)
      (fun response => Closed c r₀ lost index client last called (.ok response))
      (Thrown c r₀ lost index client ids called) := by
  have hawaited : awaited c.args client = (client.completion c.args.upstreamPayload).map .inr := by
    rw [awaited, hopen]
  unfold buffer
  cases hresult : client.completion c.args.upstreamPayload with
  | error f =>
    refine Handler.meets_bind
      (Handler.meets_lift (Q := fun _ _ _ => False) _ (by simp) fun f' hf d g h => ?_) fun _ =>
      Handler.meets_never fun _ _ h => h
    obtain rfl := Except.error.inj hf
    exact h.thrown_first (by rw [hawaited, hresult]; rfl)
  | ok result =>
    rw [hresult] at hawaited
    refine Handler.meets_bind (Q := fun x d g => x = result ∧
      Stage c.reservation.requestId (client.attemptId :: ids) index
        (Row lost c.reservation.requestId r₀) called d g)
      (Handler.meets_lift _ (fun x hx d g h => ⟨(Except.ok.inj hx).symm, h⟩) (by simp)) fun x =>
      Handler.meets_assume fun hx => ?_
    subst hx
    refine Handler.meets_bind (meets_attempt henv hnew hsub ..) fun _ =>
      Handler.meets_bind (meets_checkOutput hawaited)
      fun outcome => Handler.meets_assume fun houtcome => ?_
    refine Handler.meets_bind
      ((meets_settleOrMark henv (fun i hi => hsub (.tail _ hi)) hr₀).mono (fun _ _ h => h)
      (fun _ _ _ h => h) fun f d g h => ?_) fun settled => ?_
    · obtain ⟨e, rfl, hterms, h⟩ := h
      exact .broken (.terms x e hawaited hterms) h
    cases settled with
    | true =>
      refine Handler.meets_lift _ (fun response hr d g h => ?_) fun f hf d g h => ?_
      · obtain ⟨htables, ⟨t, hterms, hrow⟩, hcalled⟩ := h
        exact Stage.closed ⟨htables, hrow, hcalled⟩
          (.settled x outcome t response ⟨hawaited, houtcome, hterms⟩ hr)
      · obtain ⟨htables, ⟨t, hterms, hrow⟩, hcalled⟩ := h
        obtain rfl := answer_error hf
        exact .unanswered x outcome t rfl ⟨hawaited, houtcome, hterms⟩ hf ⟨htables, hrow, hcalled⟩
    | false =>
      exact Handler.meets_pure _ fun d g h =>
        ⟨h.1.mono (List.nil_subset _) le_rfl, h.2.2, .inr ⟨rfl, h.2.1⟩⟩

include henv hr₀ hnew hsub in
theorem meets_serve (last : Bool) :
    Handler.Meets others
      (Stage c.reservation.requestId (client.attemptId :: ids) index
        (Row lost c.reservation.requestId r₀) called)
      (serve c index client)
      (fun response => Closed c r₀ lost index client last
        (called ++ [(index, c.args.upstreamPayload)]) (.ok response))
      (Thrown c r₀ lost index client ids (called ++ [(index, c.args.upstreamPayload)])) := by
  refine Handler.meets_bind
    (Q := fun _ => Stage c.reservation.requestId (client.attemptId :: ids) index
    (Row lost c.reservation.requestId r₀) (called ++ [(index, c.args.upstreamPayload)])) ?_ fun _ =>
      ?_
  · refine Handler.meets_note _ (fun d g u g' h heq => ?_) fun d g f h heq => ?_
    · cases heq
      exact ⟨h.1, h.2.1, by rw [h.2.2]⟩
    · cases heq
  · cases hopen : c.args.openStream client with
    | some openStream => exact meets_forward henv hnew hsub last hopen
    | none => exact meets_buffer henv hr₀ hnew hsub last hopen

/-- The error lets the next client be tried. -/
structure Passes (a : ChatArgs) (client : Client) (e : ProviderError) : Prop where
  awaits : awaited a client = .error (.provider e)
  safe : e.safeToFailover
  unbilled : e.requestMayBeBillable = false

theorem marked_settled (a : MarkArgs) (t : SettlementTerms) (s : SettleArgs) (r : ModelRequest) :
    marked a (t.row s r) = t.row s r := by
  refine if_neg ?_
  simp only [SettlementTerms.row, settledRequest]
  split_ifs <;> simp

include henv hr₀ hnew hsub in
theorem meets_handle (last : Bool) (f : Failure) :
    Handler.Meets others (Thrown c r₀ lost index client ids called f) (handle c index client last f)
      (fun served d g =>
        (∀ response, served = .ok response → Closed c r₀ lost index client last called
          (.ok response) d g) ∧
        ∀ e, served = .error e → last = false ∧ Passes c.args client e ∧
          Stage c.reservation.requestId ids (index + 1)
            (Row lost c.reservation.requestId r₀) called d g)
      fun f' => Closed c r₀ lost index client last called (.error f') := by
  have hids : ids ⊆ ids' := fun i hi => hsub (.tail _ hi)
  have marks (category : String) (r : ModelRequest) (hr : r.createdAt = r₀.createdAt)
      {R : Failure → DB → Own → Prop} :
      Handler.Meets others (Stage c.reservation.requestId ids (index + 1)
        (Row lost c.reservation.requestId r) called)
        (session (markPendingReconciliation (c.mark index category (client.name index))))
        (fun _ => Stage c.reservation.requestId ids (index + 1)
          (Row lost c.reservation.requestId (marked (c.mark index category (client.name index)) r))
            called) R :=
    meets_mark (a := c.mark index category (client.name index)) (hr ▸ henv) hids
  have hmarked (a : MarkArgs) : marked a r₀ = pendingRequest a r₀ := if_pos hr₀
  cases f with
  | provider e =>
    refine meets_thrown (fun e' he hawaits => ?_) (fun hbreaks => absurd rfl (hbreaks.own e))
      (fun _ _ _ h => by cases h)
    cases he
    refine Handler.meets_bind (meets_attempt henv hnew hsub ..) fun _ => ?_
    cases hbill : e.requestMayBeBillable with
    | true =>
      rw [if_pos rfl]
      refine Handler.meets_bind (marks e.category r₀ rfl) fun _ =>
        Handler.meets_pure _ fun d g h => ⟨?_, by simp⟩
      rintro response ⟨⟩
      rw [hmarked] at h
      exact h.closed (.billable e hawaits hbill)
    | false =>
      rw [if_neg (by simp)]
      cases hgo : e.safeToFailover && !last with
      | true =>
        rw [if_pos rfl]
        refine Handler.meets_pure _ fun d g h => ⟨by simp, ?_⟩
        rintro e' ⟨⟩
        rw [Bool.and_eq_true] at hgo
        exact ⟨by simpa using hgo.2, ⟨hawaits, hgo.1, hbill⟩, h⟩
      | false =>
        rw [if_neg (by simp)]
        refine Handler.meets_bind (meets_release henv hids hr₀) fun _ =>
          Handler.meets_pure _ fun d g h => ⟨?_, by simp⟩
        rintro response ⟨⟩
        exact h.closed (.refused e hawaits hbill hgo)
  | cancelled =>
    refine meets_thrown (fun e he => by cases he) (fun hbreaks => ?_) (fun _ _ _ h => by cases h)
    refine Handler.meets_bind (marks "client_disconnected" r₀ rfl) fun _ =>
      Handler.meets_raise _ fun d g h => ?_
    rw [hmarked] at h
    exact h.closed (.cancelled hbreaks)
  | raised _ | other =>
    refine meets_thrown (fun e he => by cases he) (fun hbreaks => ?_)
      (fun result outcome t _ hcompletes hanswer => ?_)
    · refine Handler.meets_bind (marks "unexpected_provider_failure" r₀ rfl) fun _ =>
        Handler.meets_pure _ fun d g h => ⟨?_, by simp⟩
      rintro response ⟨⟩
      rw [hmarked] at h
      exact h.closed (.broken _ hbreaks (by simp))
    · refine Handler.meets_bind (marks "unexpected_provider_failure"
        (t.row (c.settlement index client result) r₀) rfl) fun _ =>
        Handler.meets_pure _ fun d g h => ⟨?_, by simp⟩
      rintro response ⟨⟩
      rw [marked_settled] at h
      exact h.closed (.unanswered result outcome t hcompletes hanswer)

end Serve

end Client

/-! ## The loop -/

/-- The calls of the first clients. -/
def calls (a : ChatArgs) (n : Nat) : List (Nat × Json) := (List.range n).map fun k =>
    (k, a.upstreamPayload)

theorem calls_succ (a : ChatArgs) (n : Nat) :
    calls a n ++ [(n, a.upstreamPayload)] = calls a (n + 1) := by
  simp [calls, List.range_succ]

/-- All clients before the last that was called have refused without billing. -/
def FailedOver (a : ChatArgs) (clients : List Client) (n : Nat) : Prop :=
  ∀ k < n, ∃ client e, clients[k]? = some client ∧ Passes a client e

/-- The client at which the handler is left, and how. -/
def ClosedAt (c : Admitted) (r₀ : ModelRequest) (lost : Books → Prop) (clients : List Client)
    (result : Except Failure Response) (d : DB) (g : Own) : Prop :=
  ∃ n client, clients[n]? = some client ∧ FailedOver c.args clients n ∧
    Closed c r₀ lost n client (n + 1 = clients.length) (calls c.args (n + 1)) result d g

section Loop

variable {c : Admitted} {r₀ : ModelRequest} {clients : List Client} {ids' : List Id}
  {others : Neighbour → Prop}
  {lost : Books → Prop}

theorem meets_tryClients (henv : Around c.reservation.requestId r₀.createdAt ids' others lost)
    (hr₀ : r₀.status = .reserved)
    {rest : List Client} (lastError : Option ProviderError) (index : Nat)
    (hrest : clients.drop index = rest)
    (hne : rest ≠ []) (hnodup : (rest.map Client.attemptId).Nodup)
    (hsub : rest.map Client.attemptId ⊆ ids')
    (hbefore : FailedOver c.args clients index) :
    Handler.Meets others
      (Stage c.reservation.requestId (rest.map Client.attemptId) index
        (Row lost c.reservation.requestId r₀) (calls c.args index))
      (tryClients c lastError index rest)
      (fun response => ClosedAt c r₀ lost clients (.ok response))
      fun f => ClosedAt c r₀ lost clients (.error f) := by
  induction rest generalizing lastError index with
  | nil => exact absurd rfl hne
  | cons client rest ih =>
    have hget : clients[index]? = some client := by
      rw [← List.head?_drop, hrest]
      rfl
    have hlen : clients.length = index + 1 + rest.length := by
      have hlt := (List.getElem?_eq_some_iff.1 hget).1
      have h := congrArg List.length hrest
      rw [List.length_drop, List.length_cons] at h
      omega
    have hlast : decide (index + 1 = clients.length) = rest.isEmpty := by
      rw [hlen]
      cases rest <;> simp
    have closedAt {result : Except Failure Response} {d : DB} {g : Own}
        (h : Closed c r₀ lost index client rest.isEmpty (calls c.args (index + 1)) result d g) :
        ClosedAt c r₀ lost clients result d g :=
      ⟨index, client, hget, hbefore, by rw [hlast]; exact h⟩
    obtain ⟨hnew, hnodup⟩ := List.nodup_cons.1 hnodup
    refine Handler.meets_bind (Q := fun served d g =>
      (∀ response, served = .ok response →
        Closed c r₀ lost index client rest.isEmpty (calls c.args (index + 1)) (.ok response) d g) ∧
      ∀ e, served = .error e → rest.isEmpty = false ∧ Passes c.args client e ∧
        Stage c.reservation.requestId (rest.map Client.attemptId) (index + 1)
          (Row lost c.reservation.requestId r₀)
          (calls c.args (index + 1)) d g) ?_ fun served => ?_
    · rw [← calls_succ]
      refine (Handler.meets_tryExcept _
        (Handler.meets_map (meets_serve henv hr₀ hnew hsub rest.isEmpty)
        fun response d g h => ⟨?_, by simp⟩) fun f => meets_handle henv hr₀ hnew hsub rest.isEmpty
          f).mono (fun _ _ h => h)
        (fun _ _ _ h => h) fun f d g h => closedAt (by rwa [← calls_succ])
      rintro response' ⟨⟩
      exact h
    · cases served with
      | ok response => exact Handler.meets_pure _ fun d g h => closedAt (h.1 response rfl)
      | error e =>
        refine Handler.Meets.mono
          (Handler.meets_assume fun (hpass : rest.isEmpty = false ∧ Passes c.args client e) =>
          ih (some e) (index + 1) ?_ (by simpa using hpass.1) hnodup
            (fun i hi => hsub (.tail _ hi)) fun k hk => ?_)
          (fun d g h => ⟨⟨(h.2 e rfl).1, (h.2 e rfl).2.1⟩, (h.2 e rfl).2.2⟩)
            (fun _ _ _ h => h) fun _ _ _ h => h
        · rw [← List.drop_drop, hrest]
          rfl
        · rcases Nat.lt_succ_iff_lt_or_eq.1 hk with hk | rfl
          · exact hbefore k hk
          · exact ⟨client, e, hget, hpass.2⟩

end Loop

/-! ## The handler -/

/-- The row of an admission, and what is returned of it. -/
def Admits (a : ReserveArgs) (v : Reservation) (r : ModelRequest) : Prop :=
  ∃ price budgetId, r = reservedRequest a price v.amount v.estimatedInputTokens budgetId ∧
    v = ⟨a.requestId, v.amount, v.estimatedInputTokens, price.inputMicrousdPerMillion,
      price.outputMicrousdPerMillion⟩

/-- A refusal without a request. -/
def Response.Refusal (response : Response) : Prop :=
  ∃ statusCode message code, response = .error statusCode message code none

/-- How the handler is left: before an admission, or at one of its clients. -/
def Finished (a : ChatArgs) (lost : Books → Prop) (result : Except Failure Response)
    (d : DB) (g : Own) : Prop :=
  (Intact d ∧ g.called = [] ∧ Absent a.requestId d.books ∧
    ∀ response, result = .ok response → response.Refusal) ∨
  ∃ v r₀, Admits a.reserveArgs v r₀ ∧ ClosedAt ⟨a, v⟩ r₀ lost a.eligible result d g

section Admission

variable {a : ChatArgs} {ids : List Id} {tried : Nat} {called : List (Nat × Json)}
  {others : Neighbour → Prop}
  {lost : Books → Prop}

theorem reserveModelRequest_admits {a : ReserveArgs} {v : Reservation} {d d' : DB}
    (h : Tx.run (reserveModelRequest a) d = (.ok v, d')) :
    ∃ r, Admits a v r ∧ d'.requests.get? a.requestId = some r := by
  rw [Tx.run_ok] at h
  obtain ⟨t, h, rfl⟩ := h
  simp only [reserveModelRequest, Tx.bind_ok, Tx.select_ok, Tx.orRaise_ok, Tx.raiseIf_ok,
    Tx.lift_ok, conflictsAs_ok, Tx.pure_ok] at h
  obtain ⟨_, _, ⟨-, rfl⟩, price, _, ⟨-, rfl⟩, _, _, ⟨-, rfl⟩, estimate, _, ⟨-, rfl⟩,
    bound, _, ⟨-, rfl⟩, ci, _, ⟨-, rfl⟩, co, _, ⟨-, rfl⟩, _, _, ⟨-, rfl⟩, _, _, ⟨-, rfl⟩, _, _,
    hadmission, rfl, rfl⟩ := h
  obtain ⟨budgetId, hrow⟩ := admission_row hadmission
  exact ⟨_, ⟨price, budgetId, rfl, rfl⟩, hrow⟩

theorem Admits.id {a : ReserveArgs} {v : Reservation} {r : ModelRequest} (h : Admits a v r) :
    v.requestId = a.requestId := by
  obtain ⟨_, _, -, hv⟩ := h
  rw [hv]

theorem Admits.reserved {a : ReserveArgs} {v : Reservation} {r : ModelRequest} (h : Admits a v r) :
    r.status = .reserved := by
  obtain ⟨_, _, rfl, -⟩ := h
  rfl

theorem Admits.createdAt {a : ReserveArgs} {v : Reservation} {r : ModelRequest}
    (h : Admits a v r) : r.createdAt = a.createdAt := by
  obtain ⟨_, _, rfl, -⟩ := h
  rfl

theorem meets_reserve (henv : Around a.requestId a.createdAt ids others lost) :
    Handler.Meets others (Stage a.requestId ids tried (Absent a.requestId) called)
      (session (reserveModelRequest a.reserveArgs))
      (fun v d g => ∃ r₀, Admits a.reserveArgs v r₀ ∧
        Stage a.requestId ids tried (Row lost a.requestId r₀) called d g)
      fun _ => Stage a.requestId ids tried (Absent a.requestId) called := by
  refine Handler.meets_session (fun n d g hn hP => ?_) (fun d g v d' hP hrun => ?_)
    fun d g e d' hP hrun => ?_
  · exact ⟨hP.1.act (henv.apart n hn) (List.Subset.refl _), (henv.apart n hn).absent hP.2.1, hP.2.2⟩
  · have hmoves : Moves .callerRun d.books (Tx.run (reserveModelRequest a.reserveArgs) d).2.books :=
      reserveModelRequest_moves _ _ trivial
    have hattempts : (Tx.run (reserveModelRequest a.reserveArgs) d).2.attempts = d.attempts :=
      (keepsAll_sameAttempts.toKeepsMoney.reserveModelRequest a.reserveArgs).run d
    rw [hrun] at hmoves hattempts
    obtain ⟨r, hadmits, hr⟩ := reserveModelRequest_admits hrun
    exact ⟨r, hadmits, hP.1.moves hmoves trivial hattempts, .inl hr, hP.2.2⟩
  · rcases Tx.run_cases (atomic_reserveModelRequest a.reserveArgs) d with h | ⟨v, t, h, -⟩
    · rw [hrun] at h
      obtain rfl : d' = d := h
      exact hP
    · rw [Tx.run, h] at hrun
      cases (Prod.mk.inj hrun).1

theorem meets_checkInput :
    Handler.Meets others (Stage a.requestId ids tried (Absent a.requestId) called) (checkInput a)
      (fun stop d g => (∀ response, stop = some response → response.Refusal) ∧
        Stage a.requestId ids tried (Absent a.requestId) called d g)
      fun _ => Stage a.requestId ids tried (Absent a.requestId) called := by
  unfold checkInput
  split
  · exact Handler.meets_pure _ fun d g h => ⟨by simp, h⟩
  · refine Handler.meets_bind (Handler.meets_lift _ (fun _ _ _ _ h => h) fun _ _ _ _ h => h)
      fun o =>
      Handler.meets_bind ((meets_addAudit _).mono (fun _ _ h => h) (fun _ _ _ h => h)
        fun _ _ _ h => h.2) fun _ => ?_
    split_ifs
    · exact Handler.meets_pure _ fun d g h => ⟨by simp [Response.Refusal], h⟩
    · exact Handler.meets_pure _ fun d g h => ⟨by simp [Response.Refusal], h⟩
    · exact Handler.meets_pure _ fun d g h => ⟨by simp, h⟩

theorem meets_reserveOrRefuse (henv : Around a.requestId a.createdAt ids others lost) :
    Handler.Meets others (Stage a.requestId ids tried (Absent a.requestId) called)
      (reserveOrRefuse a)
      (fun admitted d g =>
        (∀ v, admitted = .ok v → ∃ r₀, Admits a.reserveArgs v r₀ ∧
          Stage a.requestId ids tried (Row lost a.requestId r₀) called d g) ∧
        ∀ response, admitted = .error response → response.Refusal ∧
          Stage a.requestId ids tried (Absent a.requestId) called d g)
      fun _ => Stage a.requestId ids tried (Absent a.requestId) called := by
  refine Handler.meets_tryExcept (fun _ => Stage a.requestId ids tried (Absent a.requestId) called)
    (Handler.meets_map (meets_reserve henv) fun v d g h => ⟨?_, by simp⟩) fun f => ?_
  · rintro v' ⟨⟩
    exact h
  · split
    · refine Handler.meets_pure _ fun d g h => ⟨by simp, ?_⟩
      rintro response ⟨⟩
      exact ⟨⟨_, _, _, rfl⟩, h⟩
    · exact Handler.meets_raise _ fun d g h => h

theorem meets_bindInputAudit {row : Books → Prop} {R : Failure → DB → Own → Prop} (requestId : Id) :
    Handler.Meets others (Stage a.requestId ids tried row called) (bindInputAudit a requestId)
      (fun _ => Stage a.requestId ids tried row called) R := by
  unfold bindInputAudit
  split_ifs
  · refine Handler.meets_note _ (fun d g u g' h heq => ?_) fun d g f h heq => ?_
    · cases heq
      exact h
    · cases heq
  · exact Handler.meets_pure _ fun d g h => h

theorem meets_chatCompletions
    (henv : Around a.requestId a.createdAt (a.eligible.map Client.attemptId) others lost)
    (hnodup : (a.eligible.map Client.attemptId).Nodup) :
    Handler.Meets others (Stage a.requestId (a.eligible.map Client.attemptId) 0 (Absent a.requestId)
      []) (chatCompletions a)
      (fun response => Finished a lost (.ok response)) fun f => Finished a lost (.error f) := by
  have refused (response : Response) (hr : response.Refusal) (d : DB) (g : Own)
      (h : Stage a.requestId (a.eligible.map Client.attemptId) 0 (Absent a.requestId) [] d g) :
      Finished a lost (.ok response) d g := by
    refine .inl ⟨h.1.intact, h.2.2, h.2.1, ?_⟩
    rintro response' ⟨⟩
    exact hr
  have raised (f : Failure) (d : DB) (g : Own)
      (h : Stage a.requestId (a.eligible.map Client.attemptId) 0 (Absent a.requestId) [] d g) :
      Finished a lost (.error f) d g := .inl ⟨h.1.intact, h.2.2, h.2.1, by simp⟩
  unfold chatCompletions
  split_ifs with hkey hmax heligible
  · exact Handler.meets_pure _ (refused _ ⟨_, _, _, rfl⟩)
  · exact Handler.meets_pure _ (refused _ ⟨_, _, _, rfl⟩)
  · exact Handler.meets_pure _ (refused _ ⟨_, _, _, rfl⟩)
  refine Handler.meets_bind (meets_checkInput.mono (fun _ _ h => h) (fun _ _ _ h => h) raised)
    fun stop => ?_
  cases stop with
  | some response =>
    exact Handler.meets_pure _ fun d g h => refused response (h.1 response rfl) d g h.2
  | none =>
    refine Handler.meets_bind ((meets_reserveOrRefuse henv).mono (fun _ _ h => h.2)
      (fun _ _ _ h => h) raised) fun admitted => ?_
    cases admitted with
    | error response =>
      exact Handler.meets_pure _ fun d g h => refused response (h.2 response rfl).1 d g
        (h.2 response rfl).2
    | ok v =>
      have each (r₀ : ModelRequest) (hadmits : Admits a.reserveArgs v r₀) : Handler.Meets others
          (Stage a.requestId (a.eligible.map Client.attemptId) 0 (Row lost a.requestId r₀) [])
          (bindInputAudit a v.requestId >>= fun _ => tryClients ⟨a, v⟩ none 0 a.eligible)
          (fun response => Finished a lost (.ok response)) fun f => Finished a lost (.error f) := by
        have hid : (⟨a, v⟩ : Admitted).reservation.requestId = a.requestId := hadmits.id
        have hcreated : r₀.createdAt = a.createdAt := hadmits.createdAt
        have hloop := meets_tryClients (c := ⟨a, v⟩) (by rw [hid, hcreated]; exact henv)
          hadmits.reserved none 0
          rfl heligible hnodup (List.Subset.refl _) fun k hk => absurd hk (Nat.not_lt_zero k)
        rw [hid] at hloop
        exact Handler.meets_bind (meets_bindInputAudit v.requestId) fun _ =>
          hloop.mono (fun _ _ h => h)
          (fun _ _ _ h => .inr ⟨v, r₀, hadmits, h⟩) fun _ _ _ h => .inr ⟨v, r₀, hadmits, h⟩
      refine Handler.Meets.mono (Handler.meets_exists fun r₀ => Handler.meets_assume (each r₀))
        (fun d g h => h.1 v rfl) (fun _ _ _ h => h) fun _ _ _ h => h

end Admission

/-! ## From the start -/

theorem stage_after {a : ChatArgs} {ids : List Id} {d : DB} (hd : d.Opened)
    (hattempts : d.attempts.rows = [])
    {past : List Neighbour} (hpast : ∀ n ∈ past, n.Apart a.requestId ids)
    (audits : Table SafetyAudit SafetyAudit.id) :
    Stage a.requestId ids 0 (Absent a.requestId) []
      (Run.after Neighbour.act d past) ⟨[], audits⟩ := by
  have hstart : Tables a.requestId ids 0 d ∧ Absent a.requestId d.books := by
    refine ⟨⟨⟨hd.sound, hd.holds, ?_, ?_⟩, ?_, ?_⟩, ?_⟩
    · exact forall_nil hd.ledger _
    · rw [hattempts]
      rfl
    · exact forall_nil hattempts _
    · intro i _
      simp [Table.get?, hattempts]
    · show d.requests.get? a.requestId = none
      simp [Table.get?, hd.requests]
  have hafter := Run.invariant (I := fun d => Tables a.requestId ids 0 d ∧
    Absent a.requestId d.books)
    (fun d n h hn => ⟨h.1.act hn (List.Subset.refl _), hn.absent h.2⟩) hstart
    (Run.along_of_forall d fun n hn _ => hpast n hn)
  exact ⟨hafter.1, hafter.2, rfl⟩

section Start

variable (a : ChatArgs) {d : DB} {past : List Neighbour} {turns : List (List Neighbour)}
  {others : Neighbour → Prop}
  {lost : Books → Prop} {result : Except Failure Response} {w : Scene DB Neighbour Own}

theorem finished_of_run
    (henv : Around a.requestId a.createdAt (a.eligible.map Client.attemptId) others lost)
    (hnodup : (a.eligible.map Client.attemptId).Nodup) (hd : d.Opened)
    (hattempts : d.attempts.rows = [])
    (hpast : ∀ n ∈ past, n.Apart a.requestId (a.eligible.map Client.attemptId))
    (hturns : ∀ turn ∈ turns, ∀ n ∈ turn, others n) (audits : Table SafetyAudit SafetyAudit.id)
    (hrun : chatCompletions a ⟨Run.after Neighbour.act d past, turns, ⟨[], audits⟩⟩ = (result, w)) :
    Handler.Holds others (Finished a lost result) w := by
  have hmeets := meets_chatCompletions henv hnodup
  have hstart := stage_after hd hattempts hpast audits
  cases result with
  | ok response => exact hmeets.ok ⟨hturns, hstart⟩ hrun
  | error f => exact hmeets.error ⟨hturns, hstart⟩ hrun

/-- What the row says when the response is given. -/
def Told (requestId : Id) : Response → Books → Prop
  | .error _ _ _ none, b => Absent requestId b
  | .error _ _ _ (some i), b => i = requestId ∧ b.Left requestId
  | .completion _ i provider, b => i = requestId ∧
      ∃ r, b.requests.get? requestId = some r ∧ r.Settled ∧ r.finalProvider = some provider
  | .synthesized _ i provider, b => i = requestId ∧
      ∃ r, b.requests.get? requestId = some r ∧ r.Settled ∧ r.finalProvider = some provider
  | .forwarded _ i, b => i = requestId ∧ ∃ r, b.requests.get? requestId = some r

/-- What the row says when the handler is left, by a response or by an exception. -/
def Disposed (requestId : Id) : Except Failure Response → Books → Prop
  | .ok response, b => Told requestId response b
  | .error f, b => Absent requestId b ∨ f = .cancelled ∧ b.Left requestId

/-- The calls that have been made, and why. -/
def Discipline (a : ChatArgs) (g : Own) : Prop :=
  ∃ n ≤ a.eligible.length, g.called = calls a n ∧ FailedOver a a.eligible (n - 1)

theorem settled_row (t : SettlementTerms) (s : SettleArgs) (r : ModelRequest) :
    (t.row s r).Settled := by
  simp only [ModelRequest.Settled, SettlementTerms.row, settledRequest]
  split_ifs <;> simp

theorem answer_told {c : Admitted} {index : Nat} {client : Client} {json : Json}
    {outcome : Option String}
    {response : Response} {b : Books} {r : ModelRequest}
    (h : answer c index client json outcome = .ok response)
    (hr : b.requests.get? c.reservation.requestId = some r) (hs : r.Settled)
    (hp : r.finalProvider = some (client.name index)) :
    Told c.reservation.requestId response b := by
  have hleft : b.Left c.reservation.requestId :=
    ⟨r, hr, by rcases hs with hs | hs <;> rw [hs] <;> simp⟩
  unfold answer respond at h
  split_ifs at h <;> cases h
  · exact ⟨rfl, hleft⟩
  · exact ⟨rfl, hleft⟩
  · exact ⟨rfl, r, hr, hs, hp⟩
  · exact ⟨rfl, r, hr, hs, hp⟩

theorem Closed.disposed {c : Admitted} {r₀ : ModelRequest} {index : Nat}
    {client : Client} {last : Bool}
    {called : List (Nat × Json)} {g : Own} (hleft : ∀ b, lost b → b.Left c.reservation.requestId)
    (h : Closed c r₀ lost index client last called result d g) :
    Disposed c.reservation.requestId result d.books := by
  obtain ⟨-, -, ⟨r, hending, hrow⟩ | ⟨rfl, hlost⟩⟩ := h
  · cases hending with
    | refused e awaits unbilled stays =>
      exact ⟨rfl, hrow.left hleft (by simp [releasedRequest, Admitted.release])⟩
    | billable e awaits billable => exact ⟨rfl, hrow.left hleft (by simp [pendingRequest])⟩
    | cancelled breaks => exact .inr ⟨rfl, hrow.left hleft (by simp [pendingRequest])⟩
    | broken f breaks going => exact ⟨rfl, hrow.left hleft (by simp [pendingRequest])⟩
    | settled json outcome t response completes answers =>
      rcases hrow with hrow | ⟨-, hsettled⟩
      · exact answer_told answers hrow (settled_row ..) rfl
      · exact absurd (settled_row ..) hsettled
    | unanswered json outcome t completes answers =>
      refine ⟨rfl, hrow.left hleft ?_⟩
      rcases settled_row t (c.settlement index client json) r₀ with hs | hs <;> rw [hs] <;> simp
    | forwarded stream awaits name => exact ⟨rfl, hrow.present hleft⟩
  · exact ⟨rfl, hleft _ hlost⟩

/-- However others interleave, the handler calls a client only after all before it have refused
without billing, and the row agrees with what it returns or raises. -/
theorem chat_disposed (hnodup : (a.eligible.map Client.attemptId).Nodup) (hd : d.Opened)
    (hattempts : d.attempts.rows = [])
    (hpast : ∀ n ∈ past, n.Apart a.requestId (a.eligible.map Client.attemptId))
    (hturns : ∀ turn ∈ turns, ∀ n ∈ turn, n.Apart a.requestId (a.eligible.map Client.attemptId))
    (audits : Table SafetyAudit SafetyAudit.id)
    (hrun : chatCompletions a ⟨Run.after Neighbour.act d past, turns, ⟨[], audits⟩⟩ = (result, w)) :
    Intact w.db ∧ Disposed a.requestId result w.db.books ∧ Discipline a w.own := by
  rcases (finished_of_run a around_apart hnodup hd hattempts hpast hturns audits hrun).2 with
    ⟨hintact, hcalled, habsent, hrefusal⟩ | ⟨v, r₀, hadmits, n, client, hget, hover, hclosed⟩
  · refine ⟨hintact, ?_, 0, Nat.zero_le _, hcalled, fun k hk => absurd hk (Nat.not_lt_zero k)⟩
    cases result with
    | ok response =>
      obtain ⟨_, _, _, rfl⟩ := hrefusal response rfl
      exact habsent
    | error f => exact .inl habsent
  · have hid : (⟨a, v⟩ : Admitted).reservation.requestId = a.requestId := hadmits.id
    have hdisposed := hclosed.disposed fun b hb => by rwa [hid]
    rw [hid] at hdisposed
    exact ⟨hclosed.1.intact, hdisposed, n + 1, (List.getElem?_eq_some_iff.1 hget).1, hclosed.2.1,
      hover⟩

/-- The handler has ended the hold itself. -/
structure EndedBy (a : ChatArgs) (result : Except Failure Response)
    (w : Scene DB Neighbour Own) (v : Reservation)
    (r₀ r : ModelRequest) (n : Nat) (client : Client) : Prop where
  admits : Admits a.reserveArgs v r₀
  last : a.eligible[n]? = some client
  called : w.own.called = calls a (n + 1)
  failedOver : FailedOver a a.eligible n
  ending : Ending ⟨a, v⟩ r₀ n client (n + 1 = a.eligible.length) result r
  row : w.db.requests.get? a.requestId = some r

theorem Closed.endedBy {v : Reservation} {r₀ : ModelRequest} {n : Nat} {client : Client}
    (hadmits : Admits a.reserveArgs v r₀) (hget : a.eligible[n]? = some client)
    (hover : FailedOver a a.eligible n)
    (h : Closed ⟨a, v⟩ r₀ (fun _ => False) n client (n + 1 = a.eligible.length) (calls a (n + 1))
      result w.db w.own) :
    ∃ r, EndedBy a result w v r₀ r n client := by
  obtain ⟨-, hcalled, hclosed⟩ := h
  obtain ⟨r, hending, hrow⟩ := hclosed.resolve_right fun h => h.2
  have hrow := hrow.resolve_right fun h => h.1
  rw [show (⟨a, v⟩ : Admitted).reservation.requestId = a.requestId from hadmits.id] at hrow
  exact ⟨r, hadmits, hget, hcalled, hover, hending, hrow⟩

theorem Finished.ended (h : Finished a (fun _ => False) result w.db w.own) :
    (w.own.called = [] ∧ w.db.requests.get? a.requestId = none) ∨
      ∃ v r₀ r n client, EndedBy a result w v r₀ r n client := by
  rcases h with ⟨-, hcalled, habsent, -⟩ | ⟨v, r₀, hadmits, n, client, hget, hover, hclosed⟩
  · exact .inl ⟨hcalled, habsent⟩
  · obtain ⟨r, hended⟩ := hclosed.endedBy a hadmits hget hover
    exact .inr ⟨v, r₀, r, n, client, hended⟩

end Start

/-- Each gives the same answer to every call. -/
def fixedClient (name : String) (answer : Except Failure Json) : Client where
  providerName := some name
  supportsModel := none
  upstreamPrices := none
  call _ := answer
  openStream := none
  attemptId := name ++ "-attempt"

/-- The first client is busy, and the second answers. -/
def secondAnswers : ChatArgs where
  payload := ⟨"m", [.obj [(py "role", .str (py "user")), (py "content", .str (py "hi"))]],
    none, some 10, false, [(py "model", .str (py "m"))]⟩
  userId := "u"
  apiKeyId := "k"
  idempotencyKey := some "once"
  orderedClients := [fixedClient "first" (.error (.provider (providerError 429 none none none))),
    fixedClient "second" (.ok (settlementResponse "m" 20 5))]
  settings := ⟨100, 1000, ""⟩
  contentSafety := none
  requestId := "q"
  inputAuditId := "input"
  outputAuditId := "output"
  selectNow := 0
  updateNow := 0
  createdAt := 0
  now := 0
  text := Json.dumps

/-- Meanwhile another handler admits a request and records its attempt. -/
def besideIt : List (List Neighbour) :=
  [[], [.op (.reserveModelRequest ⟨"u", "k", "m", .null, 10, none, "r", 0, 0, 0⟩)],
    [.attempt ⟨"r", 1, "first", "m", "succeeded", some 200, none, "other-attempt"⟩]]

theorem chat_disposed_second :
    let run := chatCompletions secondAnswers
      ⟨Run.after Neighbour.act shop ((chat.take 3).map .op), besideIt, ⟨[], .empty⟩⟩
    run.2.own.called.map Prod.fst = [0, 1] ∧ (run.2.db.requests.get? "q").map
      (·.status) = some .settled ∧
      Disposed "q" run.1 run.2.db.books ∧ Discipline secondAnswers run.2.own := by
  intro run
  refine ⟨by decide +kernel, by decide +kernel, ?_⟩
  refine (chat_disposed secondAnswers (by decide) opened_shop rfl (fun n hn => ?_)
    (fun turn hturn n hn => ?_) .empty rfl).2
  · obtain ⟨op, hop, rfl⟩ := List.mem_map.1 hn
    simp only [chat, List.take_succ_cons, List.take_zero, List.mem_cons, List.not_mem_nil,
      or_false] at hop
    rcases hop with rfl | rfl | rfl <;> exact ⟨trivial, by decide⟩
  · simp only [besideIt, List.mem_cons, List.not_mem_nil, or_false] at hturn
    rcases hturn with rfl | rfl | rfl
    · cases hn
    · obtain rfl := List.mem_singleton.1 hn
      exact ⟨trivial, by decide⟩
    · obtain rfl := List.mem_singleton.1 hn
      exact ⟨by decide, by decide⟩

end Kunlun.Completions
