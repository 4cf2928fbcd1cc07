import Kunlun.Completions.Failover

/-!
# Reports

What the caller is told at the end of a chat, and what the row of its request says then, with the
sweeper of stale reservations between the sessions of the handler.
-/

namespace Kunlun.Completions

/-! ## The sweeper between the sessions -/

/-- What the sweeper makes of a row. -/
def swept (leaseSeconds : Int) (now : Time) (r : ModelRequest) : ModelRequest :=
  if r.status = .reserved ∧ r.createdAt ≤ now - leaseSeconds * second then
    { r with
      status := .pendingReconciliation
      failureCategory := some "reservation_lease_expired" }
  else r

theorem exec_sweep (leaseSeconds : Int) (now : Time) (d : DB) :
    exec (.recoverStaleModelReservations leaseSeconds now) d = d ∨
      ∀ i, (exec (.recoverStaleModelReservations leaseSeconds now) d).requests.get? i =
        (d.requests.get? i).map (swept leaseSeconds now) := by
  unfold exec Op.service
  rw [run_discard]
  rcases Tx.run_cases (atomic_recoverStaleModelReservations leaseSeconds now) d with
    heq | ⟨n, t, h, heq⟩ <;> rw [heq]
  · exact .inl rfl
  · refine .inr fun i => ?_
    simp [recoverStaleModelReservations, Session.fresh, DB.updateRequests] at h
    obtain ⟨-, rfl, -⟩ := h
    simp only [Table.get?_update]
    congr 1
    funext r
    simp [swept]

/-- The others leave the row of the request, or sweep. -/
def Neighbour.Sweeps (requestId : Id) (n : Neighbour) : Prop :=
  n.Spares requestId ∨
    ∃ leaseSeconds now, n = .op (.recoverStaleModelReservations leaseSeconds now)

/-- A sweep that takes the reservations that were made at the time. -/
def Neighbour.Takes (createdAt : Time) (n : Neighbour) : Prop :=
  ∃ leaseSeconds now, n = .op (.recoverStaleModelReservations leaseSeconds now) ∧
    createdAt ≤ now - leaseSeconds * second

/-- The row waits for an operator. -/
def Queued (requestId : Id) (b : Books) : Prop :=
  ∃ r, b.requests.get? requestId = some r ∧ r.status = .pendingReconciliation

section Sweeps

variable {requestId : Id} {createdAt : Time} {ids : List Id} {n : Neighbour} {d : DB}
  {r : ModelRequest}

theorem Neighbour.Sweeps.row (h : n.Sweeps requestId) (hr : d.requests.get? requestId = some r) :
    (n.act d).requests.get? requestId = some r ∨
      n.Takes r.createdAt ∧ r.status = .reserved ∧ Queued requestId (n.act d).books := by
  rcases h with h | ⟨leaseSeconds, now, rfl⟩
  · exact .inl ((h d).trans hr)
  · rcases exec_sweep leaseSeconds now d with heq | heq
    · left
      show (exec _ d).requests.get? requestId = some r
      rw [heq]
      exact hr
    · have hrow : (exec (.recoverStaleModelReservations leaseSeconds now) d).requests.get?
          requestId = some (swept leaseSeconds now r) := by rw [heq, hr]; rfl
      by_cases htakes : r.status = .reserved ∧ r.createdAt ≤ now - leaseSeconds * second
      · refine .inr ⟨⟨leaseSeconds, now, rfl, htakes.2⟩, htakes.1, _, hrow, ?_⟩
        rw [swept, if_pos htakes]
      · rw [swept, if_neg htakes] at hrow
        exact .inl hrow

/-- A row that the sweeper has taken stays where it is. -/
theorem Neighbour.Sweeps.queued (h : n.Sweeps requestId) (hq : Queued requestId d.books) :
    Queued requestId (n.act d).books := by
  obtain ⟨r, hr, hs⟩ := hq
  rcases h.row hr with hrow | ⟨-, -, hrow⟩
  · exact ⟨r, hrow, hs⟩
  · exact hrow

theorem around_swept :
    Around requestId createdAt ids (fun n => n.Apart requestId ids ∧ n.Sweeps requestId)
      (Queued requestId) where
  apart _ h := h.1
  left b h := by
    obtain ⟨r, hr, hs⟩ := h
    exact ⟨r, hr, by rw [hs]; decide⟩
  row n d r h _ hrow := by
    rcases hrow with hrow | ⟨hqueued, hr⟩
    · rcases h.2.row hrow with hrow | ⟨-, hs, hqueued⟩
      · exact .inl hrow
      · refine .inr ⟨hqueued, ?_⟩
        rintro (hr | hr) <;> rw [hr] at hs <;> cases hs
    · exact .inr ⟨h.2.queued hqueued, hr⟩

theorem around_missed :
    Around requestId createdAt ids
      (fun n => n.Apart requestId ids ∧ n.Sweeps requestId ∧ ¬ n.Takes createdAt)
      fun _ => False where
  apart _ h := h.1
  left _ h := h.elim
  row n d r h hcreated hrow := by
    have hrow := hrow.resolve_right fun h => h.1
    refine .inl ((h.2.1.row hrow).resolve_right fun htakes => h.2.2 ?_)
    rw [← hcreated]
    exact htakes.1

end Sweeps

/-! ## What the caller is told -/

/-- The result is withheld, or becomes a response. -/
def Deliverable (c : Admitted) (index : Nat) (client : Client) (result : Json) : Prop :=
  outputOutcome c result = .ok (some "unavailable") ∨
    outputOutcome c result = .ok (some "blocked") ∨
    latin1 (client.name index) ∧ (c.args.payload.stream ∨ renders (completed c result))

/-- The result of the client after those that refuse without billing is withheld, or becomes a
response. -/
def Delivers (a : ChatArgs) : Prop :=
  ∀ (v : Reservation) n client result, v.requestId = a.requestId → a.eligible[n]? = some client →
    FailedOver a a.eligible n → awaited a client = .ok (.inr result) →
    Deliverable ⟨a, v⟩ n client result

/-- What the row says of each response about a request, and what the others have to leave for it. -/
structure Reports (a : ChatArgs) (turns : List (List Neighbour)) (result : Except Failure Response)
    (b : Books) : Prop where
  completion : ∀ content i provider, result = .ok (.completion content i provider) →
    i = a.requestId ∧ ∃ r, b.requests.get? a.requestId = some r ∧ r.Settled
  pending : ∀ statusCode message code i,
    result = .ok (.error statusCode message code (some i)) →
    message ≠ "模型供应商拒绝或不可用" →
    code = "reconciliation_pending" ∨ code = "settlement_pending" →
    (∀ turn ∈ turns, ∀ n ∈ turn, n.Sweeps a.requestId) → Delivers a →
    i = a.requestId ∧ Queued a.requestId b
  rejection : ∀ statusCode code i,
    result = .ok (.error statusCode "模型供应商拒绝或不可用" code (some i)) →
    (∀ turn ∈ turns, ∀ n ∈ turn, n.Sweeps a.requestId ∧ ¬ n.Takes a.createdAt) →
    i = a.requestId ∧ ∃ r, b.requests.get? a.requestId = some r ∧ r.status = .failed

theorem Deliverable.answers {c : Admitted} {index : Nat} {client : Client} {result : Json}
    {outcome : Option String} (h : Deliverable c index client result)
    (hchecked : outputOutcome c result = .ok outcome) :
    ∃ response, answer c index client result outcome = .ok response := by
  unfold answer respond
  split_ifs with h1 h2 hname hstream hrenders
  any_goals exact ⟨_, rfl⟩
  all_goals
    rcases h with h | h | ⟨hname', h | h⟩
    · exact absurd (Except.ok.inj (hchecked.symm.trans h)) h1
    · exact absurd (Except.ok.inj (hchecked.symm.trans h)) h2
    · first | exact absurd h hstream | exact absurd hname' hname
    · first | exact absurd h hrenders | exact absurd hname' hname

section Endings

variable {c : Admitted} {r₀ r : ModelRequest} {n : Nat} {client : Client} {last : Bool}
  {statusCode : Int} {message code : String} {i : Id} {result : Except Failure Response}

/-- A settled request is told neither to be pending nor to be rejected. -/
theorem answer_refusal {json : Json} {outcome : Option String}
    (h : answer c n client json outcome = .ok (.error statusCode message code (some i))) :
    message ≠ "模型供应商拒绝或不可用" ∧ code ≠ "reconciliation_pending" ∧
      code ≠ "settlement_pending" := by
  unfold answer respond at h
  split_ifs at h <;> cases h <;> decide

theorem Ending.pending (h : Ending c r₀ n client last result r)
    (hresult : result = .ok (.error statusCode message code (some i)))
    (hmessage : message ≠ "模型供应商拒绝或不可用")
    (hcode : code = "reconciliation_pending" ∨ code = "settlement_pending")
    (hdelivers : ∀ json, awaited c.args client = .ok (.inr json) → Deliverable c n client json) :
    i = c.reservation.requestId ∧ r.status = .pendingReconciliation := by
  cases h with
  | refused e awaits unbilled stays =>
    cases hresult
    exact absurd rfl hmessage
  | billable e awaits billable =>
    cases hresult
    exact ⟨rfl, rfl⟩
  | cancelled breaks => cases hresult
  | broken f breaks going =>
    cases hresult
    exact ⟨rfl, rfl⟩
  | settled json outcome t response completes answers =>
    cases hresult
    obtain ⟨-, h1, h2⟩ := answer_refusal answers
    exact absurd hcode (not_or.2 ⟨h1, h2⟩)
  | unanswered json outcome t completes answers =>
    obtain ⟨response, hresponse⟩ := (hdelivers json completes.awaits).answers completes.checked
    rw [hresponse] at answers
    cases answers
  | forwarded stream awaits name => cases hresult

theorem Ending.rejection (h : Ending c r₀ n client last result r)
    (hresult : result = .ok (.error statusCode "模型供应商拒绝或不可用" code (some i))) :
    i = c.reservation.requestId ∧ r.status = .failed := by
  cases h with
  | refused e awaits unbilled stays =>
    cases hresult
    exact ⟨rfl, rfl⟩
  | settled json outcome t response completes answers =>
    cases hresult
    exact absurd rfl (answer_refusal answers).1
  | _ => simp [Admitted.refuse] at hresult

end Endings

section Reports

variable (a : ChatArgs) {d : DB} {past : List Neighbour} {turns : List (List Neighbour)}
  {result : Except Failure Response} {w : Scene DB Neighbour Own} {lost : Books → Prop}
  {statusCode : Int} {message code : String} {i : Id}

/-- A response about a request comes from one of its clients. -/
theorem Finished.closed {response : Response} (h : Finished a lost (.ok response) w.db w.own)
    (hresponse : ¬ response.Refusal) :
    ∃ v r₀ n client, v.requestId = a.requestId ∧ a.eligible[n]? = some client ∧
      FailedOver a a.eligible n ∧ Closed ⟨a, v⟩ r₀ lost n client (n + 1 = a.eligible.length)
        (calls a (n + 1)) (.ok response) w.db w.own := by
  rcases h with ⟨-, -, -, hrefusal⟩ | ⟨v, r₀, hadmits, n, client, hget, hover, hclosed⟩
  · exact absurd (hrefusal response rfl) hresponse
  · exact ⟨v, r₀, n, client, hadmits.id, hget, hover, hclosed⟩

theorem Finished.intact (h : Finished a lost result w.db w.own) : Intact w.db := by
  rcases h with ⟨hintact, -⟩ | ⟨_, _, -, _, _, -, -, hclosed⟩
  · exact hintact
  · exact hclosed.1.intact

theorem Finished.completion {content : Json} {provider : String}
    (h : Finished a (fun b => b.Left a.requestId) (.ok (.completion content i provider)) w.db
      w.own) :
    i = a.requestId ∧ ∃ r, w.db.requests.get? a.requestId = some r ∧ r.Settled := by
  obtain ⟨v, r₀, n, client, hid, -, -, hclosed⟩ := h.closed a (by rintro ⟨_, _, _, h⟩; cases h)
  obtain ⟨hi, r, hr, hs, -⟩ := hclosed.disposed fun b hb => by rw [hid]; exact hb
  rw [show (⟨a, v⟩ : Admitted).reservation.requestId = a.requestId from hid] at hi hr
  exact ⟨hi, r, hr, hs⟩

theorem not_refusal {statusCode : Int} {message code : String} {i : Id} :
    ¬ (Response.error statusCode message code (some i)).Refusal := by
  rintro ⟨_, _, _, h⟩
  cases h

theorem Finished.pending
    (h : Finished a (Queued a.requestId) (.ok (.error statusCode message code (some i))) w.db w.own)
    (hmessage : message ≠ "模型供应商拒绝或不可用")
    (hcode : code = "reconciliation_pending" ∨ code = "settlement_pending")
    (hdelivers : Delivers a) : i = a.requestId ∧ Queued a.requestId w.db.books := by
  obtain ⟨v, r₀, n, client, hid, hget, hover, -, -, hclosed⟩ := h.closed a not_refusal
  rcases hclosed with ⟨r, hending, hrow⟩ | ⟨hresult, hqueued⟩
  · obtain ⟨hi, hs⟩ := hending.pending rfl hmessage hcode fun json hjson =>
      hdelivers v n client json hid hget hover hjson
    refine ⟨hi.trans hid, ?_⟩
    rcases hrow with hrow | ⟨hqueued, -⟩
    · rw [show (⟨a, v⟩ : Admitted).reservation.requestId = a.requestId from hid] at hrow
      exact ⟨r, hrow, hs⟩
    · exact hqueued
  · cases hresult
    exact ⟨hid, hqueued⟩

theorem Finished.rejection
    (h : Finished a (fun _ => False)
      (.ok (.error statusCode "模型供应商拒绝或不可用" code (some i))) w.db w.own) :
    i = a.requestId ∧ ∃ r, w.db.requests.get? a.requestId = some r ∧ r.status = .failed := by
  obtain ⟨v, r₀, n, client, hid, -, -, -, -, hclosed⟩ := h.closed a not_refusal
  obtain ⟨r, hending, hrow⟩ := hclosed.resolve_right fun h => h.2
  obtain ⟨hi, hs⟩ := hending.rejection rfl
  have hrow := hrow.resolve_right fun h => h.1
  rw [show (⟨a, v⟩ : Admitted).reservation.requestId = a.requestId from hid] at hrow
  exact ⟨hi.trans hid, r, hrow, hs⟩

/-- Whatever the sweeper does between the sessions of the handler, the row agrees with the response,
where the result can be delivered and no sweep comes before a rejection. -/
theorem outcome_reported (hnodup : (a.eligible.map Client.attemptId).Nodup) (hd : d.Opened)
    (hattempts : d.attempts.rows = [])
    (hpast : ∀ n ∈ past, n.Apart a.requestId (a.eligible.map Client.attemptId))
    (hturns : ∀ turn ∈ turns, ∀ n ∈ turn, n.Apart a.requestId (a.eligible.map Client.attemptId))
    (audits : Table SafetyAudit SafetyAudit.id)
    (hrun : chatCompletions a ⟨Run.after Neighbour.act d past, turns, ⟨[], audits⟩⟩ = (result, w)) :
    Intact w.db ∧ Reports a turns result w.db.books := by
  have hfinished := (finished_of_run a around_apart hnodup hd hattempts hpast hturns audits hrun).2
  refine ⟨hfinished.intact a, ?_, ?_, ?_⟩
  · rintro content i provider rfl
    exact hfinished.completion a
  · rintro statusCode message code i rfl hmessage hcode hsweeps hdelivers
    have hfinished := (finished_of_run a around_swept hnodup hd hattempts hpast
      (fun turn hturn n hn => ⟨hturns turn hturn n hn, hsweeps turn hturn n hn⟩) audits hrun).2
    exact hfinished.pending a hmessage hcode hdelivers
  · rintro statusCode code i rfl hmisses
    have hfinished := (finished_of_run a around_missed hnodup hd hattempts hpast
      (fun turn hturn n hn => ⟨hturns turn hturn n hn, hmisses turn hturn n hn⟩) audits hrun).2
    exact hfinished.rejection a

end Reports

/-- The message and the code of an error, and its request. -/
def told : Except Failure Response → Option (String × String × Option Id)
  | .ok (.error _ message code requestId) => some (message, code, requestId)
  | _ => none

theorem told_some {result : Except Failure Response} {message code : String} {i : Option Id}
    (h : told result = some (message, code, i)) :
    ∃ statusCode, result = .ok (.error statusCode message code i) := by
  unfold told at h
  split at h
  · cases h
    exact ⟨_, rfl⟩
  · cases h

/-- The second client gives a number that JSON has not. -/
def notANumber : ChatArgs :=
  { secondAnswers with
    orderedClients := [fixedClient "first" (.error (.provider (providerError 429 none none none))),
      fixedClient "second" (.ok (.obj [(py "choices", .arr []), (py "score", .float (py "NaN")),
        (py "usage", .obj [(py "prompt_tokens", .int 20), (py "completion_tokens", .int 5)])]))] }

/-- The only client refuses. -/
def refusedOnce : ChatArgs :=
  { secondAnswers with
    orderedClients :=
      [fixedClient "first" (.error (.provider (providerError 401 none none none)))] }

/-- A sweep before the third session of the handler. -/
def sweptAt (now : Time) : List (List Neighbour) :=
  [[], [], [.op (.recoverStaleModelReservations 300 now)]]

/-- A chat of the account of the shop, after its first calls. -/
def chatAmong (a : ChatArgs) (turns : List (List Neighbour)) :
    Except Failure Response × Scene DB Neighbour Own :=
  chatCompletions a ⟨Run.after Neighbour.act shop ((chat.take 3).map .op), turns, ⟨[], .empty⟩⟩

/-- A request is told to be pending and is settled, and one is told to be rejected and waits. -/
theorem told_otherwise :
    let unanswered := chatAmong notANumber []
    let rejected := chatAmong refusedOnce (sweptAt (400 * second))
    (told unanswered.1 = some ("上游状态不确定，已转人工对账", "reconciliation_pending", some "q") ∧
      (unanswered.2.db.requests.get? "q").map (·.status) = some .settled) ∧
    told rejected.1 = some ("模型供应商拒绝或不可用", "provider_http_401", some "q") ∧
      (rejected.2.db.requests.get? "q").map (·.status) = some .pendingReconciliation := by
  decide +kernel

theorem apart_chat {a : ChatArgs} (hid : a.requestId = "q") {n : Neighbour}
    (hn : n ∈ (chat.take 3).map Neighbour.op) :
    n.Apart a.requestId (a.eligible.map Client.attemptId) := by
  obtain ⟨op, hop, rfl⟩ := List.mem_map.1 hn
  simp only [chat, List.take_succ_cons, List.take_zero, List.mem_cons, List.not_mem_nil,
    or_false] at hop
  rw [hid]
  rcases hop with rfl | rfl | rfl <;> exact ⟨trivial, by decide⟩

theorem sweptAt_iff {now : Time} {p : Neighbour → Prop} :
    (∀ turn ∈ sweptAt now, ∀ n ∈ turn, p n) ↔
      p (.op (.recoverStaleModelReservations 300 now)) := by
  simp [sweptAt]

theorem completed_of_id {a : ChatArgs} {v v' : Reservation} (hid : v.requestId = v'.requestId)
    (result : Json) : completed ⟨a, v⟩ result = completed ⟨a, v'⟩ result := by
  unfold completed
  rw [hid]

theorem delivers_secondAnswers : Delivers secondAnswers := by
  intro v n client result hid hget hover hawaited
  have hrenders : renders (completed ⟨secondAnswers, ⟨"q", 0, 0, 0, 0⟩⟩
      (settlementResponse "m" 20 5)) := by decide +kernel
  match n, hget with
  | 0, hget =>
    cases hget
    cases hawaited
  | 1, hget =>
    cases hget
    cases hawaited
    refine .inr (.inr ⟨by decide, .inr ?_⟩)
    have heq : completed ⟨secondAnswers, v⟩ (settlementResponse "m" 20 5) =
        completed ⟨secondAnswers, ⟨"q", 0, 0, 0, 0⟩⟩ (settlementResponse "m" 20 5) :=
      completed_of_id hid _
    rw [heq]
    exact hrenders
  | n + 2, hget => cases hget

theorem outcome_reported_swept :
    let late := chatAmong secondAnswers (sweptAt (400 * second))
    let early := chatAmong refusedOnce (sweptAt (200 * second))
    (told late.1 = some ("调用成功但结算待人工对账", "settlement_pending", some "q") ∧
      Queued "q" late.2.db.books) ∧
    told early.1 = some ("模型供应商拒绝或不可用", "provider_http_401", some "q") ∧
      ∃ r, early.2.db.requests.get? "q" = some r ∧ r.status = .failed := by
  intro late early
  have htold : told late.1 = some ("调用成功但结算待人工对账", "settlement_pending", some "q") := by
    decide +kernel
  have htold' : told early.1 = some ("模型供应商拒绝或不可用", "provider_http_401", some "q") := by
    decide +kernel
  have hsweep (now : Time) : (Neighbour.op (.recoverStaleModelReservations 300 now)).Sweeps "q" :=
    .inr ⟨_, _, rfl⟩
  obtain ⟨statusCode, hlate⟩ := told_some htold
  obtain ⟨statusCode', hearly⟩ := told_some htold'
  refine ⟨⟨htold, ?_⟩, htold', ?_⟩
  · have hreports : Reports secondAnswers (sweptAt (400 * second)) late.1 late.2.db.books :=
      (outcome_reported secondAnswers (by decide) opened_shop rfl (fun n hn => apart_chat rfl hn)
        (sweptAt_iff.2 ⟨trivial, by decide⟩) .empty rfl).2
    exact (hreports.pending _ _ _ _ hlate (by decide) (.inr rfl) (sweptAt_iff.2 (hsweep _))
      delivers_secondAnswers).2
  · have hreports : Reports refusedOnce (sweptAt (200 * second)) early.1 early.2.db.books :=
      (outcome_reported refusedOnce (by decide) opened_shop rfl (fun n hn => apart_chat rfl hn)
        (sweptAt_iff.2 ⟨trivial, by decide⟩) .empty rfl).2
    refine (hreports.rejection _ _ _ hearly (sweptAt_iff.2 ⟨hsweep _, ?_⟩)).2
    rintro ⟨leaseSeconds, now, heq, hle⟩
    cases heq
    exact absurd hle (by decide)

end Kunlun.Completions
