import Kunlun.Completions.Failover

/-!
# Forwarded streams

The response of an open stream is a generator. It feeds each chunk to the tracker and yields
it, and ends the hold behind the last one. The server may cancel it where it awaits a chunk,
or close it where it has yielded one.
-/

namespace Kunlun.Completions

/-! ## The generator -/

/-- What the server does with the generator. -/
inductive Consumer where
  | drains
  /-- The task is cancelled while the chunk after as many is awaited. -/
  | cancels (taken : Nat)
  /-- It is closed behind as many chunks, or never started. -/
  | drops (taken : Nat)
  deriving DecidableEq

/-- The consumer behind one more chunk. -/
def Consumer.next : Consumer → Consumer
  | .drains => .drains
  | .cancels taken => .cancels (taken - 1)
  | .drops taken => .drops (taken - 1)

/-- It asks for what comes behind as many chunks. -/
def Consumer.Takes : Consumer → Nat → Prop
  | .drains, _ => True
  | .cancels taken, n => n < taken
  | .drops taken, n => n < taken

/-- What is raised in the generator. -/
inductive StreamFailure where
  /-- `StreamProtocolError` -/
  | protocol
  /-- `GeneratorExit` -/
  | closed
  | failure (f : Failure)
  deriving DecidableEq

/-- What the tracker raises, in the generator. -/
def StreamFailure.ofTracker : StreamExc → StreamFailure
  | .protocol _ => .protocol
  | .loads _ => .failure .other

/-- `SSEUsageTracker.max_bytes` -/
def streamLimit : Nat := 10 * 1024 * 1024

section Relay

variable (loads : Bytes → Except LoadsExc Json)

/-- The loop over the chunks: those that are yielded, and the tracker behind the last one. -/
def relay (ending : Except Failure Unit) : Consumer → SSEUsageTracker → List Bytes →
    List Bytes × Except StreamFailure SSEUsageTracker
  | .cancels 0, _, _ => ([], .error (.failure .cancelled))
  | .drops 0, _, _ => ([], .error .closed)
  | _, t, [] => ([], (ending.mapError .failure).map fun _ => t)
  | consumer, t, chunk :: rest =>
    match feed loads t chunk with
    | .error e => ([], .error (.ofTracker e))
    | .ok t =>
      let relayed := relay ending consumer.next t rest
      (chunk :: relayed.1, relayed.2)

abbrev Generator (α : Type) := Handler DB Neighbour Own StreamFailure α

def streamSession {α : Type} (x : Service α) : Generator α :=
  Handler.session Neighbour.act (fun e => .failure (.raised e)) x

variable (c : Admitted) (f : Forwarding)

/-- Behind the last chunk. -/
def completeStream (t : SSEUsageTracker) : Generator Unit := do
  let u ← Handler.lift ((finish loads t).mapError .ofTracker)
  if u.done then do
    let (response, estimated) ← Handler.lift
      ((u.settlementResponse c.args.payload.model c.reservation.estimatedInputTokens).mapError
        fun _ => .failure .other)
    let _ ← streamSession (c.settleOrMark f.index f.provider f.upstreamPrices response estimated)
    return ()
  else streamSession (markPendingReconciliation
    (c.mark f.index "provider_stream_incomplete" f.provider))

/-- The `except` clauses. -/
def rescueStream : StreamFailure → Generator Unit
  | .failure .cancelled => do
    streamSession (markPendingReconciliation (c.mark f.index "client_disconnected" f.provider))
    Handler.raise (.failure .cancelled)
  | .protocol | .failure (.provider _) =>
    streamSession (markPendingReconciliation (c.mark f.index "provider_stream_failed" f.provider))
  | .closed => Handler.raise .closed
  | .failure _ =>
    streamSession (markPendingReconciliation
      (c.mark f.index "unexpected_stream_failure" f.provider))

/-- The `finally` clause: what `close` raises is logged, unless it is a cancellation. -/
def closeStream : Generator Unit :=
  match f.stream.close with
  | .error .cancelled => Handler.raise (.failure .cancelled)
  | _ => return ()

/-- `forward_stream`: the chunks that it yields, and what it does. One that is never started does
nothing. -/
def forwardStream (consumer : Consumer) : List Bytes × Generator Unit :=
  let relayed := relay loads f.stream.ending consumer (.fresh streamLimit) f.stream.chunks
  (relayed.1, if consumer = .drops 0 then Handler.raise .closed
    else Handler.ensure (Handler.tryExcept (Handler.lift relayed.2 >>= completeStream loads c f)
      (rescueStream c f))
      (closeStream f))

end Relay

/-! ## What is yielded -/

section Yielded

variable {loads : Bytes → Except LoadsExc Json} {ending : Except Failure Unit} {consumer : Consumer}
  {t t' : SSEUsageTracker}
  {chunks : List Bytes}

theorem Consumer.takes_next {n : Nat} (h : consumer ≠ .cancels 0) (h' : consumer ≠ .drops 0) :
    consumer.next.Takes n ↔ consumer.Takes (n + 1) := by
  cases consumer with
  | drains => exact Iff.rfl
  | cancels taken =>
    have : taken ≠ 0 := by rintro rfl; exact h rfl
    simp only [Consumer.next, Consumer.Takes]
    omega
  | drops taken =>
    have : taken ≠ 0 := by rintro rfl; exact h' rfl
    simp only [Consumer.next, Consumer.Takes]
    omega

theorem Consumer.takes_zero : consumer.Takes 0 ↔ consumer ≠ .cancels 0 ∧ consumer ≠ .drops 0 := by
  cases consumer <;> simp [Consumer.Takes, Nat.pos_iff_ne_zero]

theorem relay_cons (h : consumer.Takes 0) (chunk : Bytes) :
    relay loads ending consumer t (chunk :: chunks) =
    match feed loads t chunk with
    | .error e => ([], .error (.ofTracker e))
    | .ok t =>
      (chunk :: (relay loads ending consumer.next t chunks).1,
        (relay loads ending consumer.next t chunks).2) := by
  obtain ⟨h1, h2⟩ := Consumer.takes_zero.1 h
  rw [relay]
  · exact h1
  · exact h2

theorem relay_nil (h : consumer.Takes 0) :
    relay loads ending consumer t [] = ([], (ending.mapError .failure).map fun _ => t) := by
  obtain ⟨h1, h2⟩ := Consumer.takes_zero.1 h
  rw [relay]
  · exact h1
  · exact h2

variable (loads ending t chunks) in
theorem relay_stopped (h : ¬ consumer.Takes 0) : consumer = .cancels 0 ∧
    relay loads ending consumer t chunks =
      ([], .error (.failure .cancelled)) ∨
    consumer = .drops 0 ∧ relay loads ending consumer t chunks = ([], .error .closed) := by
  have hstop := mt Consumer.takes_zero.2 h
  by_cases hcancel : consumer = .cancels 0
  · subst hcancel
    exact .inl ⟨rfl, by rw [relay]⟩
  · obtain rfl : consumer = .drops 0 := by
      by_contra hdrop
      exact hstop ⟨hcancel, hdrop⟩
    exact .inr ⟨rfl, by rw [relay]⟩

theorem relay_ok : (relay loads ending consumer t chunks).2 = .ok t' ↔
    consumer.Takes chunks.length ∧ ending = .ok () ∧ chunks.foldlM (feed loads) t = .ok t' := by
  induction chunks generalizing consumer t with
  | nil =>
    by_cases h : consumer.Takes 0
    · rw [relay_nil h]
      cases ending with
      | error f => simp [Except.mapError, Except.map]
      | ok u => simp [Except.mapError, Except.map, h, pure, Except.pure]
    · rcases relay_stopped loads ending t [] h with ⟨-, heq⟩ | ⟨-, heq⟩ <;>
        simp [heq, h]
  | cons chunk chunks ih =>
    by_cases h : consumer.Takes 0
    · rw [relay_cons h, List.foldlM_cons, except_bind_ok]
      obtain ⟨h1, h2⟩ := Consumer.takes_zero.1 h
      cases hfeed : feed loads t chunk with
      | error e => simp
      | ok t₁ => simp [ih, Consumer.takes_next h1 h2]
    · have htakes : ¬ consumer.Takes (chunks.length + 1) := fun htakes => h (by
        cases consumer with
        | drains => trivial
        | _ => exact Nat.lt_of_le_of_lt (Nat.zero_le _) htakes)
      rcases relay_stopped loads ending t (chunk :: chunks) h with ⟨-, heq⟩ | ⟨-, heq⟩ <;>
        simp [heq, htakes]

variable (ending) in
/-- The generator is closed where the consumer drops it, and every chunk before has been read. -/
theorem relay_closed : (relay loads ending consumer t chunks).2 = .error .closed ↔
    ∃ k ≤ chunks.length, consumer = .drops k ∧ ∃ t',
      (chunks.take k).foldlM (feed loads) t = .ok t' := by
  induction chunks generalizing consumer t with
  | nil =>
    by_cases h : consumer.Takes 0
    · obtain ⟨h1, h2⟩ := Consumer.takes_zero.1 h
      rw [relay_nil h]
      have hnone : ¬ ∃ k ≤ ([] : List Bytes).length, consumer = .drops k ∧
          ∃ t', (([] : List Bytes).take k).foldlM (feed loads) t = .ok t' := by
        rintro ⟨k, hk, rfl, -⟩
        obtain rfl : k = 0 := by simpa using hk
        exact h2 rfl
      refine iff_of_false ?_ hnone
      cases ending <;> simp [Except.mapError, Except.map]
    · rcases relay_stopped loads ending t [] h with ⟨rfl, heq⟩ | ⟨rfl, heq⟩
      · simp [heq]
      · rw [heq]
        exact iff_of_true rfl ⟨0, le_rfl, rfl, t, rfl⟩
  | cons chunk chunks ih =>
    by_cases h : consumer.Takes 0
    · obtain ⟨h1, h2⟩ := Consumer.takes_zero.1 h
      rw [relay_cons h]
      have hsucc {k : Nat} (hk : consumer = .drops k) : ∃ j, k = j + 1 := by
        subst hk
        exact Nat.exists_eq_succ_of_ne_zero fun hk => h2 (by rw [hk])
      cases hfeed : feed loads t chunk with
      | error e =>
        refine iff_of_false (by cases e <;> simp [StreamFailure.ofTracker]) ?_
        rintro ⟨k, -, hk, t', ht'⟩
        obtain ⟨j, rfl⟩ := hsucc hk
        simp [hfeed, bind, Except.bind] at ht'
      | ok t₁ =>
        refine ih.trans ⟨?_, ?_⟩
        · rintro ⟨k, hk, hdrops, t', ht'⟩
          cases consumer with
          | drops taken =>
            obtain ⟨j, rfl⟩ := hsucc rfl
            obtain rfl : j = k := by simpa [Consumer.next] using hdrops
            exact ⟨j + 1, by simpa using hk, rfl, t', by simpa [hfeed, bind, Except.bind] using ht'⟩
          | _ => cases hdrops
        · rintro ⟨k, hk, rfl, t', ht'⟩
          obtain ⟨j, rfl⟩ := hsucc rfl
          exact ⟨j, by simpa using hk, rfl, t', by simpa [hfeed, bind, Except.bind] using ht'⟩
    · rcases relay_stopped loads ending t (chunk :: chunks) h with ⟨rfl, heq⟩ | ⟨rfl, heq⟩
      · simp [heq]
      · rw [heq]
        exact iff_of_true rfl ⟨0, Nat.zero_le _, rfl, t, rfl⟩

end Yielded

/-! ## The row -/

section Row

variable (loads : Bytes → Except LoadsExc Json) (c : Admitted) (f : Forwarding)
  (consumer : Consumer) (r₀ : ModelRequest)

/-- What the generator knows behind the loop. -/
def streamed : Except StreamFailure StreamUsage := do
  let t ← (relay loads f.stream.ending consumer (.fresh streamLimit) f.stream.chunks).2
  (finish loads t).mapError .ofTracker

/-- The row that is settled with what the tracker has read, where that can be computed and
written. -/
def trackedRow (u : StreamUsage) : Except Exc ModelRequest := do
  let (response, estimated) ← u.settlementResponse c.args.payload.model
    c.reservation.estimatedInputTokens
  let a := c.settle f.index f.provider f.upstreamPrices response estimated
  return (← settlementTerms a r₀).row a r₀

def markedRow (category : String) : ModelRequest :=
  pendingRequest (c.mark f.index category f.provider) r₀

/-- The row that the generator leaves of one that is reserved. -/
def streamedRow : ModelRequest :=
  match streamed loads f consumer with
  | .ok u =>
    if u.done then
      match trackedRow c f r₀ u with
      | .ok r => r
      | .error _ => markedRow c f r₀ "unexpected_stream_failure"
    else markedRow c f r₀ "provider_stream_incomplete"
  | .error .closed => r₀
  | .error (.failure .cancelled) => markedRow c f r₀ "client_disconnected"
  | .error .protocol | .error (.failure (.provider _)) => markedRow c f r₀ "provider_stream_failed"
  | .error (.failure _) => markedRow c f r₀ "unexpected_stream_failure"

end Row

section Streamed

variable {loads : Bytes → Except LoadsExc Json} {c : Admitted} {f : Forwarding}
  {consumer : Consumer} {r₀ r : ModelRequest}
  {u : StreamUsage}

theorem streamed_ok : streamed loads f consumer = .ok u ↔ consumer.Takes f.stream.chunks.length ∧
    f.stream.ending = .ok () ∧ track loads streamLimit f.stream.chunks = .ok u := by
  have hfinish (t : SSEUsageTracker) : (finish loads t).mapError StreamFailure.ofTracker = .ok u ↔
      finish loads t = .ok u := by
    cases finish loads t <;> simp [Except.mapError]
  simp only [streamed, track, except_bind_ok, relay_ok, hfinish]
  constructor
  · rintro ⟨t, ⟨htakes, hending, ht⟩, hu⟩
    exact ⟨htakes, hending, t, ht, hu⟩
  · rintro ⟨htakes, hending, t, ht, hu⟩
    exact ⟨t, ⟨htakes, hending, ht⟩, hu⟩

theorem streamed_closed : streamed loads f consumer = .error .closed ↔ ∃ k ≤ f.stream.chunks.length,
    consumer = .drops k ∧
    ∃ t, (f.stream.chunks.take k).foldlM (feed loads) (.fresh streamLimit) = .ok t := by
  rw [← relay_closed f.stream.ending, streamed]
  cases (relay loads f.stream.ending consumer (.fresh streamLimit) f.stream.chunks).2 with
  | error e => simp [bind, Except.bind]
  | ok t =>
    refine iff_of_false ?_ (by simp)
    cases hfinish : finish loads t with
    | error e =>
      cases e <;> simp [bind, Except.bind, hfinish, Except.mapError, StreamFailure.ofTracker]
    | ok u => simp [bind, Except.bind, hfinish, Except.mapError]

theorem trackedRow_settled (h : trackedRow c f r₀ u = .ok r) : r.Settled := by
  unfold trackedRow at h
  obtain ⟨⟨response, estimated⟩, -, h⟩ := except_bind_ok.1 h
  obtain ⟨t, -, h⟩ := except_bind_ok.1 h
  obtain rfl := Except.ok.inj h
  exact settled_row ..

theorem markedRow_status (category : String) : (markedRow c f r₀ category).status =
    .pendingReconciliation := rfl

/-- The row is settled exactly if the whole stream has been read, with its end, and its cost can be
computed and written. -/
theorem streamedRow_settled (hr₀ : r₀.status = .reserved) :
    (streamedRow loads c f consumer r₀).Settled ↔
    ∃ u, consumer.Takes f.stream.chunks.length ∧ f.stream.ending = .ok () ∧
      track loads streamLimit f.stream.chunks = .ok u ∧
      u.done ∧ trackedRow c f r₀ u = .ok (streamedRow loads c f consumer r₀) := by
  have marked (category : String) : ¬ (markedRow c f r₀ category).Settled := by
    simp [ModelRequest.Settled, markedRow_status]
  constructor
  · intro h
    suffices ∃ u, streamed loads f consumer = .ok u ∧ u.done ∧
        trackedRow c f r₀ u = .ok (streamedRow loads c f consumer r₀) by
      simpa only [streamed_ok, and_assoc] using this
    revert h
    unfold streamedRow
    cases streamed loads f consumer with
    | ok u =>
      intro h
      refine ⟨u, rfl, ?_⟩
      by_cases hdone : u.done
      · cases hrow : trackedRow c f r₀ u with
        | ok r => simp [hdone, hrow]
        | error e => exact absurd h (by simpa [hdone, hrow] using marked _)
      · exact absurd h (by simpa [hdone] using marked _)
    | error e =>
      intro h
      cases e with
      | closed => exact absurd h (by simp [ModelRequest.Settled, hr₀])
      | protocol => exact absurd h (marked _)
      | failure f' => cases f' <;> exact absurd h (marked _)
  · rintro ⟨u, -, -, -, -, hrow⟩
    exact trackedRow_settled hrow

theorem streamedRow_reserved (hr₀ : r₀.status = .reserved) :
    (streamedRow loads c f consumer r₀).status = .reserved ↔
    ∃ k ≤ f.stream.chunks.length, consumer = .drops k ∧
      ∃ t, (f.stream.chunks.take k).foldlM (feed loads) (.fresh streamLimit) = .ok t := by
  have marked (category : String) : (markedRow c f r₀ category).status ≠ .reserved := by
    simp [markedRow_status]
  rw [← streamed_closed, streamedRow]
  cases hstreamed : streamed loads f consumer with
  | ok u =>
    refine iff_of_false ?_ (by simp)
    by_cases hdone : u.done
    · cases hrow : trackedRow c f r₀ u with
      | ok r =>
        simp only [hdone, if_true, hrow]
        rcases trackedRow_settled hrow with hs | hs <;> simp [hs]
      | error e => simpa [hdone, hrow] using marked _
    · simpa [hdone] using marked _
  | error e =>
    cases e with
    | closed => simpa using hr₀
    | protocol => exact iff_of_false (marked _) (by simp)
    | failure f' => cases f' <;> exact iff_of_false (marked _) (by simp)

theorem streamedRow_cases (hr₀ : r₀.status = .reserved) :
    (streamedRow loads c f consumer r₀).Settled ∨
      (streamedRow loads c f consumer r₀).status = .pendingReconciliation ∨
      streamedRow loads c f consumer r₀ = r₀ ∧ ∃ k, consumer = .drops k := by
  by_cases hsettled : (streamedRow loads c f consumer r₀).Settled
  · exact .inl hsettled
  by_cases hreserved : (streamedRow loads c f consumer r₀).status = .reserved
  · obtain ⟨k, hk, hdrops, ht⟩ := (streamedRow_reserved hr₀).1 hreserved
    have hclosed : streamed loads f consumer = .error .closed :=
      streamed_closed.2 ⟨k, hk, hdrops, ht⟩
    exact .inr (.inr ⟨by simp only [streamedRow, hclosed], k, hdrops⟩)
  · refine .inr (.inl ?_)
    revert hsettled hreserved
    unfold streamedRow
    split
    · split_ifs
      · split
        · exact fun hsettled => absurd (trackedRow_settled ‹_›) hsettled
        · exact fun _ _ => markedRow_status _
      · exact fun _ _ => markedRow_status _
    · exact fun _ hreserved => absurd hr₀ hreserved
    · exact fun _ _ => markedRow_status _
    · exact fun _ _ => markedRow_status _
    · exact fun _ _ => markedRow_status _
    · exact fun _ _ => markedRow_status _

end Streamed

/-! ## The end of the hold -/

section Sessions

variable {loads : Bytes → Except LoadsExc Json} {c : Admitted} {f : Forwarding}
  {consumer : Consumer} {r₀ r : ModelRequest}
  {ids' : List Id} {tried : Nat} {called : List (Nat × Json)} {others : Neighbour → Prop}
  {lost : Books → Prop}

/-- The generator has left the row, unless others have taken it. -/
def StreamEnds (lost : Books → Prop) (requestId : Id) (r : ModelRequest) (d : DB) : Prop :=
  Intact d ∧ (d.requests.get? requestId = some r ∨ lost d.books)

theorem Stage.streamEnds {g : Own}
    (h : Stage c.reservation.requestId [] tried (Row lost c.reservation.requestId r) called d g) :
    StreamEnds lost c.reservation.requestId r d := ⟨h.1.intact, h.2.1.imp_right And.left⟩

variable (henv : Around c.reservation.requestId r₀.createdAt ids' others lost)
  (hr₀ : r₀.status = .reserved)

include henv hr₀ in
theorem meets_markStream (category : String) {R : StreamFailure → DB → Own → Prop} :
    Handler.Meets others (Stage c.reservation.requestId [] tried
      (Row lost c.reservation.requestId r₀) called)
      (streamSession (markPendingReconciliation (c.mark f.index category f.provider)))
      (fun _ => Stage c.reservation.requestId [] tried
        (Row lost c.reservation.requestId (markedRow c f r₀ category)) called)
      R := by
  have hmarked : marked (c.mark f.index category f.provider) r₀ = markedRow c f r₀ category :=
    if_pos hr₀
  rw [← hmarked]
  exact meets_mark (a := c.mark f.index category f.provider) henv (List.nil_subset _)

/-- What holds when the `try` of the generator is left by an exception: the row has been left
alone. -/
inductive StreamThrown (loads : Bytes → Except LoadsExc Json) (c : Admitted) (f : Forwarding)
    (consumer : Consumer) (r₀ : ModelRequest)
    (e : StreamFailure) : Prop where
  | stopped (stream : streamed loads f consumer = .error e)
  | uncounted (u : StreamUsage) (x y : Exc)
    (stream : streamed loads f consumer = .ok u) (done : u.done)
      (row : trackedRow c f r₀ u = .error x) (raised : e = .failure .other ∨
        e = .failure (.raised y))

include henv hr₀ in
theorem meets_rescueStream {e : StreamFailure} (h : StreamThrown loads c f consumer r₀ e) :
    Handler.Meets others (Stage c.reservation.requestId [] tried
      (Row lost c.reservation.requestId r₀) called)
      (rescueStream c f e)
      (fun _ d _ => StreamEnds lost c.reservation.requestId (streamedRow loads c f consumer r₀) d)
      fun _ d _ => StreamEnds lost c.reservation.requestId
        (streamedRow loads c f consumer r₀) d := by
  have ends {category : String}
    (hrow : streamedRow loads c f consumer r₀ = markedRow c f r₀ category) (d : DB) (g : Own)
      (hstage : Stage c.reservation.requestId [] tried
        (Row lost c.reservation.requestId (markedRow c f r₀ category)) called d g) :
      StreamEnds lost c.reservation.requestId (streamedRow loads c f consumer r₀) d := by
    rw [hrow]
    exact hstage.streamEnds
  cases h with
  | stopped stream =>
    cases e with
    | protocol =>
      exact (meets_markStream henv hr₀ "provider_stream_failed").mono (fun _ _ h => h)
        (fun _ => ends (by simp only [streamedRow, stream])) fun _ _ _ h => h
    | closed =>
      refine Handler.meets_raise _ fun d g hstage => ?_
      rw [show streamedRow loads c f consumer r₀ = r₀ by simp only [streamedRow, stream]]
      exact hstage.streamEnds
    | failure f' =>
      cases f' with
      | cancelled =>
        exact Handler.meets_bind (meets_markStream henv hr₀ "client_disconnected") fun _ =>
          Handler.meets_raise _ (ends (by simp only [streamedRow, stream]))
      | provider e' =>
        exact (meets_markStream henv hr₀ "provider_stream_failed").mono (fun _ _ h => h)
          (fun _ => ends (by simp only [streamedRow, stream])) fun _ _ _ h => h
      | raised _ | other =>
        exact (meets_markStream henv hr₀ "unexpected_stream_failure").mono (fun _ _ h => h)
          (fun _ => ends (by simp only [streamedRow, stream])) fun _ _ _ h => h
  | uncounted u x y stream done row raised =>
    have hrow : streamedRow loads c f consumer r₀ = markedRow c f r₀
        "unexpected_stream_failure" := by
      simp only [streamedRow, stream, done, if_true, row]
    rcases raised with rfl | rfl <;>
      exact (meets_markStream henv hr₀ "unexpected_stream_failure").mono (fun _ _ h => h)
        (fun _ => ends hrow)
        fun _ _ _ h => h

include henv hr₀ in
theorem meets_completeStream {t : SSEUsageTracker}
    (ht : (relay loads f.stream.ending consumer (.fresh streamLimit) f.stream.chunks).2 = .ok t) :
    Handler.Meets others (Stage c.reservation.requestId [] tried
      (Row lost c.reservation.requestId r₀) called)
      (completeStream loads c f t)
      (fun _ d _ => StreamEnds lost c.reservation.requestId (streamedRow loads c f consumer r₀) d)
      fun e d g => StreamThrown loads c f consumer r₀ e ∧
        Stage c.reservation.requestId [] tried
          (Row lost c.reservation.requestId r₀) called d g := by
  have hstreamed : streamed loads f consumer = (finish loads t).mapError .ofTracker := by
    simp [streamed, ht, bind, Except.bind]
  unfold completeStream
  refine Handler.meets_bind (Q := fun u d g => streamed loads f consumer = .ok u ∧
    Stage c.reservation.requestId [] tried (Row lost c.reservation.requestId r₀) called d g)
    (Handler.meets_lift _ (fun u hu d g h => ⟨hstreamed.trans hu, h⟩)
      fun e he d g h => ⟨.stopped (hstreamed.trans he), h⟩) fun u =>
        Handler.meets_assume fun hu => ?_
  by_cases hdone : u.done
  · rw [if_pos hdone]
    cases hresponse : u.settlementResponse c.args.payload.model
      c.reservation.estimatedInputTokens with
    | error x =>
      have htracked : trackedRow c f r₀ u = .error x := by
        rw [trackedRow, hresponse]
        rfl
      refine Handler.meets_bind
        (Handler.meets_lift (Q := fun _ _ _ => False) _ (by simp [Except.mapError])
        fun e he d g h => ⟨.uncounted u x x hu hdone htracked (.inl ?_), h⟩) fun _ =>
          Handler.meets_never fun _ _ h => h
      exact (Except.error.inj he).symm
    | ok p =>
      obtain ⟨response, estimated⟩ := p
      have htracked : trackedRow c f r₀ u =
        (settlementTerms (c.settle f.index f.provider f.upstreamPrices response estimated)
          r₀).map fun t => t.row (c.settle f.index f.provider f.upstreamPrices response estimated)
            r₀ := by
        rw [trackedRow, hresponse]
        rfl
      refine Handler.meets_bind (Q := fun p d g => p = (response, estimated) ∧
        Stage c.reservation.requestId [] tried (Row lost c.reservation.requestId r₀) called d g)
        (Handler.meets_lift _ (fun p hp d g h => ⟨(Except.ok.inj hp).symm, h⟩)
          (by simp [Except.mapError])) fun p =>
        Handler.meets_assume fun hp => ?_
      subst hp
      refine Handler.meets_bind
        ((meets_settleOrMark henv (List.nil_subset _) hr₀).mono (fun _ _ h => h)
        (fun _ _ _ h => h) fun e d g h => ?_) fun settled => Handler.meets_pure _ fun d g h => ?_
      · obtain ⟨x, rfl, hterms, h⟩ := h
        exact ⟨.uncounted u x x hu hdone (by rw [htracked, hterms]; rfl) (.inr rfl), h⟩
      · obtain ⟨htables, hafter, -⟩ := h
        cases settled with
        | true =>
          obtain ⟨t, hterms, hrow⟩ := hafter
          rw [hterms] at htracked
          rw [show streamedRow loads c f consumer r₀ =
            t.row (c.settle f.index f.provider f.upstreamPrices response estimated) r₀ by
              simp only [streamedRow, hu, hdone, if_true, htracked, Except.map]]
          exact ⟨htables.intact, hrow.imp_right And.left⟩
        | false => exact ⟨htables.intact, .inr hafter⟩
  · rw [if_neg hdone]
    refine (meets_markStream henv hr₀ "provider_stream_incomplete").mono (fun _ _ h => h)
      (fun _ d g h => ?_)
      fun _ _ _ h => h
    rw [show streamedRow loads c f consumer r₀ = markedRow c f r₀ "provider_stream_incomplete" by
      simp only [streamedRow, hu, hdone, if_false, Bool.false_eq_true]]
    exact h.streamEnds

variable (loads c f consumer tried called) in
include henv hr₀ in
theorem meets_forwardStream :
    Handler.Meets others (Stage c.reservation.requestId [] tried
      (Row lost c.reservation.requestId r₀) called)
      (forwardStream loads c f consumer).2
      (fun _ d _ => StreamEnds lost c.reservation.requestId (streamedRow loads c f consumer r₀) d)
      fun _ d _ => StreamEnds lost c.reservation.requestId
        (streamedRow loads c f consumer r₀) d := by
  unfold forwardStream
  dsimp only
  split_ifs with hnever
  · refine Handler.meets_raise _ fun d g hstage => ?_
    have hclosed : streamed loads f consumer = .error .closed :=
      streamed_closed.2 ⟨0, Nat.zero_le _, hnever, .fresh streamLimit, rfl⟩
    rw [show streamedRow loads c f consumer r₀ = r₀ by simp only [streamedRow, hclosed]]
    exact hstage.streamEnds
  · have closes {P : DB → Own → Prop} {E : StreamFailure → DB → Own → Prop}
      (h : ∀ e d g, P d g → E e d g) :
        Handler.Meets others P (closeStream f) (fun _ => P) E := by
      unfold closeStream
      split
      · exact Handler.meets_raise _ (h _)
      · exact Handler.meets_pure _ fun _ _ h => h
    refine Handler.meets_ensure
      (Handler.meets_tryExcept (fun e d g => StreamThrown loads c f consumer r₀ e ∧
      Stage c.reservation.requestId [] tried (Row lost c.reservation.requestId r₀) called d g) ?_
      fun e => Handler.meets_assume (meets_rescueStream henv hr₀))
        (fun _ => closes fun _ _ _ h => h)
      fun _ => closes fun _ _ _ h => h
    cases hrelay : (relay loads f.stream.ending consumer (.fresh streamLimit)
      f.stream.chunks).2 with
    | error e =>
      refine Handler.meets_bind
        (Handler.meets_lift (Q := fun _ _ _ => False) _ (by simp) fun e' he d g h => ?_) fun _ =>
        Handler.meets_never fun _ _ h => h
      obtain rfl := Except.error.inj he
      exact ⟨.stopped (by rw [streamed, hrelay]; rfl), h⟩
    | ok t =>
      refine Handler.meets_bind (Q := fun t' d g => t' = t ∧
        Stage c.reservation.requestId [] tried (Row lost c.reservation.requestId r₀) called d g)
        (Handler.meets_lift _ (fun t' ht d g h => ⟨(Except.ok.inj ht).symm, h⟩) (by simp)) fun t' =>
        Handler.meets_assume fun ht => ?_
      subst ht
      exact meets_completeStream henv hr₀ hrelay

end Sessions

/-! ## From the start -/

theorem answer_ne_forwarded {c : Admitted} {index : Nat} {client : Client} {json : Json}
    {outcome : Option String}
    {f : Forwarding} {i : Id} : answer c index client json outcome ≠ .ok (.forwarded f i) := by
  intro h
  unfold answer respond Admitted.refuse at h
  split_ifs at h <;> cases h

theorem Closed.forwarded {c : Admitted} {r₀ : ModelRequest} {lost : Books → Prop}
    {index : Nat} {client : Client}
    {last : Bool} {called : List (Nat × Json)} {f : Forwarding} {i : Id} {d : DB} {g : Own}
    (h : Closed c r₀ lost index client last called (.ok (.forwarded f i)) d g) :
    f.reservation = c.reservation ∧
      Stage c.reservation.requestId [] (index + 1)
        (Row lost c.reservation.requestId r₀) called d g := by
  obtain ⟨htables, hcalled, ⟨r, hending, hrow⟩ | ⟨heq, -⟩⟩ := h
  · cases hending with
    | settled json outcome t response completes answers => exact absurd answers answer_ne_forwarded
    | forwarded stream awaits name => exact ⟨rfl, htables, hrow, hcalled⟩
  · cases heq

theorem Closed.streamEnds {c : Admitted} {r₀ : ModelRequest} {lost : Books → Prop} {index : Nat}
    {client : Client} {last : Bool} {called : List (Nat × Json)} {f : Forwarding} {i : Id}
    {ids' : List Id} {others : Neighbour → Prop} {w w' : Scene DB Neighbour Own}
    {loads : Bytes → Except LoadsExc Json} {consumer : Consumer}
    {result : Except StreamFailure Unit}
    (henv : Around c.reservation.requestId r₀.createdAt ids' others lost)
    (hr₀ : r₀.status = .reserved)
    (h : Handler.Holds others (Closed c r₀ lost index client last called (.ok (.forwarded f i))) w)
    (hgenerator : (forwardStream loads c f consumer).2 w = (result, w')) :
    StreamEnds lost c.reservation.requestId (streamedRow loads c f consumer r₀) w'.db := by
  have hmeets := meets_forwardStream loads c f consumer (index + 1) called henv hr₀
  cases result with
  | ok u => exact (hmeets.ok ⟨h.1, h.2.forwarded.2⟩ hgenerator).2
  | error e => exact (hmeets.error ⟨h.1, h.2.forwarded.2⟩ hgenerator).2

section Start

variable (a : ChatArgs) {d : DB} {past : List Neighbour} {turns : List (List Neighbour)}
  {others : Neighbour → Prop}
  {lost : Books → Prop} {w w' : Scene DB Neighbour Own}

end Start

def usageEvent : Json :=
  .obj [(py "usage", .obj [(py "prompt_tokens", .int 5), (py "completion_tokens", .int 2)])]

end Kunlun.Completions
