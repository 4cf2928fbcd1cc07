import Kunlun.Completions.Sessions

/-!
# Around the handler

What other parties do between the sessions of the handler, and what its sessions make of the
row of its request: they end the hold, unless it has been ended before. No party acts while
a session is open.
-/

namespace Kunlun.Completions

/-! ## The tables around the handler -/

/-- What all sessions keep, whoever opens them. -/
structure Intact (d : DB) : Prop where
  sound : d.books.Sound
  holds : d.books.Holds
  ended : d.books.EndedOnce
  attempts : uniqueAttempts d.attempts.rows

/-- What other parties do: they come from the callers in `src`, and the ids that `uuid4` draws for
this request and for its attempts are none of theirs. -/
def Neighbour.Apart (requestId : Id) (attemptIds : List Id) : Neighbour → Prop
  | .op call => call.ByCaller ∧ call.requestId? ≠ some requestId
  | .attempt a => a.requestId ≠ requestId ∧ a.id ∉ attemptIds

/-- The attempts of a request so far, and the ids that are yet to be drawn. -/
structure Tables (requestId : Id) (ids : List Id) (tried : Nat) (d : DB) : Prop where
  intact : Intact d
  ordinals : ∀ x ∈ d.attempts.rows, x.requestId = requestId → x.ordinal ≤ tried
  fresh : ∀ i ∈ ids, d.attempts.get? i = none

/-- No request has the id. -/
def Absent (requestId : Id) (b : Books) : Prop := b.requests.get? requestId = none

/-- The row of the request, where it is not lost to others. A settled row is never lost. -/
def Row (lost : Books → Prop) (requestId : Id) (r : ModelRequest) (b : Books) : Prop :=
  b.requests.get? requestId = some r ∨ lost b ∧ ¬ r.Settled

/-- What the handler relies on: the others are apart from it, and leave the row, with the time at
which it was made, or take it from being reserved. -/
structure Around (requestId : Id) (createdAt : Time) (ids : List Id) (others : Neighbour → Prop)
    (lost : Books → Prop) : Prop where
  apart : ∀ n, others n → n.Apart requestId ids
  row : ∀ n d r, others n → r.createdAt = createdAt → Row lost requestId r d.books →
    Row lost requestId r (n.act d).books
  left : ∀ b, lost b → b.Left requestId

section Tables

variable {requestId : Id} {createdAt : Time} {ids ids' : List Id} {tried : Nat} {d e : DB}
  {lost : Books → Prop}

theorem Intact.moves (h : Intact d) {env : Env} (m : Moves env d.books e.books) (henv : env.callers)
    (hattempts : uniqueAttempts e.attempts.rows) : Intact e :=
  ⟨Moves.sound m h.sound, Moves.holds m henv h.sound h.holds,
    Moves.endedOnce m henv h.ended, hattempts⟩

theorem Neighbour.Apart.act {a : Neighbour} (h : a.Apart requestId ids) :
    Moves (.without requestId) d.books (a.act d).books ∧ ((a.act d).attempts = d.attempts ∨
      ∃ x, d.attempts.insert? x = some (a.act d).attempts ∧ uniqueAttempts (a.act d).attempts.rows ∧
        x.requestId ≠ requestId ∧ x.id ∉ ids) := by
  cases a with
  | op call =>
    refine ⟨exec_moves (fun _ => trivial) ⟨fun _ => h.1, fun _ _ => trivial, fun i hi heq => ?_⟩,
      .inl ?_⟩
    · exact h.2 (heq ▸ hi)
    · exact exec_keeps keepsAll_sameAttempts call d
  | attempt a =>
    rcases recordAttempt_cases a d with heq | ⟨rows, hrows, hun, heq⟩
    · rw [Neighbour.act, heq]
      exact ⟨.refl, .inl rfl⟩
    · rw [Neighbour.act, heq]
      exact ⟨.refl, .inr ⟨_, hrows, hun, h⟩⟩

theorem Neighbour.Apart.absent {a : Neighbour} (h : a.Apart requestId ids)
    (hb : Absent requestId d.books) :
    Absent requestId (a.act d).books := Moves.absent h.act.1 hb

/-- Where nothing more is known of the others, the row is lost to them as soon as it is not
reserved. -/
theorem around_apart : Around requestId createdAt ids (Neighbour.Apart requestId ids) fun b =>
    b.Left requestId where
  apart _ h := h
  left _ h := h
  row n d r h _ hrow := by
    rcases hrow with hrow | ⟨hleft, hr⟩
    · by_cases hs : r.status.outstanding
      · refine (Moves.row_or_left h.act.1 trivial hrow).imp_right fun hleft => ⟨hleft, ?_⟩
        rintro (hr | hr) <;> rw [hr] at hs <;> cases hs
      · exact .inl (Moves.finished h.act.1 trivial hrow (by simpa using hs))
    · exact .inr ⟨Moves.left h.act.1 trivial hleft, hr⟩

/-- The others leave the row of the request. -/
def Neighbour.Spares (requestId : Id) (n : Neighbour) : Prop :=
  ∀ d, (n.act d).requests.get? requestId = d.requests.get? requestId

theorem around_spared :
    Around requestId createdAt ids (fun n => n.Apart requestId ids ∧ n.Spares requestId)
      fun _ => False where
  apart _ h := h.1
  left _ h := h.elim
  row n d r h _ hrow := by
    refine .inl ?_
    rcases hrow with hrow | hrow
    · exact (h.2 d).trans hrow
    · exact hrow.1.elim

theorem Row.present (hleft : ∀ b, lost b → b.Left requestId) {r : ModelRequest} {b : Books}
    (h : Row lost requestId r b) : ∃ r', b.requests.get? requestId = some r' := by
  rcases h with h | ⟨h, -⟩
  · exact ⟨r, h⟩
  · obtain ⟨r', hr', -⟩ := hleft _ h
    exact ⟨r', hr'⟩

theorem Row.left (hleft : ∀ b, lost b → b.Left requestId) {r : ModelRequest} {b : Books}
    (h : Row lost requestId r b)
    (hs : r.status ≠ .reserved) : b.Left requestId := by
  rcases h with h | ⟨h, -⟩
  · exact ⟨r, h, hs⟩
  · exact hleft _ h

theorem Tables.act {a : Neighbour} (ha : a.Apart requestId ids') (hsub : ids ⊆ ids')
    (h : Tables requestId ids tried d) :
    Tables requestId ids tried (a.act d) := by
  obtain ⟨hmoves, heq | ⟨x, hx, hun, hreq, hid⟩⟩ := ha.act (d := d)
  · exact ⟨h.intact.moves hmoves trivial
      (by rw [heq]; exact h.intact.attempts), by rw [heq]; exact h.ordinals,
      by rw [heq]; exact h.fresh⟩
  · refine ⟨h.intact.moves hmoves trivial hun, fun y hy hyreq => ?_, fun i hi => ?_⟩
    · rcases (Table.mem_insert hx).1 hy with hy | rfl
      · exact h.ordinals y hy hyreq
      · exact absurd hyreq hreq
    · rw [Table.get?_insert hx, if_neg, h.fresh i hi]
      rintro rfl
      exact hid (hsub hi)

theorem Tables.mono (h : Tables requestId ids' tried d) (hsub : ids ⊆ ids') {more : Nat}
    (hle : tried ≤ more) :
    Tables requestId ids more d :=
  ⟨h.intact, fun x hx hreq => (h.ordinals x hx hreq).trans hle, fun i hi => h.fresh i (hsub hi)⟩

theorem Tables.moves (h : Tables requestId ids tried d) {env : Env} (m : Moves env d.books e.books)
    (henv : env.callers)
    (hattempts : e.attempts = d.attempts) : Tables requestId ids tried e :=
  ⟨h.intact.moves m henv (by rw [hattempts]; exact h.intact.attempts),
    by rw [hattempts]; exact h.ordinals, by rw [hattempts]; exact h.fresh⟩

theorem Intact.held (h : Intact d) {r : ModelRequest} (hr : d.requests.get? requestId = some r)
    (hs : r.status.outstanding) : Covered d r ∧ 0 < r.reservedMicrousd ∧
      d.ledger.get? (settleKey r.id) = none ∧ d.ledger.get? (releaseKey r.id) = none := by
  have hmem := Table.mem_of_get? hr
  have hid := Table.key_of_get? hr
  have hfree {key : String} (hends : ∀ j : LedgerTransaction,
    j.idempotencyKey = key → j.EndsHold r.id) :
      d.ledger.get? key = none := by
    refine Option.eq_none_iff_forall_ne_some.2 fun j hj => ?_
    obtain ⟨y, hy, hfin⟩ := h.ended j (Table.mem_of_get? hj) r.id (hends j (Table.key_of_get? hj))
    rw [hid] at hy
    obtain rfl := Option.some.inj (hy.symm.trans hr)
    rw [hs] at hfin
    cases hfin
  exact ⟨h.holds.covered h.sound hmem hs, h.sound.positive r hmem, hfree fun _ => .inl,
    hfree fun _ => .inr⟩

end Tables

/-! ## The sessions -/

/-- What holds between two sessions of the handler. -/
def Stage (requestId : Id) (ids : List Id) (tried : Nat) (row : Books → Prop)
    (called : List (Nat × Json)) :
    DB → Own → Prop := fun d g => Tables requestId ids tried d ∧ row d.books ∧ g.called = called

section Sessions

variable {c : Admitted} {requestId : Id} {ids ids' : List Id} {tried : Nat}
  {row row' : Books → Prop}
  {called : List (Nat × Json)} {d : DB} {r : ModelRequest} {others : Neighbour → Prop}
  {lost : Books → Prop}
  {E : Type} {wrap : Exc → E}

theorem Stage.mono {g : Own} (h : Stage requestId ids' tried row called d g)
    (hsub : ids ⊆ ids') {more : Nat}
    (hle : tried ≤ more) (hrow : ∀ b, row b → row' b) : Stage requestId ids more row' called d g :=
  ⟨h.1.mono hsub hle, hrow _ h.2.1, h.2.2⟩

theorem Stage.act (ha : Around requestId r.createdAt ids' others lost) (hsub : ids ⊆ ids')
    {n : Neighbour} {g : Own} (hn : others n)
    (h : Stage requestId ids tried (Row lost requestId r) called d g) :
    Stage requestId ids tried (Row lost requestId r) called (n.act d) g :=
  ⟨h.1.act (ha.apart n hn) hsub, ha.row n d r hn rfl h.2.1, h.2.2⟩

/-- A session whose outcome and effect are known in every state of the tables. -/
theorem meets_known {α : Type} {x : Service α} {Q : α → Books → Prop} {R : E → DB → Own → Prop}
    (ha : Around requestId r.createdAt ids' others lost) (hsub : ids ⊆ ids')
    (h : ∀ d, Tables requestId ids tried d → Row lost requestId r d.books → ∃ a d',
      Tx.run x d = (.ok a, d') ∧ Q a d'.books ∧
      Moves .callerRun d.books d'.books ∧ d'.attempts = d.attempts) :
    Handler.Meets others (Stage requestId ids tried (Row lost requestId r) called)
      (Handler.session Neighbour.act wrap x)
      (fun a => Stage requestId ids tried (Q a) called) R := by
  refine Handler.meets_session (fun n d g hn hP => hP.act ha hsub hn) (fun d g a d' hP hrun => ?_)
    fun d g e d' hP hrun => ?_
  · obtain ⟨a', d'', hrun', hQ, hmoves, hattempts⟩ := h d hP.1 hP.2.1
    obtain ⟨h1, rfl⟩ := Prod.mk.inj (hrun.symm.trans hrun')
    obtain rfl := Except.ok.inj h1
    exact ⟨hP.1.moves hmoves trivial hattempts, hQ, hP.2.2⟩
  · obtain ⟨a', d'', hrun', -⟩ := h d hP.1 hP.2.1
    cases (hrun.symm.trans hrun')

/-- What a mark makes of a row. -/
def marked (a : MarkArgs) (r : ModelRequest) : ModelRequest := if r.status = .reserved then
    pendingRequest a r else r

theorem meets_mark {a : MarkArgs} (ha : Around a.requestId r.createdAt ids' others lost)
    (hsub : ids ⊆ ids') {R : E → DB → Own → Prop} :
    Handler.Meets others (Stage a.requestId ids tried (Row lost a.requestId r) called)
      (Handler.session Neighbour.act wrap (markPendingReconciliation a))
      (fun _ => Stage a.requestId ids tried (Row lost a.requestId (marked a r)) called) R := by
  refine meets_known ha hsub fun d _ hrow => ?_
  have hmoves : Moves .callerRun d.books (Tx.run (markPendingReconciliation a) d).2.books :=
    markPendingReconciliation_moves ..
  rcases hrow with hr | ⟨hlost, hsettled⟩
  · by_cases hs : r.status = .reserved
    · obtain ⟨d', hrun, hleaves⟩ := markPending_reserved hr hs
      rw [hrun] at hmoves
      refine ⟨(), d', hrun, .inl ?_, hmoves, hleaves.attempts⟩
      rw [marked, if_pos hs, ← Table.key_of_get? hr]
      exact hleaves.row
    · rw [marked, if_neg hs]
      exact ⟨(), d, markPending_left hr hs, .inl hr, .refl, rfl⟩
  · obtain ⟨r', hr', hs'⟩ := ha.left _ hlost
    refine ⟨(), d, markPending_left hr' hs', .inr ⟨hlost, ?_⟩, .refl, rfl⟩
    unfold marked
    split_ifs
    · simp [ModelRequest.Settled, pendingRequest]
    · exact hsettled

theorem meets_release {category : String}
    (ha : Around c.reservation.requestId r.createdAt ids' others lost) (hsub : ids ⊆ ids')
    (hs : r.status = .reserved) {R : E → DB → Own → Prop} :
    Handler.Meets others (Stage c.reservation.requestId ids tried
      (Row lost c.reservation.requestId r) called)
      (Handler.session Neighbour.act wrap (releaseModelRequest (c.release category)))
      (fun _ => Stage c.reservation.requestId ids tried
        (Row lost c.reservation.requestId (releasedRequest (c.release category) r)) called) R := by
  refine meets_known ha hsub fun d ht hrow => ?_
  have hby : (c.release category).ByCaller :=
    ⟨by simp [Admitted.release, RequestStatus.outstanding], rfl, rfl⟩
  have hmoves : Moves .callerRun d.books
      (Tx.run (releaseModelRequest (c.release category)) d).2.books :=
    (carries_releaseModelRequest fun _ => hby).run d
  rcases hrow with hr | ⟨hlost, -⟩
  · obtain ⟨hcovered, hpos, -, hkey⟩ := ht.intact.held hr (by rw [hs]; rfl)
    obtain ⟨d', hrun, hleaves⟩ :=
      release_held (a := c.release category) hr (by simp [Admitted.release, hs]) hcovered hkey hpos
    rw [hrun] at hmoves
    refine ⟨(), d', hrun, .inl ?_, hmoves, hleaves.attempts⟩
    rw [← Table.key_of_get? hr]
    exact hleaves.row
  · obtain ⟨r', hr', hs'⟩ := ha.left _ hlost
    have hrun := release_left (a := c.release category) hr' (by simpa [Admitted.release] using hs')
    refine ⟨(), d, hrun, .inr ⟨hlost, ?_⟩, .refl, rfl⟩
    simp [ModelRequest.Settled, releasedRequest, Admitted.release]

theorem meets_record {a : AttemptArgs} (ha : Around a.requestId r.createdAt ids' others lost)
    (hid : a.id ∉ ids) (hord : a.ordinal = tried + 1) (hsub : a.id :: ids ⊆ ids')
    {R : E → DB → Own → Prop} :
    Handler.Meets others (Stage a.requestId (a.id :: ids) tried (Row lost a.requestId r) called)
      (Handler.session Neighbour.act wrap (recordAttempt a))
      (fun _ => Stage a.requestId ids (tried + 1) (Row lost a.requestId r) called) R := by
  have run {d : DB} (h : Tables a.requestId (a.id :: ids) tried d) :
    ∃ rows, d.attempts.insert? (attemptRow a) = some rows ∧
      uniqueAttempts rows.rows ∧ Tx.run (recordAttempt a) d =
        (.ok (), { d with attempts := rows }) := by
    refine recordAttempt_run h.intact.attempts (h.fresh _ (.head _)) fun x hx hreq => ?_
    have := h.ordinals x hx hreq
    omega
  refine Handler.meets_session (fun n d g hn hP => hP.act ha hsub hn) (fun d g u d' hP hrun => ?_)
    fun d g e d' hP hrun => ?_
  · obtain ⟨rows, hrows, hun, hrun'⟩ := run hP.1
    obtain ⟨-, rfl⟩ := Prod.mk.inj (hrun.symm.trans hrun')
    refine ⟨⟨⟨hP.1.intact.sound, hP.1.intact.holds, hP.1.intact.ended, hun⟩, fun x hx hreq => ?_,
      fun i hi => ?_⟩, hP.2.1, hP.2.2⟩
    · rcases (Table.mem_insert hrows).1 hx with hx | rfl
      · exact (hP.1.ordinals x hx hreq).trans (Nat.le_succ _)
      · exact hord.le
    · refine (Table.get?_insert hrows i).trans ((if_neg ?_).trans (hP.1.fresh i (.tail _ hi)))
      rintro rfl
      exact hid hi
  · obtain ⟨rows, -, -, hrun'⟩ := run hP.1
    cases (hrun.symm.trans hrun')

/-- What the session of a settlement leaves, by what it returned. -/
def AfterSettlement (lost : Books → Prop) (requestId : Id) (a : SettleArgs) (r : ModelRequest)
    (settled : Bool) (b : Books) :
    Prop :=
  if settled then ∃ t, settlementTerms a r = .ok t ∧ Row lost requestId (t.row a r) b else lost b

/-- A settlement whose terms cannot be computed or written raises, but no `BillingError`, and leaves
the row reserved. -/
theorem meets_settleOrMark {index : Nat} {provider : String} {prices : Int × Int}
    {response : Json} {estimated : Bool}
    (ha : Around c.reservation.requestId r.createdAt ids' others lost) (hsub : ids ⊆ ids')
    (hs : r.status = .reserved) :
    Handler.Meets others (Stage c.reservation.requestId ids tried
      (Row lost c.reservation.requestId r) called)
      (Handler.session Neighbour.act wrap (c.settleOrMark index provider prices response estimated))
      (fun settled => Stage c.reservation.requestId ids tried
        (AfterSettlement lost c.reservation.requestId
          (c.settle index provider prices response estimated) r settled) called)
      fun f d g => ∃ e, f = wrap e ∧
        settlementTerms (c.settle index provider prices response estimated) r = .error e ∧
        Stage c.reservation.requestId ids tried
          (Row lost c.reservation.requestId r) called d g := by
  have known {d : DB} (ht : Tables c.reservation.requestId ids tried d)
    (hrow : Row lost c.reservation.requestId r d.books) :
      (∃ e, settlementTerms (c.settle index provider prices response estimated) r = .error e ∧
        Tx.run (c.settleOrMark index provider prices response estimated) d = (.error e, d)) ∨
      ∃ settled d', Tx.run (c.settleOrMark index provider prices response estimated) d =
        (.ok settled, d') ∧
        AfterSettlement lost c.reservation.requestId
          (c.settle index provider prices response estimated) r settled d'.books ∧
        Moves .callerRun d.books d'.books ∧ d'.attempts = d.attempts := by
    rcases hrow with hr | ⟨hlost, -⟩
    · obtain ⟨hcovered, hpos, hkey, -⟩ := ht.intact.held hr (by rw [hs]; rfl)
      cases hterms : settlementTerms (c.settle index provider prices response estimated) r with
      | error e => exact .inl ⟨e, rfl, settleOrMark_error hr hs hcovered hkey hpos hterms⟩
      | ok t =>
        obtain ⟨v, d', hrun, hsettle, hleaves⟩ :=
          settleOrMark_settled hr hs hcovered hkey hpos hterms
        have hmoves : Moves .callerRun d.books
            (Tx.run (settleModelRequest (c.settle index provider prices response estimated))
              d).2.books :=
          (carries_settleModelRequest fun _ => by simp [Admitted.settle,
            RequestStatus.outstanding]).run d
        rw [hsettle] at hmoves
        refine .inr ⟨true, d', hrun, ⟨t, hterms, .inl ?_⟩, hmoves, hleaves.attempts⟩
        rw [← Table.key_of_get? hr]
        exact hleaves.row
    · obtain ⟨r', hr', hs'⟩ := ha.left _ hlost
      exact .inr ⟨false, d, settleOrMark_left hr' hs', hlost, .refl, rfl⟩
  refine Handler.meets_session (fun n d g hn hP => hP.act ha hsub hn)
    (fun d g settled d' hP hrun => ?_) fun d g e d' hP hrun => ?_
  · rcases known hP.1 hP.2.1 with ⟨e, -, herr⟩ | ⟨settled', d'', hrun', hrow, hmoves, hattempts⟩
    · cases (hrun.symm.trans herr)
    · obtain ⟨h1, rfl⟩ := Prod.mk.inj (hrun.symm.trans hrun')
      obtain rfl := Except.ok.inj h1
      exact ⟨hP.1.moves hmoves trivial hattempts, hrow, hP.2.2⟩
  · rcases known hP.1 hP.2.1 with ⟨e', hterms, herr⟩ | ⟨settled', d'', hrun', -⟩
    · obtain ⟨h1, rfl⟩ := Prod.mk.inj (hrun.symm.trans herr)
      exact ⟨e', congrArg wrap (Except.error.inj h1), hterms, hP⟩
    · cases (hrun.symm.trans hrun')

end Sessions

end Kunlun.Completions
