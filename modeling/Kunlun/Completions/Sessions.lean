import Kunlun.Completions.Handler
import Kunlun.Indexes
import Kunlun.Reservations

/-!
# The sessions of the handler

What each of its sessions commits, and what no other party takes from it.
-/

namespace Kunlun

/-! ## Journals of ended holds -/

/-- Only a request whose hold has ended has a settlement or a release in the journal. -/
def Books.EndedOnce (b : Books) : Prop :=
  ∀ j ∈ b.ledger.rows, ∀ i, j.EndsHold i → ∃ r, b.requests.get? i = some r ∧
    r.status.outstanding = false

def releaseKey (requestId : Id) : String := "model:" ++ requestId ++ ":release"

theorem suffix_ne {i i' : Id} {s t : String} (h : s.toList.reverse.take 5 ≠ t.toList.reverse.take 5)
    (hs : 5 ≤ s.length)
    (ht : 5 ≤ t.length) : "model:" ++ i ++ s ≠ "model:" ++ i' ++ t := by
  intro heq
  apply h
  have hrev := congrArg (fun x : String => x.toList.reverse.take 5) heq
  simpa [List.take_append_of_le_length, hs, ht, String.length_toList] using hrev

theorem releaseKey_inj {i i' : Id} (h : releaseKey i = releaseKey i') : i = i' := by
  have h := congrArg String.toList h
  simpa [releaseKey, String.toList_inj] using h

theorem endsHold_inj {j : LedgerTransaction} {i i' : Id} (h : j.EndsHold i)
    (h' : j.EndsHold i') : i = i' := by
  rcases h with h | h <;> rcases h' with h' | h'
  · exact settleKey_inj (h.symm.trans h')
  · exact absurd (h'.symm.trans h) (release_ne_settleKey i' i)
  · exact absurd (h.symm.trans h') (release_ne_settleKey i i')
  · exact releaseKey_inj (h.symm.trans h')

theorem not_endsHold {j : LedgerTransaction} {i : Id}
    (h : j.idempotencyKey.toList.head? ≠ some 'm') : ¬ j.EndsHold i := by
  rintro (hkey | hkey) <;> rw [hkey] at h <;> simp at h

theorem reserve_not_endsHold {j : LedgerTransaction} {i i' : Id}
    (h : j.idempotencyKey = "model:" ++ i ++ ":reserve") :
    ¬ j.EndsHold i' := by
  rintro (hkey | hkey) <;> rw [h] at hkey
  · exact reserve_ne_settleKey i i' hkey
  · exact suffix_ne (by decide) (by decide) (by decide) hkey

section Moves

variable {env : Env} {b b' : Books}

theorem Books.EndedOnce.of_other (h : b.EndedOnce) (m : Move env b b') (henv : env.callers)
    (hledger : b'.ledger = b.ledger ∨ ∃ j : LedgerTransaction, b.ledger.insert? j = some b'.ledger ∧
      ∀ i, ¬ j.EndsHold i) : b'.EndedOnce := by
  intro j hj i hends
  have hold : j ∈ b.ledger.rows := by
    rcases hledger with hl | ⟨x, hl, hx⟩
    · rwa [← hl]
    · refine ((Table.mem_insert hl).1 hj).resolve_right ?_
      rintro rfl
      exact hx i hends
  obtain ⟨r, hr, hs⟩ := h j hold i hends
  exact ⟨r, m.finished henv hr hs, hs⟩

theorem Move.endedOnce (m : Move env b b') (henv : env.callers)
    (h : b.EndedOnce) : b'.EndedOnce := by
  have move := m
  cases m with
  | hold r w x drawn positive status charged wallet covered budget posts post insert key =>
    exact h.of_other move henv (.inr ⟨x, post, fun i => reserve_not_endsHold key⟩)
  | finish r f hf w charged x kind risk found edit fits charges caller wallet held
    budget posts post key =>
    intro j hj i hends
    rcases (Table.mem_insert post).1 hj with hj | rfl
    · obtain ⟨y, hy, hs⟩ := h j hj i hends
      exact ⟨y, move.finished henv hy hs, hs⟩
    · obtain rfl := endsHold_inj key hends
      exact ⟨f r, Table.get?_modify_self found f hf, (caller henv).finished⟩
  | credit o f hf x kind found openStatus edit paid ofCredit posts post key =>
    obtain ⟨y, key⟩ := key
    exact h.of_other move henv (.inr ⟨x, post, fun i => not_endsHold (by rw [key]; simp)⟩)
  | reverse o g hg r f hf w recovered x kind found reversible edit refunded source foundRefund
    active orderId editRefund ended wallet nonneg within covered hkind posts post owner key =>
    refine h.of_other move henv (.inr ⟨x, post, fun i => not_endsHold ?_⟩)
    rcases key with key | key <;> rw [key] <;> simp
  | resolve r f hf o g hg w outstanding recovered x kind found atRisk editRefund resolved
    foundOrder orderId refunded
      edit same net positive wallet least within covered hkind posts post key =>
    obtain ⟨y, key⟩ := key
    exact h.of_other move henv (.inr ⟨x, post, fun i => not_endsHold (by rw [key]; simp)⟩)
  | _ => exact h.of_other move henv (.inl rfl)

theorem Moves.endedOnce (m : Moves env b b') (henv : env.callers)
    (h : b.EndedOnce) : b'.EndedOnce := by
  induction m with
  | refl => exact h
  | tail _ m ih => exact m.endedOnce henv ih

/-! ## Requests that are not reserved -/

def ModelRequest.Settled (r : ModelRequest) : Prop := r.status = .settled ∨
    r.status = .underReserved

/-- The request is there, and no longer reserved. -/
def Books.Left (b : Books) (requestId : Id) : Prop :=
  ∃ r, b.requests.get? requestId = some r ∧ r.status ≠ .reserved

theorem Move.left {i : Id} (m : Move env b b') (henv : env.callers) (h : b.Left i) : b'.Left i := by
  obtain ⟨r, hr, hs⟩ := h
  cases m with
  | hold x w j drawn positive status charged wallet covered budget posts post insert =>
    exact ⟨r, Table.get?_insert_of_some insert hr, hs⟩
  | finish x f hf w charged j kind risk found edit fits charges caller =>
    by_cases hi : i = x.id
    · subst hi
      refine ⟨f x, Table.get?_modify_self found f hf, fun hres => ?_⟩
      have hfin := (caller henv).finished
      rw [hres] at hfin
      cases hfin
    · exact ⟨r, (Table.get?_modify b.requests x.id i f hf).trans ((if_neg hi).trans hr), hs⟩
  | suspend p f hf edit =>
    have hp : ¬ p r := fun hp => hs (edit r (Table.mem_of_get? hr) hp).2.2.1
    exact ⟨r, (Table.get?_update b.requests p f hf i).trans (by simp [hr, hp]), hs⟩
  | _ => exact ⟨r, hr, hs⟩

theorem Moves.left {i : Id} (m : Moves env b b') (henv : env.callers)
    (h : b.Left i) : b'.Left i := by
  induction m with
  | refl => exact h
  | tail _ m ih => exact m.left henv ih

theorem Move.row_or_left (m : Move env b b') (henv : env.callers) {i : Id} {r : ModelRequest}
    (h : b.requests.get? i = some r) : b'.requests.get? i = some r ∨ b'.Left i := by
  cases m with
  | hold x w j drawn positive status charged wallet covered budget posts post insert =>
    exact .inl (Table.get?_insert_of_some insert h)
  | finish x f hf w charged j kind risk found edit fits charges caller =>
    by_cases hi : i = x.id
    · subst hi
      refine .inr ⟨f x, Table.get?_modify_self found f hf, fun hres => ?_⟩
      have hfin := (caller henv).finished
      rw [hres] at hfin
      cases hfin
    · exact .inl ((Table.get?_modify b.requests x.id i f hf).trans ((if_neg hi).trans h))
  | suspend p f hf edit =>
    have hrow := (Table.get?_update b.requests p f hf i).trans (congrArg (Option.map _) h)
    by_cases hp : p r
    · refine .inr ⟨f r, hrow.trans (by simp [hp]), ?_⟩
      rw [(edit r (Table.mem_of_get? h) hp).2.2.2]
      simp
    · exact .inl (hrow.trans (by simp [hp]))
  | _ => exact .inl h

theorem Moves.row_or_left (m : Moves env b b') (henv : env.callers) {i : Id} {r : ModelRequest}
    (h : b.requests.get? i = some r) : b'.requests.get? i = some r ∨ b'.Left i := by
  induction m with
  | refl => exact .inl h
  | tail _ m ih =>
    rcases ih with ih | ih
    · exact m.row_or_left henv ih
    · exact .inr (m.left henv ih)

/-- No request with the id is admitted. -/
def Env.without (requestId : Id) : Env := ⟨fun _ _ => True, fun _ i => i ≠ requestId, True, True⟩

theorem Move.absent {i : Id} (m : Move (.without i) b b') (h : b.requests.get? i = none) :
    b'.requests.get? i = none := by
  cases m with
  | hold r w j drawn positive status charged wallet covered budget posts post insert =>
    rw [Table.get?_insert insert, if_neg drawn, h]
  | finish x f hf => exact (Table.get?_modify b.requests x.id i f hf).trans (by simp [h])
  | suspend p f hf => exact (Table.get?_update b.requests p f hf i).trans (by simp [h])
  | _ => exact h

theorem Moves.absent {i : Id} (m : Moves (.without i) b b') (h : b.requests.get? i = none) :
    b'.requests.get? i = none := by
  induction m with
  | refl => exact h
  | tail _ m ih => exact m.absent ih

end Moves

namespace Completions

/-! ## Attempts -/

/-- The attempts of the tables are left. -/
def sameAttempts : Track DB :=
  ⟨fun d e => e.attempts = d.attempts, fun _ => rfl, fun h h' => h'.trans h⟩

theorem keepsAll_sameAttempts : KeepsAll sameAttempts where
  toKeepsMoney := by
    refine keepsMoney_of (keepsAccounts_of (fun _ _ _ _ _ _ _ => rfl)
      fun p f hf _ => ⟨fun d e h => ?_⟩)
      (fun _ _ _ _ _ => rfl) (fun u => ⟨fun d e h => ?_⟩) (fun x => ⟨fun d e h => ?_⟩)
        (fun o => ⟨fun d e h => ?_⟩)
      (fun r _ => ⟨fun d e h => ?_⟩) (fun p f hf _ => ⟨fun d e h => ?_⟩)
        fun p f hf _ => ⟨fun d e h => ?_⟩
    · obtain rfl := Option.some.inj h
      rfl
    · obtain ⟨t, rfl⟩ := of_insert_unique h
      rfl
    · obtain ⟨t, rfl⟩ := of_insert_unique h
      rfl
    · obtain ⟨t, rfl⟩ := of_insert_unique h
      rfl
    · obtain ⟨t, rfl⟩ := of_insert_unique h
      rfl
    · obtain rfl := of_update_unique h
      rfl
    · obtain rfl := of_update_unique h
      rfl
  atRisk _ := ⟨fun d e h => by obtain rfl := of_update_unique h; rfl⟩
  verify _ _ := ⟨fun d e h => by obtain rfl := Option.some.inj h; rfl⟩
  unfreeze _ := ⟨fun d e h => by obtain rfl := Option.some.inj h; rfl⟩
  regrant _ _ _ _ _ _ := ⟨fun d e h => by obtain rfl := of_update_unique h; rfl⟩
  uncertain _ _ := ⟨fun d e h => by obtain rfl := of_update_unique h; rfl⟩
  reconcile _ := ⟨fun _ _ => ⟨fun d e h => by obtain rfl := of_update_unique h; rfl⟩,
    ⟨fun d e h => by obtain rfl := of_update_unique h; rfl⟩, fun _ =>
      ⟨fun d e h => by obtain rfl := of_update_unique h; rfl⟩⟩

def attemptRow (a : AttemptArgs) : ProviderAttempt :=
  ⟨a.id, a.requestId, a.ordinal, a.provider, a.model, a.status, a.statusCode, a.failureCategory⟩

/-- No two attempts of a request have one ordinal. -/
def uniqueAttempts (rows : List ProviderAttempt) : Bool := unique rows fun x =>
    some (x.requestId, x.ordinal)

section Attempt

variable {a : AttemptArgs} {d : DB}

theorem insertAttempt_ok {e : DB} : DB.insertAttempt (attemptRow a) d = some e ↔
    ∃ t, d.attempts.insert? (attemptRow a) = some t ∧ uniqueAttempts t.rows ∧
      e = { d with attempts := t } := by
  simp only [DB.insertAttempt, Option.bind_eq_some_iff, Option.ite_none_right_eq_some,
    Option.some.injEq, uniqueAttempts, @eq_comm _ e]

theorem recordAttempt_ok {t : Session DB} {u : Unit} (h : recordAttempt a (.fresh d) = (.ok u, t)) :
    ∃ rows, d.attempts.insert? (attemptRow a) = some rows ∧ uniqueAttempts rows.rows ∧
      t.committed = { d with attempts := rows } := by
  simp only [recordAttempt, Tx.bind_ok, Tx.add_ok, Tx.commit_ok] at h
  obtain ⟨_, _, rfl, e, he, rfl⟩ := h
  simp only [Session.fresh, List.nil_append, Tx.applyAll_cons, Tx.applyAll_nil] at he
  obtain ⟨_, he, h⟩ := he
  obtain rfl := Option.some.inj h
  exact insertAttempt_ok.1 he

theorem atomic_recordAttempt (a : AttemptArgs) : Tx.Atomic (recordAttempt a) :=
  Tx.atomic_bind (by simp) fun _ => Tx.atomic_commit

theorem recordAttempt_cases (a : AttemptArgs) (d : DB) : (Tx.run (recordAttempt a) d).2 = d ∨
    ∃ rows, d.attempts.insert? (attemptRow a) = some rows ∧ uniqueAttempts rows.rows ∧
      (Tx.run (recordAttempt a) d).2 = { d with attempts := rows } := by
  rcases Tx.run_cases (atomic_recordAttempt a) d with h | ⟨u, t, h, heq⟩
  · exact .inl h
  · rw [heq]
    exact .inr (recordAttempt_ok h)

theorem recordAttempt_run (hun : uniqueAttempts d.attempts.rows) (hid : d.attempts.get? a.id = none)
    (hord : ∀ x ∈ d.attempts.rows, x.requestId = a.requestId → x.ordinal ≠ a.ordinal) :
    ∃ rows, d.attempts.insert? (attemptRow a) = some rows ∧ uniqueAttempts rows.rows ∧
      Tx.run (recordAttempt a) d = (.ok (), { d with attempts := rows }) := by
  have hnew : (attemptRow a).id ∉ d.attempts.rows.map ProviderAttempt.id := Table.get?_eq_none.1 hid
  obtain ⟨rows, hrows⟩ : ∃ rows, d.attempts.insert? (attemptRow a) = some rows := ⟨_, dif_pos hnew⟩
  have hunique : uniqueAttempts rows.rows := by
    rw [(Table.insert?_eq_some.1 hrows).2]
    refine unique_append_of hun fun x hx b hb hc => ?_
    obtain rfl := Option.some.inj hb
    obtain ⟨h1, h2⟩ := Prod.mk.inj (Option.some.inj hc)
    exact hord x hx h1.symm h2.symm
  refine ⟨rows, hrows, hunique,
    (Tx.run_ok ..).2 ⟨⟨{ d with attempts := rows }, { d with attempts := rows }, []⟩, ?_, rfl⟩⟩
  refine (Tx.bind_ok ..).2 ⟨(), _, (Tx.add_ok ..).2 rfl, (Tx.commit_ok ..).2 ⟨_, ?_, rfl⟩⟩
  exact (Tx.applyAll_cons ..).2 ⟨_, insertAttempt_ok.2 ⟨rows, hrows, hunique, rfl⟩, rfl⟩

end Attempt

/-! ## The end of a hold -/

theorem flush_pending (a : MarkArgs) (r : ModelRequest) :
    r.flush (pendingRequest a r) r = pendingRequest a r := by
  simp [ModelRequest.flush, pendingRequest]

theorem flush_released (a : ReleaseArgs) (r : ModelRequest) : r.flush (releasedRequest a r) r =
    releasedRequest a r := by
  simp [ModelRequest.flush, releasedRequest]

theorem flush_settled (a : SettleArgs) (r : ModelRequest) (i o : Int) (estimated : Bool)
    (cost upstream : Int) :
    r.flush (settledRequest a r i o estimated cost upstream) r = settledRequest a r i o
      estimated cost upstream := by
  simp [ModelRequest.flush, settledRequest]

/-- The row of a request after a session that leaves the attempts. -/
structure Leaves (r : ModelRequest) (d d' : DB) : Prop where
  row : d'.requests.get? r.id = some r
  attempts : d'.attempts = d.attempts

section Ends

variable {d : DB} {r : ModelRequest}

theorem releasable_eq {i : Id} (hr : d.requests.get? i = some r) (allowed : List RequestStatus) :
    releasable i allowed d = if r.status ∈ allowed then some r else none := by
  rw [releasable, hr]
  by_cases h : r.status ∈ allowed <;> simp [h]

theorem mark_none {a : MarkArgs} (h : releasable a.requestId [.reserved] d = none) :
    Tx.run (markPendingReconciliation a) d = (.ok (), d) := by
  have h' : releasable a.requestId [.reserved] (Session.fresh d).work = none := h
  rw [Tx.run, markPendingReconciliation, Tx.select_bind, h']
  rfl

theorem mark_some {a : MarkArgs} (h : releasable a.requestId [.reserved] d = some r) :
    Tx.run (markPendingReconciliation a) d = Tx.run (markAdmitted a r) d := by
  have h' : releasable a.requestId [.reserved] (Session.fresh d).work = some r := h
  rw [Tx.run, markPendingReconciliation, Tx.select_bind, h']
  rfl

theorem markPending_left {a : MarkArgs} (hr : d.requests.get? a.requestId = some r)
    (hs : r.status ≠ .reserved) :
    Tx.run (markPendingReconciliation a) d = (.ok (), d) := by
  exact mark_none ((releasable_eq hr _).trans (if_neg (by simpa using hs)))

theorem markPending_reserved {a : MarkArgs} (hr : d.requests.get? a.requestId = some r)
    (hs : r.status = .reserved) :
    ∃ d', Tx.run (markPendingReconciliation a) d = (.ok (), d') ∧
      Leaves (pendingRequest a r) d d' := by
  have hid := Table.key_of_get? hr
  rw [mark_some ((releasable_eq hr _).trans (if_pos (by simp [hs])))]
  refine ⟨{ d with requests := d.requests.modify r.id (r.flush (pendingRequest a r)) fun _ => rfl },
    ?_, ?_, rfl⟩
  · refine (Tx.run_ok ..).2 ⟨_,
      (Tx.bind_ok ..).2 ⟨(), _, (Tx.add_ok ..).2 rfl, (Tx.commit_ok ..).2 ⟨_, ?_, rfl⟩⟩, rfl⟩
    exact (Tx.applyAll_cons ..).2 ⟨_, flushRequest_ok.2 rfl, rfl⟩
  · have hrow : d.requests.get? r.id = some r := by rwa [hid]
    exact (Table.get?_modify_self hrow (r.flush (pendingRequest a r)) fun _ => rfl).trans
      (congrArg some (flush_pending a r))

theorem release_none {a : ReleaseArgs} (h : releasable a.requestId a.allowedStatuses d = none) :
    Tx.run (releaseModelRequest a) d = (.ok (), d) := by
  have h' : releasable a.requestId a.allowedStatuses (Session.fresh d).work = none := h
  rw [Tx.run, releaseModelRequest, Tx.select_bind, h']
  rfl

theorem release_some {a : ReleaseArgs} (h : releasable a.requestId a.allowedStatuses d = some r) :
    Tx.run (releaseModelRequest a) d = Tx.run (releaseAdmitted a r) d := by
  have h' : releasable a.requestId a.allowedStatuses (Session.fresh d).work = some r := h
  rw [Tx.run, releaseModelRequest, Tx.select_bind, h']
  rfl

theorem release_left {a : ReleaseArgs} (hr : d.requests.get? a.requestId = some r)
    (hs : r.status ∉ a.allowedStatuses) :
    Tx.run (releaseModelRequest a) d = (.ok (), d) := by
  exact release_none ((releasable_eq hr _).trans (if_neg hs))

theorem release_held {a : ReleaseArgs} (hr : d.requests.get? a.requestId = some r)
    (hs : r.status ∈ a.allowedStatuses)
    (hcovered : Covered d r) (hkey : d.ledger.get? (releaseKey r.id) = none)
    (hpos : 0 < r.reservedMicrousd) :
    ∃ d', Tx.run (releaseModelRequest a) d = (.ok (), d') ∧ Leaves (releasedRequest a r) d d' := by
  have hid := Table.key_of_get? hr
  have h2 : 2 ≤ (normalized [(Account.customerReserved, -r.reservedMicrousd),
      (.customerAvailable, r.reservedMicrousd)]).length := by
    simp [normalized, hpos.ne']
  have h0 : ((normalized [(Account.customerReserved, -r.reservedMicrousd),
      (.customerAvailable, r.reservedMicrousd)]).map (·.2)).sum = 0 := by
    rw [sum_normalized]
    simp
  obtain ⟨ledger, t, -, hrun, ht⟩ := finishHold_covered (releasedRequest a r) a.ledgerKind
    hcovered hkey h2 h0 r.reservedMicrousd 0
  rw [release_some ((releasable_eq hr _).trans (if_pos hs))]
  refine ⟨t.committed, (Tx.run_ok ..).2 ⟨t, hrun, rfl⟩, ?_, by rw [ht]; rfl⟩
  have hrow : d.requests.get? r.id = some r := by rwa [hid]
  rw [ht]
  exact (Table.get?_modify_self hrow (r.flush (releasedRequest a r)) fun _ => rfl).trans
    (congrArg some (flush_released a r))

/-! ### Terms that cannot be computed -/

theorem overflows_ceilDiv (n m : Nat) : OnlyRaises (· = Exc.overflowError) (ceilDiv n m) := by
  unfold ceilDiv
  split
  · exact onlyRaises_ok _
  · exact onlyRaises_error_iff.2 rfl

theorem overflows_tokenCost (tokens price : Int) : OnlyRaises (· = Exc.overflowError)
    (tokenCost tokens price) := by
  unfold tokenCost
  split
  · exact onlyRaises_ok _
  · exact overflows_ceilDiv _ _

theorem overflows_usage (response : Json) (fallbackInput : Int) :
    OnlyRaises (· = Exc.overflowError) (usageFromResponse response fallbackInput) := by
  have hestimate (output : Json) : OnlyRaises (· = Exc.overflowError) (estimateTokens output) :=
    onlyRaises_bind_iff.2 ⟨overflows_ceilDiv _ _, fun _ _ => onlyRaises_ok _⟩
  unfold usageFromResponse
  dsimp only
  split
  · split
    · split
      · exact onlyRaises_ok _
      · exact onlyRaises_bind_iff.2 ⟨hestimate _, fun _ _ => onlyRaises_ok _⟩
    · exact onlyRaises_bind_iff.2 ⟨hestimate _, fun _ _ => onlyRaises_ok _⟩
  · exact onlyRaises_bind_iff.2 ⟨hestimate _, fun _ _ => onlyRaises_ok _⟩

theorem overflows_upstreamCost {a : SettleArgs} (ha : a.upstreamCostOverride = none) (i o : Int) :
    OnlyRaises (· = Exc.overflowError) (upstreamCost a r i o) := by
  rw [upstreamCost, ha]
  refine onlyRaises_bind_iff.2 ⟨overflows_tokenCost _ _, fun _ _ => ?_⟩
  exact onlyRaises_bind_iff.2 ⟨overflows_tokenCost _ _, fun _ _ => onlyRaises_ok _⟩

theorem upstreamCost_nonneg {a : SettleArgs} (ha : a.upstreamCostOverride = none) {i o cost : Int}
    (h : upstreamCost a r i o = .ok cost) : 0 ≤ cost := by
  rw [upstreamCost, ha] at h
  obtain ⟨input, hin, h⟩ := except_bind_ok.1 h
  obtain ⟨output, hout, h⟩ := except_bind_ok.1 h
  rw [← Except.ok.inj h]
  exact add_nonneg (tokenCost_nonneg hin) (tokenCost_nonneg hout)

/-- An upstream cost that is computed is never negative, so that a float which overflows is all
that can fail. -/
theorem overflows_terms {a : SettleArgs} (ha : a.upstreamCostOverride = none) :
    OnlyRaises (· = Exc.overflowError) (computedTerms a r) := by
  unfold computedTerms
  refine onlyRaises_bind_iff.2 ⟨overflows_usage _ _, fun _ _ => ?_⟩
  refine onlyRaises_bind_iff.2 ⟨overflows_tokenCost _ _, fun _ _ => ?_⟩
  refine onlyRaises_bind_iff.2 ⟨overflows_tokenCost _ _, fun _ _ => ?_⟩
  refine onlyRaises_bind_iff.2 ⟨overflows_upstreamCost ha _ _, fun cost hcost => ?_⟩
  rw [if_neg (not_lt.2 (upstreamCost_nonneg ha hcost))]
  exact onlyRaises_ok _

theorem raises_terms {a : SettleArgs} (ha : a.upstreamCostOverride = none) :
    OnlyRaises (fun e => e = Exc.overflowError ∨ e = .dataError) (settlementTerms a r) := by
  unfold settlementTerms
  refine onlyRaises_bind_iff.2 ⟨fun e he => .inl (overflows_terms ha e he), fun t _ => ?_⟩
  split
  · exact onlyRaises_ok _
  · exact onlyRaises_error_iff.2 (.inr rfl)

/-! ### The settlement -/

theorem settle_left {a : SettleArgs} (hr : d.requests.get? a.requestId = some r)
    (hs : r.status ∉ a.allowedStatuses) :
    settleModelRequest a (.fresh d) = (.error (.billing "请求不处于可结算状态" 409), .fresh d) := by
  refine Tx.bind_of_error ?_
  have hr' : (Session.fresh d).work.requests.get? a.requestId = some r := hr
  rw [settleable, Tx.select_bind, Tx.orRaise_bind hr', Tx.raiseIf_raises hs]

theorem settle_error {a : SettleArgs} (hr : d.requests.get? a.requestId = some r)
    (hs : r.status ∈ a.allowedStatuses)
    (hcovered : Covered d r) (hkey : d.ledger.get? (settleKey r.id) = none)
    (hpos : 0 < r.reservedMicrousd)
    {e : Exc} (h : settlementTerms a r = .error e) :
    ∃ s, settleModelRequest a (.fresh d) = (.error e, s) ∧ s.committed = d := by
  unfold settlementTerms at h
  cases ht : computedTerms a r with
  | error e' =>
    rw [ht] at h
    obtain rfl := Except.error.inj h
    refine ⟨.fresh d, ?_, rfl⟩
    rw [settle_admitted hr hs, settleAdmitted_eq, ht]
    rfl
  | ok t =>
    rw [ht] at h
    change (if t.fits a r then pure t else throw Exc.dataError) = _ at h
    split_ifs at h with hfits
    · cases h
    · obtain rfl := Except.error.inj h
      exact settle_unwritten hr hs hcovered hkey hpos ht (by simpa using hfits)

theorem settle_held {a : SettleArgs} (hr : d.requests.get? a.requestId = some r)
    (hs : r.status ∈ a.allowedStatuses)
    (hcovered : Covered d r) (hkey : d.ledger.get? (settleKey r.id) = none)
    (hpos : 0 < r.reservedMicrousd)
    {t : SettlementTerms} (h : settlementTerms a r = .ok t) :
    ∃ v s, settleModelRequest a (.fresh d) = (.ok v, s) ∧ Leaves (t.row a r) d s.committed := by
  obtain ⟨hterms, hfits⟩ := settlementTerms_ok.1 h
  obtain ⟨ledger, s, -, hrun, hs'⟩ := settle_written hr hs hcovered hkey hpos hterms hfits
  refine ⟨_, s, hrun, ?_, by rw [hs']; rfl⟩
  have hrow : d.requests.get? r.id = some r := by rwa [Table.key_of_get? hr]
  rw [hs']
  exact (Table.get?_modify_self hrow (r.flush (t.row a r)) fun _ => rfl).trans
    (congrArg some (flush_settled a r _ _ _ _ _))

end Ends

/-! ## The settlement of the handler -/

section SettleOrMark

variable {c : Admitted} {index : Nat} {provider : String} {prices : Int × Int}
  {response : Json} {estimated : Bool}
  {d : DB} {r : ModelRequest}

theorem settleOrMark_handled {e : Exc} {d' : DB}
    (hsettle : settleModelRequest (c.settle index provider prices response estimated) (.fresh d) =
      (.error e, .fresh d))
    (he : isBillingError e) (hmark : Tx.run
      (markPendingReconciliation (c.mark index "settlement_failed" provider)) d =
      (.ok (), d')) : Tx.run (c.settleOrMark index provider prices response estimated)
        d = (.ok false, d') :=
  Tx.run_handled (Tx.bind_of_error hsettle) he (Tx.run_then_return hmark false)

theorem settleOrMark_left (hr : d.requests.get? c.reservation.requestId = some r)
    (hs : r.status ≠ .reserved) :
    Tx.run (c.settleOrMark index provider prices response estimated) d = (.ok false, d) := by
  refine settleOrMark_handled (settle_left hr ?_) rfl (markPending_left hr hs)
  simpa [Admitted.settle] using hs

theorem settleOrMark_error (hr : d.requests.get? c.reservation.requestId = some r)
    (hs : r.status = .reserved)
    (hcovered : Covered d r) (hkey : d.ledger.get? (settleKey r.id) = none)
    (hpos : 0 < r.reservedMicrousd) {e : Exc}
    (h : settlementTerms (c.settle index provider prices response estimated) r = .error e) :
    Tx.run (c.settleOrMark index provider prices response estimated) d = (.error e, d) := by
  have hbilling : isBillingError e = false := by
    rcases raises_terms rfl e h with rfl | rfl <;> rfl
  obtain ⟨s, hsettle, hcommitted⟩ :=
    settle_error hr (by simp [Admitted.settle, hs]) hcovered hkey hpos h
  exact (Tx.run_raised (Tx.bind_of_error hsettle) hbilling).trans (by rw [hcommitted])

theorem settleOrMark_settled (hr : d.requests.get? c.reservation.requestId = some r)
    (hs : r.status = .reserved)
    (hcovered : Covered d r) (hkey : d.ledger.get? (settleKey r.id) = none)
    (hpos : 0 < r.reservedMicrousd)
    {t : SettlementTerms} (h : settlementTerms
      (c.settle index provider prices response estimated) r = .ok t) :
    ∃ v d', Tx.run (c.settleOrMark index provider prices response estimated) d = (.ok true, d') ∧
      Tx.run (settleModelRequest (c.settle index provider prices response estimated)) d =
        (.ok v, d') ∧
      Leaves (t.row (c.settle index provider prices response estimated) r) d d' := by
  obtain ⟨v, s, hrun, hleaves⟩ :=
    settle_held hr (by simp [Admitted.settle, hs]) hcovered hkey hpos h
  refine ⟨v, s.committed, (Tx.run_ok ..).2 ⟨s, (Tx.tryExcept_ok ..).2 (.inl ?_), rfl⟩,
    (Tx.run_ok ..).2 ⟨s, hrun, rfl⟩, hleaves⟩
  exact (Tx.bind_ok ..).2 ⟨v, s, hrun, rfl⟩

end SettleOrMark

end Completions

end Kunlun
