import Kunlun.Lib.Waits
import Kunlun.Models
import Mathlib.Data.Fin.VecNotation

/-!
# The row locks of the money calls

The order in which the money calls of one user lock rows, and which of them can stop each other.
Inserting a row with a foreign key to the user shares the user's row, which excludes
`with_for_update()`.
-/

namespace Kunlun.MoneyLocks

/-! ## The rows that the calls of one user lock -/

inductive Row where
  | user
  | apiKey (id : Id)
  | accessSession (id : Id)
  | emailToken (id : Id)
  | resetToken (id : Id)
  | wallet
  | budget (id : Id)
  | request (id : Id)
  | order (id : Id)
  | refund (id : Id)
  deriving DecidableEq

/-- `with_for_update()` or `UPDATE`. -/
def update (row : Row) : Lock Row := ⟨row, true⟩

/-- The foreign key of a row that is inserted for the user. -/
def references : Lock Row := ⟨.user, false⟩

/-- The rows that `apply_user_freeze` updates behind the user, if it is called. -/
structure Frozen where
  apiKeys : List Id
  accessSessions : List Id
  emailTokens : List Id
  resetTokens : List Id

def Frozen.locks (z : Frozen) : List (Lock Row) :=
  z.apiKeys.map (fun i => update (.apiKey i)) ++
    z.accessSessions.map (fun i => update (.accessSession i)) ++
    z.emailTokens.map (fun i => update (.emailToken i)) ++
    z.resetTokens.map (fun i => update (.resetToken i))

/-- The money calls of one user. Their other branches end at one of the locks. -/
inductive Call where
  | reserveModelRequest (apiKeyId : Id) (budgetId : Option Id)
  | settleModelRequest (requestId : Id) (budgetId : Option Id)
  | releaseModelRequest (requestId : Id) (budgetId : Option Id)
  | createBudget (currentId : Option Id)
  | createOrder
  | prepareCheckout (orderId : Id)
  | applyWebhookPaid (orderId : Id)
  | applyWebhookRefunded (orderId : Id) (existingId : Option Id) (frozen : Frozen)
  | applyRefund (orderId : Id) (existingId : Option Id) (frozen : Frozen)
  | resolveRefundRisk (refundId orderId : Id)

def budgetLocks (budgetId : Option Id) : List (Lock Row) :=
  (budgetId.map fun i => update (.budget i)).toList

def refundLocks (existingId : Option Id) : List (Lock Row) :=
  (existingId.map fun i => update (.refund i)).toList

/-- The locks in the order in which they are taken. What a transaction has locked already, and the rows
that it inserts, are left out. -/
def Call.locks : Call → List (Lock Row)
  | .reserveModelRequest apiKeyId budgetId =>
    update .user :: update (.apiKey apiKeyId) :: update .wallet :: budgetLocks budgetId
  -- The journal references the user when `post_transaction` flushes it.
  | .settleModelRequest requestId budgetId | .releaseModelRequest requestId budgetId =>
    update .wallet :: (budgetLocks budgetId ++ [references, update (.request requestId)])
  -- At the commit the current budget is superseded before the new one is inserted.
  | .createBudget currentId => update .wallet :: (budgetLocks currentId ++ [references])
  | .createOrder => [update .user]
  | .prepareCheckout orderId => [update .user, update (.order orderId)]
  | .applyWebhookPaid orderId => [update (.order orderId), update .wallet, references]
  -- `apply_refund` locks the user behind the order that the webhook has.
  | .applyWebhookRefunded orderId existingId frozen =>
    update (.order orderId) :: update .user :: update .wallet ::
      (frozen.locks ++ refundLocks existingId)
  | .applyRefund orderId existingId frozen =>
    update .user :: update (.order orderId) :: update .wallet ::
      (frozen.locks ++ refundLocks existingId)
  | .resolveRefundRisk refundId orderId =>
    [update (.refund refundId), update (.order orderId), update .wallet, references]

/-! ## Which calls cross -/

def Call.userThenWallet : Call → Bool
  | .reserveModelRequest .. | .applyWebhookRefunded .. | .applyRefund .. => true
  | _ => false

def Call.walletThenUser : Call → Bool
  | .settleModelRequest .. | .releaseModelRequest .. | .createBudget .. | .applyWebhookPaid ..
  | .resolveRefundRisk .. => true
  | _ => false

/-- The order that is locked before the user and the wallet. -/
def Call.orderFirst : Call → Option Id
  | .applyWebhookPaid orderId | .applyWebhookRefunded orderId .. | .resolveRefundRisk _ orderId =>
    some orderId
  | _ => none

/-- The order that is locked behind the user. -/
def Call.orderBehindUser : Call → Option Id
  | .prepareCheckout orderId | .applyRefund orderId .. => some orderId
  | _ => none

def Call.refundFirst : Call → Option Id
  | .resolveRefundRisk refundId _ => some refundId
  | _ => none

/-- The refund that is updated last. -/
def Call.refundLast : Call → Option Id
  | .applyWebhookRefunded _ existingId _ | .applyRefund _ existingId _ => existingId
  | _ => none

/-- The two take two rows in opposite orders, and no row before them in the same order. -/
inductive Call.Crosses (c c' : Call) : Prop where
  | wallet (user : c.userThenWallet) (wallet : c'.walletThenUser)
      (apart : ∀ i, c.orderFirst = some i → c'.orderFirst ≠ some i)
  | order (orderId : Id) (behind : c.orderBehindUser = some orderId)
      (first : c'.orderFirst = some orderId)
  | refund (refundId : Id) (last : c.refundLast = some refundId)
      (first : c'.refundFirst = some refundId)

/-! ## Where a call has come to -/

/-- Which locks come late: a call that does not have the user takes them in this order. -/
def Row.rank : Row → Nat
  | .refund _ => 0
  | .order _ => 1
  | .wallet => 2
  | .budget _ => 3
  | .user => 4
  | _ => 5

/-- The rows that `apply_user_freeze` revokes. -/
def Row.Credential : Row → Prop
  | .apiKey _ | .accessSession _ | .emailToken _ | .resetToken _ => True
  | _ => False

theorem Frozen.credential {z : Frozen} {a : Lock Row} (h : a ∈ z.locks) : a.row.Credential := by
  simp only [Frozen.locks, List.mem_append, List.mem_map] at h
  rcases h with ((⟨i, -, rfl⟩ | ⟨i, -, rfl⟩) | ⟨i, -, rfl⟩) | ⟨i, -, rfl⟩ <;> trivial

theorem mem_refundLocks {existingId : Option Id} {a : Lock Row} :
    a ∈ refundLocks existingId ↔ ∃ i, existingId = some i ∧ a = update (.refund i) := by
  cases existingId <;> simp [refundLocks]

theorem mem_budgetLocks {budgetId : Option Id} {a : Lock Row} :
    a ∈ budgetLocks budgetId ↔ ∃ i, budgetId = some i ∧ a = update (.budget i) := by
  cases budgetId <;> simp [budgetLocks]

section Places

variable {c : Call} {held rest xs : List (Lock Row)} {a b x : Lock Row}

theorem cons_split (h : x :: xs = held ++ a :: rest) :
    held = [] ∧ a = x ∨ ∃ more, held = x :: more ∧ xs = more ++ a :: rest := by
  rcases List.cons_eq_append_iff.1 h with ⟨hnil, ha⟩ | hmore
  · exact .inl ⟨hnil, (List.cons.inj ha).1⟩
  · exact .inr hmore

theorem mem_of_split (h : xs = held ++ a :: rest) : a ∈ xs := by
  rw [h]
  exact List.mem_append_right _ (.head _)

/-- A call without an exclusive lock on the user takes its locks upwards. -/
theorem pairwise_rank (h : update .user ∉ c.locks) :
    c.locks.Pairwise fun a b => a.row.rank < b.row.rank := by
  cases c with
  | settleModelRequest requestId budgetId | releaseModelRequest requestId budgetId
  | createBudget budgetId =>
    cases budgetId <;> simp [Call.locks, budgetLocks, update, references, Row.rank]
  | applyWebhookPaid orderId => simp [Call.locks, update, references, Row.rank]
  | resolveRefundRisk refundId orderId => simp [Call.locks, update, references, Row.rank]
  | _ => simp [Call.locks] at h

/-- Without the user, the next lock is above all that the call has. -/
theorem rank_lt (h : c.locks = held ++ a :: rest) (huser : update .user ∉ held) (hb : b ∈ held) :
    b.row.rank < a.row.rank := by
  by_cases hlater : update .user ∈ c.locks
  · cases c with
    | applyWebhookRefunded orderId existingId frozen =>
      rcases cons_split h with ⟨rfl, -⟩ | ⟨more, rfl, hmore⟩
      · cases hb
      · rcases cons_split hmore with ⟨rfl, rfl⟩ | ⟨more, rfl, -⟩
        · obtain rfl := List.mem_singleton.1 hb
          show 1 < 4
          decide
        · simp at huser
    | reserveModelRequest | createOrder | prepareCheckout | applyRefund =>
      rcases cons_split h with ⟨rfl, -⟩ | ⟨more, rfl, -⟩
      · cases hb
      · simp at huser
    | settleModelRequest requestId budgetId | releaseModelRequest requestId budgetId
    | createBudget budgetId =>
      cases budgetId <;> simp [Call.locks, budgetLocks, update, references] at hlater
    | _ => simp [Call.locks, update, references] at hlater
  · have hpairwise := pairwise_rank hlater
    rw [h, List.pairwise_append] at hpairwise
    exact hpairwise.2.2 b hb a (.head _)

/-- The rows that a call which has the user waits for. -/
inductive Wants (c : Call) (held : List (Lock Row)) : Row → Prop where
  | credential {row : Row} (revoked : row.Credential) : Wants c held row
  | wallet (user : c.userThenWallet)
      (first : ∀ i, c.orderFirst = some i → update (.order i) ∈ held) : Wants c held .wallet
  | budget (i : Id) (wallet : update .wallet ∈ held) : Wants c held (.budget i)
  | order (i : Id) (behind : c.orderBehindUser = some i) : Wants c held (.order i)
  | refund (i : Id) (last : c.refundLast = some i) : Wants c held (.refund i)

theorem wants_frozen {existingId : Option Id} {frozen : Frozen}
    (hlast : c.refundLast = existingId)
    (h : frozen.locks ++ refundLocks existingId = xs ++ a :: rest) :
    Wants c held a.row := by
  rcases List.mem_append.1 (mem_of_split h) with ha | ha
  · exact .credential (Frozen.credential ha)
  · obtain ⟨i, rfl, rfl⟩ := mem_refundLocks.1 ha
    exact .refund i hlast

theorem wants_of_user (h : c.locks = held ++ a :: rest) (huser : update .user ∈ held) :
    Wants c held a.row := by
  have hlocks : update .user ∈ c.locks := by
    rw [h]
    exact List.mem_append_left _ huser
  cases c with
  | settleModelRequest _ budgetId | releaseModelRequest _ budgetId | createBudget budgetId =>
    cases budgetId <;> simp [Call.locks, budgetLocks, update, references] at hlocks
  | applyWebhookPaid | resolveRefundRisk => simp [Call.locks, update, references] at hlocks
  | createOrder =>
    rcases cons_split h with ⟨rfl, -⟩ | ⟨more, rfl, h1⟩
    · cases huser
    · simp at h1
  | prepareCheckout orderId =>
    rcases cons_split h with ⟨rfl, -⟩ | ⟨more, rfl, h1⟩
    · cases huser
    · rcases cons_split h1 with ⟨rfl, rfl⟩ | ⟨more, rfl, h2⟩
      · exact .order orderId rfl
      · simp at h2
  | reserveModelRequest apiKeyId budgetId =>
    rcases cons_split h with ⟨rfl, -⟩ | ⟨more, rfl, h1⟩
    · cases huser
    · rcases cons_split h1 with ⟨rfl, rfl⟩ | ⟨more, rfl, h2⟩
      · exact .credential trivial
      · rcases cons_split h2 with ⟨rfl, rfl⟩ | ⟨more, rfl, h3⟩
        · exact .wallet rfl (by simp [Call.orderFirst])
        · obtain ⟨i, -, rfl⟩ := mem_budgetLocks.1 (mem_of_split h3)
          exact .budget i (by simp)
  | applyWebhookRefunded orderId existingId frozen =>
    rcases cons_split h with ⟨rfl, -⟩ | ⟨more, rfl, h1⟩
    · cases huser
    · rcases cons_split h1 with ⟨rfl, -⟩ | ⟨more, rfl, h2⟩
      · simp [update] at huser
      · rcases cons_split h2 with ⟨rfl, rfl⟩ | ⟨more, rfl, h3⟩
        · exact .wallet rfl (by simp [Call.orderFirst])
        · exact wants_frozen rfl h3
  | applyRefund orderId existingId frozen =>
    rcases cons_split h with ⟨rfl, -⟩ | ⟨more, rfl, h1⟩
    · cases huser
    · rcases cons_split h1 with ⟨rfl, rfl⟩ | ⟨more, rfl, h2⟩
      · exact .order orderId rfl
      · rcases cons_split h2 with ⟨rfl, rfl⟩ | ⟨more, rfl, h3⟩
        · exact .wallet rfl (by simp [Call.orderFirst])
        · exact wants_frozen rfl h3

/-- The rows that a call without the user has, by the locks before them. -/
inductive Has (c : Call) (before : List (Lock Row)) : Row → Prop where
  | user : Has c before .user
  | request (i : Id) : Has c before (.request i)
  | wallet (user : c.walletThenUser)
      (first : ∀ i, c.orderFirst = some i → update (.order i) ∈ before) : Has c before .wallet
  | budget (i : Id) (wallet : update .wallet ∈ before) : Has c before (.budget i)
  | order (i : Id) (first : c.orderFirst = some i) : Has c before (.order i)
  | refund (i : Id) (first : c.refundFirst = some i) : Has c before (.refund i)

theorem has_of_not_user (h : c.locks = held ++ b :: rest) (huser : update .user ∉ held) :
    Has c held b.row := by
  cases c with
  | settleModelRequest requestId budgetId | releaseModelRequest requestId budgetId =>
    rcases cons_split h with ⟨rfl, rfl⟩ | ⟨more, rfl, h1⟩
    · exact .wallet rfl (by simp [Call.orderFirst])
    · rcases List.mem_append.1 (mem_of_split h1) with hb | hb
      · obtain ⟨i, -, rfl⟩ := mem_budgetLocks.1 hb
        exact .budget i (.head _)
      · simp only [List.mem_cons, List.not_mem_nil, or_false] at hb
        rcases hb with rfl | rfl
        · exact .user
        · exact .request requestId
  | createBudget currentId =>
    rcases cons_split h with ⟨rfl, rfl⟩ | ⟨more, rfl, h1⟩
    · exact .wallet rfl (by simp [Call.orderFirst])
    · rcases List.mem_append.1 (mem_of_split h1) with hb | hb
      · obtain ⟨i, -, rfl⟩ := mem_budgetLocks.1 hb
        exact .budget i (.head _)
      · obtain rfl := List.mem_singleton.1 hb
        exact .user
  | applyWebhookPaid orderId =>
    rcases cons_split h with ⟨rfl, rfl⟩ | ⟨more, rfl, h1⟩
    · exact .order orderId rfl
    · rcases cons_split h1 with ⟨rfl, rfl⟩ | ⟨more, rfl, h2⟩
      · exact .wallet rfl (by simp [Call.orderFirst])
      · obtain rfl := List.mem_singleton.1 (mem_of_split h2)
        exact .user
  | resolveRefundRisk refundId orderId =>
    rcases cons_split h with ⟨rfl, rfl⟩ | ⟨more, rfl, h1⟩
    · exact .refund refundId rfl
    · rcases cons_split h1 with ⟨rfl, rfl⟩ | ⟨more, rfl, h2⟩
      · exact .order orderId rfl
      · rcases cons_split h2 with ⟨rfl, rfl⟩ | ⟨more, rfl, h3⟩
        · exact .wallet rfl (by simp [Call.orderFirst])
        · obtain rfl := List.mem_singleton.1 (mem_of_split h3)
          exact .user
  | applyWebhookRefunded orderId existingId frozen =>
    rcases cons_split h with ⟨rfl, rfl⟩ | ⟨more, rfl, h1⟩
    · exact .order orderId rfl
    · rcases cons_split h1 with ⟨rfl, rfl⟩ | ⟨more, rfl, -⟩
      · exact .user
      · simp at huser
  | reserveModelRequest | createOrder | prepareCheckout | applyRefund =>
    rcases cons_split h with ⟨rfl, rfl⟩ | ⟨more, rfl, -⟩
    · exact .user
    · simp at huser

end Places

section Runs

variable {n : Nat} {calls : Fin n → Call} {s : Waits.State Row n} {i j : Fin n}

/-- A call that has the user waits only for a call that it crosses. -/
theorem crosses_of_user (hs : Waits.Sound (fun i => (calls i).locks) s)
    (huser : update .user ∈ s.held i) (hwaits : Waits.WaitsFor s i j) :
    (calls i).Crosses (calls j) := by
  obtain ⟨hji, a, rest, htodo, b, hb, hrow, -⟩ := hwaits
  have hapart := hs.apart i j hji.symm
  have hnot : update .user ∉ s.held j := fun h => hapart _ huser _ h ⟨rfl, .inl rfl⟩
  obtain ⟨p, q, hsplit⟩ := List.append_of_mem hb
  obtain ⟨more, hmore⟩ := hs.initial j
  have hlocks : (calls j).locks = p ++ b :: (q ++ more) := by
    rw [← hmore, hsplit]
    simp
  have hp {x : Lock Row} (hx : x ∈ p) : x ∈ s.held j := by
    rw [hsplit]
    exact List.mem_append_left _ hx
  have hhas := has_of_not_user hlocks fun h => hnot (hp h)
  have hwants := wants_of_user (hs.split htodo) huser
  rw [← hrow] at hhas
  generalize a.row = row at hwants hhas
  cases hwants with
  | credential revoked => cases hhas <;> cases revoked
  | wallet user first =>
    cases hhas with
    | wallet wallet first' =>
      refine .wallet user wallet fun i hi hj => ?_
      exact hapart _ (first i hi) _ (hp (first' i hj)) ⟨rfl, .inl rfl⟩
  | budget i wallet =>
    cases hhas with
    | budget _ wallet' => exact absurd ⟨rfl, .inl rfl⟩ (hapart _ wallet _ (hp wallet'))
  | order i behind =>
    cases hhas with
    | order _ first => exact .order i behind first
  | refund i last =>
    cases hhas with
    | refund _ first => exact .refund i last first

theorem not_deadlock (hs : Waits.Sound (fun i => (calls i).locks) s)
    (h : ∀ i j, i ≠ j → ¬ (calls i).Crosses (calls j)) : ¬ Waits.Deadlock s := by
  refine Waits.not_deadlock_of_rank Row.rank fun i a rest j htodo hwaits b hb => ?_
  refine rank_lt (hs.split htodo) (fun huser => ?_) hb
  exact h i j hwaits.1.symm (crosses_of_user hs huser hwaits)

/-! ## Two calls that cross can stop each other -/

theorem user_then_wallet {c : Call} (h : c.userThenWallet) :
    ∃ p r, c.locks = p ++ update .wallet :: r ∧ update .user ∈ p ∧
      ∀ x ∈ p, x.row = .user ∨ x.row.Credential ∨
        ∃ o, x.row = .order o ∧ (c.orderFirst = some o ∨ c.orderBehindUser = some o) := by
  cases c with
  | reserveModelRequest apiKeyId budgetId =>
    refine ⟨[update .user, update (.apiKey apiKeyId)], _, rfl, .head _, ?_⟩
    simp [update, Row.Credential]
  | applyWebhookRefunded orderId existingId frozen =>
    refine ⟨[update (.order orderId), update .user], _, rfl, .tail _ (.head _), ?_⟩
    simp [update, Call.orderFirst]
  | applyRefund orderId existingId frozen =>
    refine ⟨[update .user, update (.order orderId)], _, rfl, .head _, ?_⟩
    simp [update, Call.orderBehindUser]
  | _ => cases h

theorem wallet_then_user {c : Call} (h : c.walletThenUser) :
    ∃ q t, c.locks = q ++ references :: t ∧ update .wallet ∈ q ∧
      ∀ x ∈ q, x.row = .wallet ∨ (∃ i, x.row = .budget i) ∨ (∃ i, x.row = .refund i) ∨
        ∃ o, x.row = .order o ∧ c.orderFirst = some o := by
  cases c with
  | settleModelRequest requestId budgetId | releaseModelRequest requestId budgetId =>
    refine ⟨update .wallet :: budgetLocks budgetId, [update (.request requestId)], rfl, .head _, ?_⟩
    cases budgetId <;> simp [budgetLocks, update]
  | createBudget currentId =>
    refine ⟨update .wallet :: budgetLocks currentId, [], rfl, .head _, ?_⟩
    cases currentId <;> simp [budgetLocks, update]
  | applyWebhookPaid orderId =>
    refine ⟨[update (.order orderId), update .wallet], [], rfl, .tail _ (.head _), ?_⟩
    simp [update, Call.orderFirst]
  | resolveRefundRisk refundId orderId =>
    refine ⟨[update (.refund refundId), update (.order orderId), update .wallet], [], rfl,
      .tail _ (.tail _ (.head _)), ?_⟩
    simp [update, Call.orderFirst]
  | _ => cases h

theorem order_behind_user {c : Call} {o : Id} (h : c.orderBehindUser = some o) :
    ∃ r, c.locks = [update .user] ++ update (.order o) :: r := by
  cases c with
  | prepareCheckout orderId | applyRefund orderId =>
    cases h
    exact ⟨_, rfl⟩
  | _ => cases h

theorem order_then_user {c : Call} {o : Id} (h : c.orderFirst = some o) :
    ∃ q b t, c.locks = q ++ b :: t ∧ b.row = .user ∧ update (.order o) ∈ q ∧
      ∀ x ∈ q, x.row ≠ .user := by
  cases c with
  | applyWebhookPaid orderId =>
    cases h
    refine ⟨[update (.order o), update .wallet], references, [], rfl, rfl, .head _, ?_⟩
    simp [update]
  | applyWebhookRefunded orderId existingId frozen =>
    cases h
    refine ⟨[update (.order o)], update .user, _, rfl, rfl, .head _, ?_⟩
    simp [update]
  | resolveRefundRisk refundId orderId =>
    cases h
    refine ⟨[update (.refund refundId), update (.order o), update .wallet], references, [], rfl,
      rfl, .tail _ (.head _), ?_⟩
    simp [update]
  | _ => cases h

theorem refund_last {c : Call} {f : Id} (h : c.refundLast = some f) :
    ∃ o p, c.locks = p ++ [update (.refund f)] ∧ update (.order o) ∈ p ∧ update .wallet ∈ p ∧
      ∀ x ∈ p, x.row = .user ∨ x.row = .wallet ∨ x.row = .order o ∨ x.row.Credential := by
  cases c with
  | applyWebhookRefunded orderId existingId frozen =>
    obtain rfl : existingId = some f := h
    refine ⟨orderId, update (.order orderId) :: update .user :: update .wallet :: frozen.locks, rfl,
      by simp, by simp, ?_⟩
    simp only [List.mem_cons]
    rintro x (rfl | rfl | rfl | hx)
    exacts [.inr (.inr (.inl rfl)), .inl rfl, .inr (.inl rfl),
      .inr (.inr (.inr (Frozen.credential hx)))]
  | applyRefund orderId existingId frozen =>
    obtain rfl : existingId = some f := h
    refine ⟨orderId, update .user :: update (.order orderId) :: update .wallet :: frozen.locks, rfl,
      by simp, by simp, ?_⟩
    simp only [List.mem_cons]
    rintro x (rfl | rfl | rfl | hx)
    exacts [.inl rfl, .inr (.inr (.inl rfl)), .inr (.inl rfl),
      .inr (.inr (.inr (Frozen.credential hx)))]
  | _ => cases h

theorem deadlock_of_order (hij : i ≠ j) {o : Id} (h : (calls i).orderBehindUser = some o)
    (h' : (calls j).orderFirst = some o) :
    ∃ actions, Waits.Deadlock
      (Run.after Waits.step (Waits.start fun i => (calls i).locks) actions) := by
  obtain ⟨r, hi⟩ := order_behind_user h
  obtain ⟨q, b, t, hj, hb, hq, hnot⟩ := order_then_user h'
  refine Waits.deadlock_of_cross hij hi hj (fun x hx y hy hxy => ?_) ⟨_, hq, rfl, .inl rfl⟩
    ⟨update .user, .head _, hb, .inr rfl⟩
  obtain rfl := List.mem_singleton.1 hx
  exact hnot y hy hxy.1.symm

theorem deadlock_of_wallet (hij : i ≠ j) (h : (calls i).userThenWallet)
    (h' : (calls j).walletThenUser)
    (hapart : ∀ o, (calls i).orderFirst = some o → (calls j).orderFirst ≠ some o) :
    ∃ actions, Waits.Deadlock
      (Run.after Waits.step (Waits.start fun i => (calls i).locks) actions) := by
  by_cases horder : ∃ o, (calls i).orderBehindUser = some o ∧ (calls j).orderFirst = some o
  · obtain ⟨o, hi, hj⟩ := horder
    exact deadlock_of_order hij hi hj
  obtain ⟨p, r, hi, hp, hrows⟩ := user_then_wallet h
  obtain ⟨q, t, hj, hq, hrows'⟩ := wallet_then_user h'
  refine Waits.deadlock_of_cross hij hi hj (fun x hx y hy hxy => ?_) ⟨_, hq, rfl, .inl rfl⟩
    ⟨_, hp, rfl, .inr rfl⟩
  have hrow := hxy.1
  rcases hrows' y hy with hy | ⟨_, hy⟩ | ⟨_, hy⟩ | ⟨o, hy, ho⟩ <;> rw [hy] at hrow <;>
    rcases hrows x hx with hx | hx | ⟨o', hx, ho'⟩ <;> rw [hrow] at hx <;> cases hx
  rcases ho' with ho' | ho'
  · exact hapart o ho' ho
  · exact horder ⟨o, ho', ho⟩

theorem deadlock_of_refund (hij : i ≠ j) {f : Id} (h : (calls i).refundLast = some f)
    (h' : (calls j).refundFirst = some f) :
    ∃ actions, Waits.Deadlock
      (Run.after Waits.step (Waits.start fun i => (calls i).locks) actions) := by
  obtain ⟨o, p, hi, hp, hp', hrows⟩ := refund_last h
  cases hcall : calls j with
  | resolveRefundRisk refundId orderId =>
    rw [hcall] at h'
    cases h'
    have hj : (calls j).locks =
        [update (.refund f), update (.order orderId), update .wallet, references] := by
      rw [hcall]
      rfl
    by_cases ho : orderId = o
    · subst ho
      refine Waits.deadlock_of_cross hij hi (q := [update (.refund f)]) hj
        (fun x hx y hy hxy => ?_) ⟨_, .head _, rfl, .inl rfl⟩ ⟨_, hp, rfl, .inl rfl⟩
      obtain rfl := List.mem_singleton.1 hy
      have hrow := hxy.1
      rcases hrows x hx with hx | hx | hx | hx <;> rw [hrow] at hx <;> cases hx
    · refine Waits.deadlock_of_cross hij hi (q := [update (.refund f), update (.order orderId)]) hj
        (fun x hx y hy hxy => ?_) ⟨_, .head _, rfl, .inl rfl⟩ ⟨_, hp', rfl, .inl rfl⟩
      have hrow := hxy.1
      simp only [List.mem_cons, List.not_mem_nil, or_false] at hy
      rcases hy with rfl | rfl <;> rcases hrows x hx with hx | hx | hx | hx <;>
        rw [hrow] at hx <;> cases hx
      exact ho rfl
  | _ =>
    rw [hcall] at h'
    cases h'

/-- The money calls of a user can stop each other exactly if two of them cross. -/
theorem deadlock_free_iff {n : Nat} (calls : Fin n → Call) :
    (∀ actions, ¬ Waits.Deadlock
      (Run.after Waits.step (Waits.start fun i => (calls i).locks) actions)) ↔
    ∀ i j, i ≠ j → ¬ (calls i).Crosses (calls j) := by
  constructor
  · intro h i j hij hcrosses
    have hdead : ∃ actions, Waits.Deadlock
        (Run.after Waits.step (Waits.start fun i => (calls i).locks) actions) := by
      cases hcrosses with
      | wallet user wallet apart => exact deadlock_of_wallet hij user wallet apart
      | order o behind first => exact deadlock_of_order hij behind first
      | refund f last first => exact deadlock_of_refund hij last first
    obtain ⟨actions, hdead⟩ := hdead
    exact h actions hdead
  · intro h actions
    exact not_deadlock (Waits.sound_after _ actions) h

end Runs

/-- A reservation has the user when a settlement has the wallet, and a refund by a webhook has the
order when a checkout has the user. -/
theorem reserve_settle_deadlock :
    Waits.Deadlock (Run.after Waits.step
      (Waits.start fun i => (![Call.reserveModelRequest "k" none,
        Call.settleModelRequest "q" none] i).locks) [.take 0, .take 0, .take 1]) ∧
    Waits.Deadlock (Run.after Waits.step
      (Waits.start fun i => (![Call.prepareCheckout "o",
        Call.applyWebhookRefunded "o" none ⟨[], [], [], []⟩] i).locks) [.take 0, .take 1]) := by
  constructor
  · refine Waits.deadlock_of_two (i := 0) (j := 1) ⟨by decide, ?_⟩ ⟨by decide, ?_⟩
    · exact ⟨update .wallet, [], rfl, update .wallet, .head _, by decide⟩
    · exact ⟨references, _, rfl, update .user, .head _, by decide⟩
  · refine Waits.deadlock_of_two (i := 0) (j := 1) ⟨by decide, ?_⟩ ⟨by decide, ?_⟩
    · exact ⟨update (.order "o"), [], rfl, update (.order "o"), .head _, by decide⟩
    · exact ⟨update .user, _, rfl, update .user, .head _, by decide⟩

end Kunlun.MoneyLocks
