import Kunlun.Books

/-!
# What statements do to the books
-/

namespace Kunlun

/-! ## Inserts -/

theorem insertLedger_ok {j : LedgerTransaction} {d d' : DB} :
    DB.insertLedger j d = some d' ↔ ∃ t, d.ledger.insert? j = some t ∧
    d' = { d with ledger := t } := by
  simp [DB.insertLedger, @eq_comm _ d']

theorem insertOrder_ok {o : PaymentOrder} {d d' : DB} :
    DB.insertOrder o d = some d' ↔ ∃ t, d.orders.insert? o = some t ∧
      ((d.users.get? o.userId).isSome ∧ uniqueOrders t.rows) ∧ d' = { d with orders := t } := by
  simp [DB.insertOrder, Option.bind_eq_some_iff, @eq_comm _ d']

theorem insertRefund_ok {r : PaymentRefund} {d d' : DB} :
    DB.insertRefund r d = some d' ↔ ∃ t, d.refunds.insert? r = some t ∧ uniqueRefunds t.rows ∧
      d' = { d with refunds := t } := by
  simp [DB.insertRefund, Option.bind_eq_some_iff, @eq_comm _ d']

theorem insertBudget_ok {b : Budget} {d d' : DB} :
    DB.insertBudget b d = some d' ↔ ∃ t, d.budgets.insert? b = some t ∧
    d' = { d with budgets := t } := by
  simp [DB.insertBudget, @eq_comm _ d']

theorem insertRequest_ok {r : ModelRequest} {d d' : DB} :
    DB.insertRequest r d = some d' ↔ ∃ t, d.requests.insert? r = some t ∧ uniqueRequests t.rows ∧
      d' = { d with requests := t } := by
  simp [DB.insertRequest, Option.bind_eq_some_iff, @eq_comm _ d']

/-! ## Updates -/

@[simp]
theorem lockWallets_eq (p : Wallet → Bool) (d : DB) :
    DB.updateWallets p (fun w => w) (fun _ => rfl) d = some (d, d.wallets.count p) := by
  simp [DB.updateWallets]

theorem updateWallets_one {u : Id} {q : Wallet → Bool} {f : Wallet → Wallet}
    {hf : ∀ w, (f w).userId = w.userId}
    {d d' : DB} (h : DB.updateWallets (fun w => decide (w.userId = u) && q w) f
      hf d = some (d', 1)) :
    ∃ w, d.wallets.get? u = some w ∧ q w ∧ d' = { d with wallets := d.wallets.modify u f hf } := by
  obtain ⟨rfl, hn⟩ := Prod.mk.inj (Option.some.inj h)
  obtain ⟨w, hw, hq, ht⟩ := Table.update_one hn
  exact ⟨w, hw, hq, by rw [ht]⟩

theorem updateWallets_found {u : Id} {q : Wallet → Bool} {d : DB} (h : (d.wallets.get? u).any q)
    (f : Wallet → Wallet)
    (hf : ∀ w, (f w).userId = w.userId) :
    DB.updateWallets (fun w => decide (w.userId = u) && q w) f hf d =
      some ({ d with wallets := d.wallets.modify u f hf }, 1) := by
  rw [DB.updateWallets, Table.update_key_of_guard _ _ _ _ _ h, Table.count_key, h]
  rfl

theorem updateBudgets_found {i : Id} {q : Budget → Bool} {d : DB} (h : (d.budgets.get? i).any q)
    (f : Budget → Budget)
    (hf : ∀ b, (f b).id = b.id) : DB.updateBudgets (fun b => decide (b.id = i) && q b) f hf d =
      some ({ d with budgets := d.budgets.modify i f hf }, 1) := by
  rw [DB.updateBudgets, Table.update_key_of_guard _ _ _ _ _ h, Table.count_key, h]
  rfl

theorem updateBudgets_one {i : Id} {q : Budget → Bool} {f : Budget → Budget}
    {hf : ∀ b, (f b).id = b.id}
    {d d' : DB} (h : DB.updateBudgets (fun b => decide (b.id = i) && q b) f hf d = some (d', 1)) :
    ∃ b, d.budgets.get? i = some b ∧ q b ∧ d' = { d with budgets := d.budgets.modify i f hf } := by
  obtain ⟨rfl, hn⟩ := Prod.mk.inj (Option.some.inj h)
  obtain ⟨b, hb, hq, ht⟩ := Table.update_one hn
  exact ⟨b, hb, hq, by rw [ht]⟩

theorem updateOrders_ok {p : PaymentOrder → Bool} {f : PaymentOrder → PaymentOrder}
    {hf : ∀ o, (f o).id = o.id}
    {d d' : DB} {n : Nat} :
    DB.updateOrders p f hf d = some (d', n) ↔ uniqueOrders (d.orders.update p f hf).rows ∧
      d' = { d with orders := d.orders.update p f hf } ∧ n = d.orders.count p := by
  simp [DB.updateOrders, @eq_comm _ d', @eq_comm _ n]

theorem updateRefunds_ok {p : PaymentRefund → Bool} {f : PaymentRefund → PaymentRefund}
    {hf : ∀ r, (f r).id = r.id}
    {d d' : DB} {n : Nat} :
    DB.updateRefunds p f hf d = some (d', n) ↔ uniqueRefunds (d.refunds.update p f hf).rows ∧
      d' = { d with refunds := d.refunds.update p f hf } ∧ n = d.refunds.count p := by
  simp [DB.updateRefunds, @eq_comm _ d', @eq_comm _ n]

theorem updateOrders_one {i : Id} {q : PaymentOrder → Bool} {f : PaymentOrder → PaymentOrder}
    {hf : ∀ o, (f o).id = o.id} {d d' : DB}
    (h : DB.updateOrders (fun o => decide (o.id = i) && q o) f hf d = some (d', 1)) :
    ∃ o, d.orders.get? i = some o ∧ q o ∧ d' = { d with orders := d.orders.modify i f hf } := by
  obtain ⟨-, rfl, hn⟩ := updateOrders_ok.1 h
  obtain ⟨o, ho, hq, ht⟩ := Table.update_one hn.symm
  exact ⟨o, ho, hq, by rw [ht]⟩

theorem updateRefunds_one {i : Id} {q : PaymentRefund → Bool} {f : PaymentRefund → PaymentRefund}
    {hf : ∀ r, (f r).id = r.id} {d d' : DB}
    (h : DB.updateRefunds (fun r => decide (r.id = i) && q r) f hf d = some (d', 1)) :
    ∃ r, d.refunds.get? i = some r ∧ q r ∧ d' = { d with refunds := d.refunds.modify i f hf } := by
  obtain ⟨-, rfl, hn⟩ := updateRefunds_ok.1 h
  obtain ⟨r, hr, hq, ht⟩ := Table.update_one hn.symm
  exact ⟨r, hr, hq, by rw [ht]⟩

theorem flushOrders_ok {p : PaymentOrder → Bool} {f : PaymentOrder → PaymentOrder}
    {hf : ∀ o, (f o).id = o.id}
    {d d' : DB} :
    DB.flushing (DB.updateOrders p f hf) d = some d' ↔ uniqueOrders (d.orders.update p f hf).rows ∧
      d' = { d with orders := d.orders.update p f hf } := by
  simp [DB.flushing, updateOrders_ok, Prod.exists]

theorem flushRefunds_ok {p : PaymentRefund → Bool} {f : PaymentRefund → PaymentRefund}
    {hf : ∀ r, (f r).id = r.id}
    {d d' : DB} :
    DB.flushing (DB.updateRefunds p f hf) d = some d' ↔
    uniqueRefunds (d.refunds.update p f hf).rows ∧
      d' = { d with refunds := d.refunds.update p f hf } := by
  simp [DB.flushing, updateRefunds_ok, Prod.exists]

theorem mem_users {d : DB} {u : Id} : u ∈ d.books.users ↔ (d.users.get? u).isSome := by
  rw [Option.isSome_iff_ne_none, ne_eq, Table.get?_eq_none, not_not]
  rfl

/-! ## Writes that are nothing to the books -/

/-- A write that leaves the books alone. -/
def Neutral (w : DB → Option DB) : Prop := ∀ d d', w d = some d' → d'.books = d.books

theorem neutral_insertEvent (e : PaymentWebhookEvent) : Neutral (DB.insertEvent e) := by
  intro d d' h
  simp only [DB.insertEvent, Option.bind_eq_some_iff, Option.ite_none_right_eq_some] at h
  obtain ⟨_, -, -, h⟩ := h
  cases h
  rfl

theorem neutral_insertOutbox (x : OutboxEvent) : Neutral (DB.insertOutbox x) := by
  rintro d d' ⟨⟩
  rfl

theorem neutral_insertAction (x : OperatorAction) : Neutral (DB.insertAction x) := by
  rintro d d' ⟨⟩
  rfl

theorem books_updateUsers (d : DB) (p : User → Bool) (f : User → User) (hf : ∀ u, (f u).id = u.id) :
    DB.books { d with users := d.users.update p f hf } = d.books := by
  simp [DB.books, Table.map_update d.users p f hf User.id fun u _ _ => hf u]

theorem neutral_updateUsers (p : User → Bool) (f : User → User) (hf : ∀ u, (f u).id = u.id) :
    Neutral (DB.flushing (DB.updateUsers p f hf)) := by
  rintro d d' ⟨⟩
  exact books_updateUsers d p f hf

/-! ## Sessions -/

/-- A session that has staged nothing for the books. -/
structure Staged (s : Session DB) : Prop where
  work : s.work.books = s.committed.books
  pending : ∀ w ∈ s.pending, Neutral w

theorem Staged.requests {s : Session DB} (h : Staged s) : s.work.requests = s.committed.requests :=
  congrArg Books.requests h.work

theorem Staged.orders {s : Session DB} (h : Staged s) : s.work.orders = s.committed.orders :=
  congrArg Books.orders h.work

theorem staged_fresh (d : DB) : Staged (.fresh d) := ⟨rfl, by simp [Session.fresh]⟩

theorem applyAll_neutral {ws : List (DB → Option DB)} (h : ∀ w ∈ ws, Neutral w) {d d' : DB}
    (ha : Tx.applyAll ws d = some d') : d'.books = d.books := by
  induction ws generalizing d with
  | nil =>
    obtain rfl := Option.some.inj ha
    rfl
  | cons w ws ih =>
    obtain ⟨d₁, h1, h2⟩ := (Tx.applyAll_cons ..).1 ha
    rw [ih (fun v hv => h v (by simp [hv])) h2, h w (by simp) d d₁ h1]

theorem Staged.add {s : Session DB} (h : Staged s) {w : DB → Option DB} (hw : Neutral w) :
    Staged { s with pending := s.pending ++ [w] } := by
  refine ⟨h.work, fun v hv => ?_⟩
  rcases List.mem_append.1 hv with hv | hv
  · exact h.pending v hv
  · simp only [List.mem_singleton] at hv
    rwa [hv]

theorem Staged.pure {d : DB} : Staged ⟨d, d, []⟩ := ⟨rfl, by simp⟩

theorem Staged.commit {s t : Session DB} (h : Staged s) {u : Unit}
    (hc : (Tx.commit : Service Unit) s = (.ok u, t)) :
    t.committed.books = s.committed.books ∧ Staged t := by
  obtain ⟨d, ha, rfl⟩ := (Tx.commit_ok ..).1 hc
  exact ⟨(applyAll_neutral h.pending ha).trans h.work, .pure⟩

/-- Code that moves the books by what it commits, and has staged nothing for them when it
returns. -/
structure Carries (env : Env) {α : Type} (x : Service α) : Prop where
  moves : ∀ s, Staged s → Tx.Leaves x s fun d => Moves env s.committed.books d.books
  staged : ∀ s a t, Staged s → x s = (.ok a, t) → Staged t

section Carries

variable {env : Env} {α β : Type}

theorem carries_bind {x : Service α} {f : α → Service β} (hx : Carries env x)
    (hf : ∀ a, Carries env (f a)) :
    Carries env (x >>= f) := by
  refine ⟨fun s hs => Tx.leaves_bind (hx.moves s hs) fun a t h => ?_, fun s b t hs h => ?_⟩
  · have h1 := hx.moves s hs
    rw [Tx.Leaves, h] at h1
    exact .trans h1 ((hf a).moves t (hx.staged s a t hs h))
  · obtain ⟨a, t', h1, h2⟩ := (Tx.bind_ok ..).1 h
    exact (hf a).staged t' b t (hx.staged s a t' hs h1) h2

/-- Code that stages nothing and commits nothing. -/
theorem carries_quiet {x : Service α} (hx : Tx.Quiet x) (h : ∀ s a t, x s = (.ok a, t) → t = s) :
    Carries env x :=
  ⟨fun _ _ => hx.leaves .refl, fun s a t hs hok => by rwa [h s a t hok]⟩

theorem carries_pure (a : α) : Carries env (pure a : Service α) := carries_quiet (by simp) (by simp)

theorem carries_lift (r : Except Exc α) : Carries env (Tx.lift r : Service α) :=
  carries_quiet (by simp) (by simp)

theorem carries_raise (e : Exc) : Carries env (Tx.raise e : Service α) :=
  carries_quiet (by simp) (by simp)

theorem carries_raiseIf (c : Prop) [Decidable c] (e : Exc) :
    Carries env (Tx.raiseIf c e : Service Unit) :=
  carries_quiet (by simp) (by simp)

theorem carries_rollbackIf (c : Prop) [Decidable c] (e : Exc) :
    Carries env (Tx.rollbackIf c e : Service Unit) :=
  carries_quiet (by simp) (by simp)

theorem carries_orRaise (o : Option α) (e : Exc) : Carries env (Tx.orRaise o e : Service α) :=
  carries_quiet (by simp) (by simp)

theorem carries_orRollback (o : Option α) (e : Exc) : Carries env (Tx.orRollback o e : Service α) :=
  carries_quiet (by simp) (by simp)

theorem carries_select (f : DB → α) : Carries env (Tx.select f : Service α) :=
  carries_quiet (by simp) (by simp)

theorem carries_rollback : Carries env (Tx.rollback : Service Unit) := by
  refine ⟨fun _ _ => Tx.quiet_rollback.leaves .refl, fun s u t _ h => ?_⟩
  rw [(Tx.rollback_ok ..).1 h]
  exact staged_fresh _

theorem carries_add {w : DB → Option DB} (hw : Neutral w) :
    Carries env (Tx.add w : Service Unit) := by
  refine ⟨fun _ _ => (Tx.quiet_add _).leaves .refl, fun s u t hs h => ?_⟩
  rw [(Tx.add_ok ..).1 h]
  exact hs.add hw

theorem carries_execute {f : DB → Option (DB × Nat)} (hf : Neutral (DB.flushing f)) :
    Carries env (Tx.execute f : Service Nat) := by
  refine ⟨fun _ _ => (Tx.quiet_execute _).leaves .refl, fun s n t hs h => ?_⟩
  obtain ⟨d, hd, rfl⟩ := (Tx.execute_ok ..).1 h
  exact ⟨(hf s.work d (by rw [DB.flushing, hd]; rfl)).trans hs.work, hs.pending⟩

theorem carries_commit : Carries env (Tx.commit : Service Unit) := by
  refine ⟨fun s hs => Tx.atomic_commit.leaves .refl fun u t h => ?_,
    fun s u t hs h => (hs.commit h).2⟩
  rw [(hs.commit h).1]

theorem carries_ite (c : Prop) [Decidable c] {x y : Service α} (hx : c → Carries env x)
    (hy : ¬ c → Carries env y) :
    Carries env (if c then x else y) := by
  by_cases h : c
  · rw [if_pos h]
    exact hx h
  · rw [if_neg h]
    exact hy h

theorem carries_atomic {x : Service α} (hx : Tx.Atomic x)
    (h : ∀ s a t, Staged s → x s = (.ok a, t) →
      Moves env s.committed.books t.committed.books ∧ Staged t) :
    Carries env x :=
  ⟨fun s hs => hx.leaves .refl fun a t hok => (h s a t hs hok).1, fun s a t hs hok =>
    (h s a t hs hok).2⟩

/-- What `Carries` says of one session. -/
structure CarriesFrom (env : Env) (x : Service α) (s : Session DB) : Prop where
  moves : Tx.Leaves x s fun d => Moves env s.committed.books d.books
  staged : ∀ a t, x s = (.ok a, t) → Staged t

theorem Carries.from {x : Service α} (hx : Carries env x) {s : Session DB} (hs : Staged s) :
    CarriesFrom env x s :=
  ⟨hx.moves s hs, fun a t => hx.staged s a t hs⟩

theorem carries_of_from {x : Service α} (h : ∀ s, Staged s → CarriesFrom env x s) : Carries env x :=
  ⟨fun s hs => (h s hs).moves, fun s a t hs => (h s hs).staged a t⟩

theorem carriesFrom_bind {x : Service α} {f : α → Service β} {s : Session DB} (hx : Tx.Quiet x)
    (hst : ∀ a t, x s = (.ok a, t) → t = s) (hf : ∀ a, x s = (.ok a, s) → CarriesFrom env (f a) s) :
    CarriesFrom env (x >>= f) s := by
  refine ⟨Tx.leaves_bind (hx.leaves .refl) fun a t h => ?_, fun b t h => ?_⟩
  · obtain rfl := hst a t h
    exact (hf a h).moves
  · obtain ⟨a, t', h1, h2⟩ := (Tx.bind_ok ..).1 h
    obtain rfl := hst a t' h1
    exact (hf a h1).staged b t h2

theorem carriesFrom_atomic {x : Service α} {s : Session DB} (hx : Tx.Atomic x)
    (h : ∀ a t, x s = (.ok a, t) → Moves env s.committed.books t.committed.books ∧ Staged t) :
    CarriesFrom env x s :=
  ⟨hx.leaves .refl fun a t hok => (h a t hok).1, fun a t hok => (h a t hok).2⟩

theorem carries_tryExcept {x : Service α} {catches : Exc → Bool} {handler : Exc → Service α}
    (hx : Carries env x) (hh : ∀ e, Carries env (Tx.rollback >>= fun _ => handler e)) :
    Carries env (Tx.tryExcept x catches fun e => Tx.rollback >>= fun _ => handler e) := by
  -- a handler starts from a fresh session, whatever the code had staged
  have hrun (e : Exc) (t : Session DB) :
      (Tx.rollback >>= fun _ => handler e) t = (Tx.rollback >>= fun _ => handler e)
        (.fresh t.committed) := rfl
  refine ⟨fun s hs => Tx.leaves_tryExcept (hx.moves s hs) fun e t h => ?_, fun s a t hs h => ?_⟩
  · have h1 := hx.moves s hs
    rw [Tx.Leaves, h] at h1
    have h2 := (hh e).moves _ (staged_fresh t.committed)
    rw [Tx.Leaves, ← hrun] at h2
    exact .trans h1 h2
  · rcases (Tx.tryExcept_ok ..).1 h with h | ⟨e, s', _, _, h⟩
    · exact hx.staged s a t hs h
    · rw [hrun] at h
      exact (hh e).staged _ a t (staged_fresh _) h

theorem carries_conflictsAs {x : Service α} (e : Exc) (hx : Carries env x) :
    Carries env (conflictsAs e x) :=
  carries_tryExcept hx fun _ => carries_bind carries_rollback fun _ => carries_raise e

/-- What one call does to the books. -/
theorem Carries.run {x : Service α} (hx : Carries env x) (d : DB) :
    Moves env d.books (Tx.run x d).2.books :=
  hx.moves (.fresh d) (staged_fresh d)

end Carries

theorem run_moves {α : Type} {env : Env} {x : Service α} {d : DB} (hx : Tx.Atomic x)
    (h : ∀ a t, x (.fresh d) = (.ok a, t) → Moves env d.books t.committed.books) :
    Moves env d.books (Tx.run x d).2.books := by
  rcases Tx.run_cases hx d with heq | ⟨a, t, ht, heq⟩
  · rw [heq]
  · rw [heq]
    exact h a t ht

theorem postTransaction_moves {userId : Id} {kind : LedgerKind} {reference key : String}
    {entries : List (Account × Int)} {s t : Session DB} {u : Unit}
    (h : postTransaction userId kind reference key entries s = (.ok u, t)) :
    ∃ j d₁ ledger, Tx.applyAll s.pending s.work = some d₁ ∧
      Posts j kind userId reference (legs .customerAvailable entries)
        (legs .customerReserved entries)
        (legs .platformClearing entries) (legs .platformRisk entries) ∧ j.idempotencyKey = key ∧
      d₁.ledger.insert? j = some ledger ∧ t = ⟨s.committed, { d₁ with ledger := ledger }, []⟩ := by
  obtain ⟨hn, d₁, d₂, h1, h2, rfl⟩ := (postTransaction_ok ..).1 h
  obtain ⟨ledger, hl, rfl⟩ := insertLedger_ok.1 h2
  exact ⟨_, d₁, ledger, h1,
    ⟨rfl, rfl, rfl, total_journal .., total_journal .., total_journal .., total_journal ..⟩, rfl,
    hl, rfl⟩

/-! ## Sessions that have staged writes to the books -/

/-- A write that changes the books by `W`. -/
structure Effect (w : DB → Option DB) (W : Books → Books) : Prop where
  books : ∀ d d', w d = some d' → d'.books = W d.books

theorem Neutral.effect {w : DB → Option DB} (h : Neutral w) : Effect w fun b => b := ⟨h⟩

/-- Others see the books `c`, the transaction has got to `b`, and the pending writes change them
by `E`. -/
structure Stages (s : Session DB) (c b : Books) (E : Books → Books) : Prop where
  committed : s.committed.books = c
  work : s.work.books = b
  pending : ∀ d d', Tx.applyAll s.pending d = some d' → d'.books = E d.books

theorem Staged.stages {s : Session DB} (h : Staged s) :
    Stages s s.committed.books s.committed.books fun b => b :=
  ⟨rfl, h.work, fun _ _ => applyAll_neutral h.pending⟩

section Stages

variable {s t : Session DB} {c b : Books} {E W : Books → Books} {u : Unit}

theorem Stages.add {w : DB → Option DB} (hs : Stages s c b E) (hw : Effect w W)
    (h : (Tx.add w : Service Unit) s = (.ok u, t)) : Stages t c b fun x => W (E x) := by
  obtain rfl := (Tx.add_ok ..).1 h
  refine ⟨hs.committed, hs.work, fun d d' ha => ?_⟩
  simp only [Tx.applyAll_append, Tx.applyAll_cons, Tx.applyAll_nil, Option.some.injEq,
    exists_eq_right] at ha
  obtain ⟨d₁, h1, h2⟩ := ha
  rw [hw.books _ _ h2, hs.pending _ _ h1]

theorem Stages.addAll {vs : List (DB → Option DB)} (hs : Stages s c b E) (hv : ∀ v ∈ vs, Neutral v)
    (hc : t.committed = s.committed) (hw : t.work.books = s.work.books)
    (hp : t.pending = s.pending ++ vs) :
    Stages t c b E := by
  refine ⟨by rw [hc]; exact hs.committed, hw.trans hs.work, fun d d' ha => ?_⟩
  rw [hp, Tx.applyAll_append] at ha
  obtain ⟨d₁, h1, h2⟩ := ha
  rw [applyAll_neutral hv h2, hs.pending _ _ h1]

theorem Stages.updateOrder {i : Id} {q : PaymentOrder → Bool} {f : PaymentOrder → PaymentOrder}
    {hf : ∀ o, (f o).id = o.id} (hs : Stages s c b E)
    (h : (Tx.execute (DB.updateOrders (fun o => decide (o.id = i) && q o) f hf) : Service Nat) s =
      (.ok 1, t)) :
    ∃ o, b.orders.get? i = some o ∧ q o ∧
      Stages t c { b with orders := b.orders.modify i f hf } E := by
  obtain ⟨d, hd, rfl⟩ := (Tx.execute_ok ..).1 h
  obtain ⟨o, ho, hq, rfl⟩ := updateOrders_one hd
  rw [← hs.work]
  exact ⟨o, ho, hq, hs.committed, rfl, hs.pending⟩

theorem Stages.commit (hs : Stages s c b E) (h : (Tx.commit : Service Unit) s = (.ok u, t)) :
    t.committed.books = E b ∧ Staged t := by
  obtain ⟨d, ha, rfl⟩ := (Tx.commit_ok ..).1 h
  refine ⟨?_, .pure⟩
  rw [hs.pending _ _ ha, hs.work]

theorem Stages.journal {userId : Id} {kind : LedgerKind} {reference key : String}
    {entries : List (Account × Int)} (hs : Stages s c b E)
    (h : postTransaction userId kind reference key entries s = (.ok u, t)) :
    ∃ hn ledger, (E b).ledger.insert? (journal userId kind reference key entries hn) = some ledger ∧
      Stages t c { E b with ledger := ledger } fun x => x := by
  obtain ⟨hn, d₁, d₂, hpend, h2, rfl⟩ := (postTransaction_ok ..).1 h
  obtain ⟨ledger, hl, rfl⟩ := insertLedger_ok.1 h2
  have hbooks := hs.pending _ _ hpend
  rw [hs.work] at hbooks
  refine ⟨hn.2, ledger, ?_, hs.committed, ?_, fun d d' ha => ?_⟩
  · rw [← hbooks]
    exact hl
  · rw [← hbooks]
    rfl
  · rw [Option.some.inj ha]

theorem Stages.postTransaction {userId : Id} {kind : LedgerKind} {reference key : String}
    {entries : List (Account × Int)} (hs : Stages s c b E)
    (h : postTransaction userId kind reference key entries s = (.ok u, t)) :
    ∃ j ledger, Posts j kind userId reference (legs .customerAvailable entries)
      (legs .customerReserved entries)
        (legs .platformClearing entries) (legs .platformRisk entries) ∧ j.idempotencyKey = key ∧
      (E b).ledger.insert? j = some ledger ∧
      Stages t c { E b with ledger := ledger } fun x => x := by
  obtain ⟨hn, ledger, hl, hs'⟩ := hs.journal h
  exact ⟨_, ledger, ⟨rfl, rfl, rfl, total_journal .., total_journal .., total_journal ..,
    total_journal ..⟩, rfl, hl, hs'⟩

end Stages

theorem effect_setBalance (userId : Id) (balance : Int) :
    Effect (DB.flushing (DB.updateWallets (fun w => w.userId = userId) fun w =>
      { w with balanceMicrousd := balance }))
      fun b => { b with wallets := b.wallets.modify userId fun w =>
        { w with balanceMicrousd := balance } } := by
  constructor
  rintro d d' ⟨⟩
  rfl

theorem effect_setOrder (i : Id) (f : PaymentOrder → PaymentOrder) (hf : ∀ o, (f o).id = o.id) :
    Effect (DB.flushing (DB.updateOrders (fun o => o.id = i) f hf))
      fun b => { b with orders := b.orders.modify i f hf } := by
  constructor
  intro d d' h
  obtain ⟨-, rfl⟩ := flushOrders_ok.1 h
  rfl

theorem effect_setRefund (i : Id) (f : PaymentRefund → PaymentRefund) (hf : ∀ r, (f r).id = r.id) :
    Effect (DB.flushing (DB.updateRefunds (fun r => r.id = i) f hf))
      fun b => { b with refunds := b.refunds.modify i f hf } := by
  constructor
  intro d d' h
  obtain ⟨-, rfl⟩ := flushRefunds_ok.1 h
  rfl

end Kunlun
