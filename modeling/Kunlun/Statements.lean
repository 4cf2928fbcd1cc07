import Kunlun.Models

/-!
# Statements on the tables

The exceptions that the services raise, and the inserts and updates of each table. A
statement gives nothing where the schema refuses it: a taken unique key, an unknown user.
-/

namespace Kunlun

inductive Exc where
  | billing (message : String) (statusCode : Nat)
  | budget (message : String) (statusCode : Nat)
  | payment (message : String) (statusCode : Nat)
  | paymentDomain (message : String) (statusCode : Nat)
  | identity (message : String)
  | http (detail : String) (statusCode : Nat)
  | runtimeError (message : String)
  | valueError (message : String)
  | attributeError
  | integrityError
  /-- What is written does not fit its column. -/
  | dataError
  | overflowError
  | unicodeEncodeError
  deriving DecidableEq

instance : Violation Exc := ⟨.integrityError⟩

def Exc.isIntegrityError : Exc → Bool
  | .integrityError => true
  | _ => false

/-- A function that takes a database session. -/
abbrev Service (α : Type) := Tx DB Exc α

/-- `try: x except IntegrityError: session.rollback(); raise e`. -/
def conflictsAs {α : Type} (e : Exc) (x : Service α) : Service α :=
  Tx.tryExcept x Exc.isIntegrityError fun _ => do
    Tx.rollback
    Tx.raise e

/-- A unique index over the rows where it is not null. -/
def unique {α β : Type} [DecidableEq β] (rows : List α) (index : α → Option β) : Bool :=
  decide (rows.filterMap index).Nodup

/-! ## Unique indexes of the schema -/

def uniqueOrders (rows : List PaymentOrder) : Bool :=
  unique rows PaymentOrder.providerTransactionId &&
    unique rows fun o => o.clientIdempotencyKey.map (o.userId, ·)

def uniqueEvents (rows : List PaymentWebhookEvent) : Bool :=
  unique rows (fun e => some (e.provider, e.eventId)) && unique rows fun e =>
    some (e.provider, e.nonce)

def uniqueRefunds (rows : List PaymentRefund) : Bool :=
  unique rows (fun r => some r.orderId) && unique rows PaymentRefund.providerRefundId

def uniqueRequests (rows : List ModelRequest) : Bool :=
  unique rows fun r => r.idempotencyKey.map (r.userId, ·)

namespace DB

/-! ## Inserts -/

def insertUser (u : User) (d : DB) : Option DB :=
  (d.users.insert? u).bind fun t =>
    if unique t.rows (fun x => some x.email) then some { d with users := t } else none

def insertWallet (w : Wallet) (d : DB) : Option DB :=
  (d.wallets.insert? w).map fun t => { d with wallets := t }

def insertAccessSession (x : AccessSession) (d : DB) : Option DB :=
  (d.accessSessions.insert? x).bind fun t =>
    if unique t.rows (fun y => some y.tokenDigest) then
      some { d with accessSessions := t } else none

def insertApiKey (k : ApiKey) (d : DB) : Option DB :=
  (d.apiKeys.insert? k).map fun t => { d with apiKeys := t }

def insertEmailToken (x : OneTimeToken) (d : DB) : Option DB :=
  (d.emailTokens.insert? x).bind fun t =>
    if unique t.rows (fun y => some y.tokenDigest) then some { d with emailTokens := t } else none

def insertResetToken (x : OneTimeToken) (d : DB) : Option DB :=
  (d.resetTokens.insert? x).bind fun t =>
    if unique t.rows (fun y => some y.tokenDigest) then some { d with resetTokens := t } else none

def insertLedger (j : LedgerTransaction) (d : DB) : Option DB :=
  (d.ledger.insert? j).map fun t => { d with ledger := t }

def insertOrder (o : PaymentOrder) (d : DB) : Option DB :=
  (d.orders.insert? o).bind fun t =>
    if (d.users.get? o.userId).isSome && uniqueOrders t.rows then
      some { d with orders := t } else none

def insertEvent (e : PaymentWebhookEvent) (d : DB) : Option DB :=
  (d.events.insert? e).bind fun t => if uniqueEvents t.rows then
  some { d with events := t } else none

def insertRefund (r : PaymentRefund) (d : DB) : Option DB :=
  (d.refunds.insert? r).bind fun t => if uniqueRefunds t.rows then
  some { d with refunds := t } else none

def insertBudget (b : Budget) (d : DB) : Option DB :=
  (d.budgets.insert? b).map fun t => { d with budgets := t }

def insertPrice (p : ModelPrice) (d : DB) : Option DB :=
  (d.prices.insert? p).bind fun t =>
    if unique t.rows (fun x => some (x.model, x.version)) then some { d with prices := t } else none

def insertRequest (r : ModelRequest) (d : DB) : Option DB :=
  (d.requests.insert? r).bind fun t => if uniqueRequests t.rows then
  some { d with requests := t } else none

def insertAttempt (a : ProviderAttempt) (d : DB) : Option DB :=
  (d.attempts.insert? a).bind fun t =>
    if unique t.rows (fun x => some (x.requestId, x.ordinal)) then
      some { d with attempts := t } else none

def insertOutbox (x : OutboxEvent) (d : DB) : Option DB := some { d with outbox := d.outbox ++ [x] }

def insertAction (x : OperatorAction) (d : DB) : Option DB :=
  some { d with actions := d.actions ++ [x] }

/-! ## Updates

Each gives the tables after it and its row count. The changed columns are in no primary
key, which the functions on rows carry as `hf`.
-/

theorem userId_locked (w : Wallet) : w.userId = w.userId := rfl

theorem id_revokedKey (k : ApiKey) : ({ k with status := .revoked } : ApiKey).id = k.id := rfl

theorem id_revokedSession (x : AccessSession) :
    ({ x with revoked := true } : AccessSession).id = x.id := rfl

theorem id_consumed (now : Time) (t : OneTimeToken) :
    ({ t with consumedAt := some now } : OneTimeToken).id = t.id := rfl

def updateUsers (p : User → Bool) (f : User → User)
    (hf : ∀ u, (f u).id = u.id := by intros; rfl) (d : DB) : Option (DB × Nat) :=
  some ({ d with users := d.users.update p f hf }, d.users.count p)

def updateAccessSessions (p : AccessSession → Bool) (f : AccessSession → AccessSession)
    (hf : ∀ x, (f x).id = x.id := by intros; rfl) (d : DB) : Option (DB × Nat) :=
  some ({ d with accessSessions := d.accessSessions.update p f hf }, d.accessSessions.count p)

def updateApiKeys (p : ApiKey → Bool) (f : ApiKey → ApiKey)
    (hf : ∀ k, (f k).id = k.id := by intros; rfl) (d : DB) : Option (DB × Nat) :=
  some ({ d with apiKeys := d.apiKeys.update p f hf }, d.apiKeys.count p)

def updateEmailTokens (p : OneTimeToken → Bool) (f : OneTimeToken → OneTimeToken)
    (hf : ∀ t, (f t).id = t.id := by intros; rfl) (d : DB) : Option (DB × Nat) :=
  some ({ d with emailTokens := d.emailTokens.update p f hf }, d.emailTokens.count p)

def updateResetTokens (p : OneTimeToken → Bool) (f : OneTimeToken → OneTimeToken)
    (hf : ∀ t, (f t).id = t.id := by intros; rfl) (d : DB) : Option (DB × Nat) :=
  some ({ d with resetTokens := d.resetTokens.update p f hf }, d.resetTokens.count p)

def updateWallets (p : Wallet → Bool) (f : Wallet → Wallet)
    (hf : ∀ w, (f w).userId = w.userId := by intros; rfl) (d : DB) : Option (DB × Nat) :=
  some ({ d with wallets := d.wallets.update p f hf }, d.wallets.count p)

def updateOrders (p : PaymentOrder → Bool) (f : PaymentOrder → PaymentOrder)
    (hf : ∀ o, (f o).id = o.id := by intros; rfl) (d : DB) : Option (DB × Nat) :=
  let t := d.orders.update p f hf
  if uniqueOrders t.rows then some ({ d with orders := t }, d.orders.count p) else none

def updateRefunds (p : PaymentRefund → Bool) (f : PaymentRefund → PaymentRefund)
    (hf : ∀ r, (f r).id = r.id := by intros; rfl) (d : DB) : Option (DB × Nat) :=
  let t := d.refunds.update p f hf
  if uniqueRefunds t.rows then some ({ d with refunds := t }, d.refunds.count p) else none

def updateBudgets (p : Budget → Bool) (f : Budget → Budget)
    (hf : ∀ b, (f b).id = b.id := by intros; rfl) (d : DB) : Option (DB × Nat) :=
  some ({ d with budgets := d.budgets.update p f hf }, d.budgets.count p)

def updatePrices (p : ModelPrice → Bool) (f : ModelPrice → ModelPrice)
    (hf : ∀ x, (f x).id = x.id := by intros; rfl) (d : DB) : Option (DB × Nat) :=
  some ({ d with prices := d.prices.update p f hf }, d.prices.count p)

def updateRequests (p : ModelRequest → Bool) (f : ModelRequest → ModelRequest)
    (hf : ∀ r, (f r).id = r.id := by intros; rfl) (d : DB) : Option (DB × Nat) :=
  some ({ d with requests := d.requests.update p f hf }, d.requests.count p)

/-- The flush of a changed object: the statement without its row count. -/
def flushing (f : DB → Option (DB × Nat)) (d : DB) : Option DB := (f d).map Prod.fst

end DB

end Kunlun
