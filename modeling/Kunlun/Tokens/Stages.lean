import Kunlun.Identity
import Kunlun.Lib.Locking

/-!
# One-time tokens, statement by statement

The calls of `services/identity.py` that issue and consume one-time tokens, as sessions of their
own. Users, sessions and API keys are written under the lock of the user's row only, so what a
call writes to them stands in its commit. Rows of the two token tables have locks of their own:
issuing a verification token does not lock the user.
-/

namespace Kunlun

inductive TokenKind where
  | email | reset
  deriving DecidableEq

namespace TokenKind

def table : TokenKind → DB → Table OneTimeToken OneTimeToken.id
  | .email, d => d.emailTokens
  | .reset, d => d.resetTokens

def insert : TokenKind → OneTimeToken → DB → Option DB
  | .email => DB.insertEmailToken
  | .reset => DB.insertResetToken

def consume (rows : List Id) (now : Time) (d : DB) : TokenKind → DB
  | .email => { d with
    emailTokens := d.emailTokens.update (fun t => t.id ∈ rows)
      (fun t => { t with consumedAt := some now }) (DB.id_consumed now) }
  | .reset => { d with
    resetTokens := d.resetTokens.update (fun t => t.id ∈ rows)
      (fun t => { t with consumedAt := some now }) (DB.id_consumed now) }

end TokenKind

/-- Unconsumed, of the user. -/
def isOpenOf (userId : Id) (t : OneTimeToken) : Bool :=
  decide (t.userId = userId) && t.consumedAt.isNone

/-- What `UPDATE … WHERE user_id = … AND consumed_at IS NULL` finds as it starts. -/
def openRows (k : TokenKind) (userId : Id) (d : DB) : List Id :=
  ((k.table d).rows.filter (isOpenOf userId)).map OneTimeToken.id

/-- The row, when it is there and unconsumed. -/
def stillOpen (k : TokenKind) (d : DB) (tokenId : Id) : Bool :=
  ((k.table d).get? tokenId).any fun t => t.consumedAt.isNone

/-- A row that is locked for `UPDATE` or by `FOR UPDATE`. -/
inductive RowLock where
  | user (id : Id)
  | token (k : TokenKind) (id : Id)
  deriving DecidableEq

/-- A call of one of the services. Others that freeze an account write more in the same
transaction. -/
inductive TokenCall where
  | issueEmailVerification (userId : Id) (a : TokenArgs)
  | requestPasswordReset (email : String) (a : TokenArgs)
  | consumeEmailVerification (digest : String) (now : Time)
  | resetPassword (a : ResetArgs)
  | freezeUser (userId : Id) (now : Time)

/-- What a session has done of its call. -/
inductive TokenStage where
  | call (c : TokenCall)
  /-- `request_password_reset` has the user's row. -/
  | requesting (userId : Id) (a : TokenArgs)
  /-- The older tokens are to be consumed. -/
  | supersede (k : TokenKind) (userId : Id) (a : TokenArgs)
  /-- The `UPDATE` of the older tokens has started, and waits for the rows that it has seen. -/
  | superseding (k : TokenKind) (userId : Id) (a : TokenArgs) (seen : List Id)
  | superseded (k : TokenKind) (userId : Id) (a : TokenArgs) (seen rows : List Id)
  /-- The token is committed, its message is not sent. -/
  | deliver (k : TokenKind) (a : TokenArgs)
  | retracted (k : TokenKind) (a : TokenArgs) (rows : List Id)
  /-- `consume_email_verification` has read the token, has the user's row, has the token's row. -/
  | verify (record : OneTimeToken) (now : Time)
  | verifying (record : OneTimeToken) (now : Time)
  | verified (record : OneTimeToken) (now : Time)
  /-- `reset_password` has read the token, has the user's row if there is one. -/
  | reset (record : OneTimeToken) (a : ResetArgs)
  | resetting (record : OneTimeToken) (a : ResetArgs) (user : Option Id)
  /-- The account is not active. -/
  | refused (record : OneTimeToken) (a : ResetArgs) (user : Option Id) (rows : List Id)
  /-- It has the token's row, and has consumed it. -/
  | rotate (record : OneTimeToken) (a : ResetArgs) (passwordHash : String)
  | rotated (record : OneTimeToken) (a : ResetArgs) (passwordHash : String)
  /-- `apply_user_freeze` has the user's row, and consumes the tokens of one kind after the
  other. -/
  | freeze (userId : Id) (now : Time)
  | freezing (userId : Id) (now : Time) (seen : List Id)
  | freezeMore (userId : Id) (now : Time) (emails : List Id)
  | freezingMore (userId : Id) (now : Time) (emails seen : List Id)
  | frozen (userId : Id) (now : Time) (emails resets : List Id)

inductive TokenAnswer where
  | none
  | bool (b : Bool)
  | keys (n : Nat)
  deriving DecidableEq

abbrev TokenOutcome := Except Exc TokenAnswer

/-- The row of the user, which only some of the calls lock. -/
def TokenKind.guard (userId : Id) : TokenKind → List RowLock
  | .email => []
  | .reset => [.user userId]

namespace TokenStage

def holds : TokenStage → List RowLock
  | requesting userId _ => [.user userId]
  | supersede k userId _ => k.guard userId
  | superseding k userId _ _ => k.guard userId
  | superseded k userId _ _ rows => k.guard userId ++ rows.map (.token k)
  | retracted k _ rows => rows.map (.token k)
  | verifying record _ => [.user record.userId]
  | verified record _ => [.user record.userId, .token .email record.id]
  | resetting _ _ user => user.toList.map .user
  | refused _ _ user rows => user.toList.map .user ++ rows.map (.token .reset)
  | rotate record _ _ => [.user record.userId, .token .reset record.id]
  | rotated record _ _ => [.user record.userId, .token .reset record.id]
  | freeze userId _ => [.user userId]
  | freezing userId _ _ => [.user userId]
  | freezeMore userId _ emails => .user userId :: emails.map (.token .email)
  | freezingMore userId _ emails _ => .user userId :: emails.map (.token .email)
  | frozen userId _ emails resets =>
    .user userId :: emails.map (.token .email) ++ resets.map (.token .reset)
  | _ => []

end TokenStage

/-! ## Commits -/

theorem id_activated (now : Time) (u : User) :
    ({ u with status := .active, emailVerifiedAt := some now } : User).id = u.id := rfl

theorem id_rotated (passwordHash : String) (u : User) :
    ({ u with passwordHash := passwordHash } : User).id = u.id := rfl

theorem id_frozen (u : User) : ({ u with status := .frozen } : User).id = u.id := rfl

def activate (userId : Id) (now : Time) (d : DB) : DB :=
  { d with
    users := d.users.update (fun u => u.id = userId)
      (fun u => { u with status := .active, emailVerifiedAt := some now })
      (id_activated now) }

/-- The new password, with no session and no key of the old one. -/
def rotateAll (userId : Id) (passwordHash : String) (d : DB) : DB :=
  { d with
    users := d.users.update (fun u => u.id = userId)
      (fun u => { u with passwordHash := passwordHash }) (id_rotated passwordHash)
    accessSessions := d.accessSessions.update (fun x => x.userId = userId)
      (fun x => { x with revoked := true }) DB.id_revokedSession
    apiKeys := d.apiKeys.update (fun k => decide (k.userId = userId) && decide (k.status = .active))
      (fun k => { k with status := .revoked }) DB.id_revokedKey }

def freezeAll (userId : Id) (d : DB) : DB :=
  { d with
    users := d.users.update (fun u => u.id = userId)
      (fun u => { u with status := .frozen }) id_frozen
    accessSessions := d.accessSessions.update (fun x => decide (x.userId = userId) && !x.revoked)
      (fun x => { x with revoked := true }) DB.id_revokedSession
    apiKeys := d.apiKeys.update (fun k => decide (k.userId = userId) && decide (k.status = .active))
      (fun k => { k with status := .revoked }) DB.id_revokedKey }

def activeKeys (userId : Id) (d : DB) : Nat :=
  d.apiKeys.count fun k => decide (k.userId = userId) && decide (k.status = .active)

/-! ## Statements -/

namespace TokenCall

/-- The first statement of a call. -/
def next : TokenCall → DB → TokenStage ⊕ TokenOutcome
  | .issueEmailVerification userId a, d =>
    match d.users.get? userId with
    | none => .inr (.error (.identity "账户不存在"))
    | some _ => .inl (.supersede .email userId a)
  | .requestPasswordReset email a, d =>
    match userWithEmail email d with
    | none => .inr (.ok .none)
    | some user => .inl (.requesting user.id a)
  | .consumeEmailVerification digest now, d =>
    match (openEmailToken digest d).filter fun t => now < t.expiresAt with
    | none => .inr (.ok (.bool false))
    | some record => .inl (.verify record now)
  | .resetPassword a, d =>
    match (openResetToken a.digest d).filter fun t => a.now < t.expiresAt with
    | none => .inr (.ok (.bool false))
    | some record => .inl (.reset record a)
  | .freezeUser userId now, d =>
    match d.users.get? userId with
    | none => .inr (.ok (.keys 0))
    | some _ => .inl (.freeze userId now)

end TokenCall

/-- What the caller gets when the message could not be sent. -/
def undelivered : TokenKind → TokenOutcome
  | .email => .error (.identity "邮件发送失败")
  | .reset => .ok .none

namespace TokenStage

def next : TokenStage → DB → (TokenStage ⊕ TokenOutcome) × DB
  | call c, d => (c.next d, d)
  | requesting userId a, d =>
    match (d.users.get? userId).filter fun u => u.status = .active with
    | none => (.inr (.ok .none), d)
    | some _ => (.inl (supersede .reset userId a), d)
  | supersede k userId a, d => (.inl (superseding k userId a (openRows k userId d)), d)
  | superseding k userId a seen, d =>
    (.inl (superseded k userId a seen (seen.filter (stillOpen k d))), d)
  | superseded k userId a _ rows, d =>
    match k.insert (newToken a userId) (k.consume rows a.now d) with
    | none => (.inr (.error .integrityError), d)
    | some e => (.inl (deliver k a), e)
  | deliver k a, d =>
    if a.sent then (.inr (.ok .none), d)
    else (.inl (retracted k a (((k.table d).rows.filter fun t => t.tokenDigest = a.digest).map
      OneTimeToken.id)), d)
  | retracted k a rows, d => (.inr (undelivered k), k.consume rows a.now d)
  | verify record now, d =>
    match d.users.get? record.userId with
    | none => (.inr (.ok (.bool false)), d)
    | some _ => (.inl (verifying record now), d)
  | verifying record now, d =>
    match (d.users.get? record.userId).filter fun u => u.status = .pendingEmail with
    | none => (.inr (.ok (.bool false)), d)
    | some _ =>
      if stillOpen .email d record.id then (.inl (verified record now), d)
        else (.inr (.ok (.bool false)), d)
  | verified record now, d =>
    (.inr (.ok (.bool true)),
      activate record.userId now (TokenKind.email.consume [record.id] now d))
  | reset record a, d => (.inl (resetting record a ((d.users.get? record.userId).map User.id)), d)
  | resetting record a user, d =>
    match (user.bind d.users.get?).filter fun u => u.status = .active with
    | none => (.inl (refused record a user ([record.id].filter (stillOpen .reset d))), d)
    | some _ =>
      match a.passwordHash with
      | .error message => (.inr (.error (.identity message)), d)
      | .ok passwordHash =>
        match d.resetTokens.get? record.id with
        | none => (.inr (.ok (.bool false)), d)
        | some _ => (.inl (rotate record a passwordHash), d)
  | refused _ a _ rows, d => (.inr (.ok (.bool false)), TokenKind.reset.consume rows a.now d)
  | rotate record a passwordHash, d =>
    match (d.resetTokens.get? record.id).filter fun t => t.consumedAt = none ∧
      a.now < t.expiresAt with
    | none => (.inr (.ok (.bool false)), d)
    | some _ => (.inl (rotated record a passwordHash), d)
  | rotated record a passwordHash, d =>
    (.inr (.ok (.bool true)), rotateAll record.userId passwordHash
      (TokenKind.reset.consume [record.id] a.now d))
  | freeze userId now, d => (.inl (freezing userId now (openRows .email userId d)), d)
  | freezing userId now seen, d =>
    (.inl (freezeMore userId now (seen.filter (stillOpen .email d))), d)
  | freezeMore userId now emails, d =>
    (.inl (freezingMore userId now emails (openRows .reset userId d)), d)
  | freezingMore userId now emails seen, d =>
    (.inl (frozen userId now emails (seen.filter (stillOpen .reset d))), d)
  | frozen userId now emails resets, d =>
    (.inr (.ok (.keys (activeKeys userId d))),
      freezeAll userId (TokenKind.reset.consume resets now (TokenKind.email.consume emails now d)))

/-- The next statement is a commit. -/
def commits : TokenStage → Bool
  | superseded .. | retracted .. | verified .. | refused .. | rotated .. | frozen .. => true
  | _ => false

end TokenStage

/-- The calls, each in a session of its own. -/
def tokenCalls : Locking DB TokenStage RowLock TokenOutcome := ⟨TokenStage.holds, TokenStage.next⟩

end Kunlun
