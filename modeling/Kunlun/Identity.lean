import Kunlun.Statements

/-!
# Identity (`services/identity.py`)
-/

namespace Kunlun

/-! ## Freezing an account -/

/-- Commits nothing: its callers keep it in one transaction with money or audit. -/
def applyUserFreeze (userId : Id) (now : Time) : Service Nat := do
  let found ← Tx.select fun d => d.users.get? userId
  match found with
  | none => return 0
  | some _ => do
    Tx.add (DB.flushing (DB.updateUsers (fun u => u.id = userId) fun u =>
      { u with status := .frozen }))
    let keyCount ← Tx.execute (DB.updateApiKeys
      (fun k => decide (k.userId = userId) && decide (k.status = .active)) fun k =>
        { k with status := .revoked })
    let _ ← Tx.execute (DB.updateAccessSessions
      (fun x => decide (x.userId = userId) && !x.revoked) fun x => { x with revoked := true })
    let _ ← Tx.execute (DB.updateEmailTokens
      (fun t => decide (t.userId = userId) && t.consumedAt.isNone) fun t =>
        { t with consumedAt := some now })
    let _ ← Tx.execute (DB.updateResetTokens
      (fun t => decide (t.userId = userId) && t.consumedAt.isNone) fun t =>
        { t with consumedAt := some now })
    return keyCount

/-! ## Email verification -/

/-- A new one-time token and its delivery. All readings of `utcnow()` in a call are one `now`. -/
structure TokenArgs where
  /-- What `uuid4` and `token_digest` of an opaque token give. -/
  tokenId : Id
  digest : String
  now : Time
  ttl : Time
  /-- Whether the sender took the message. -/
  sent : Bool

def newToken (a : TokenArgs) (userId : Id) : OneTimeToken :=
  ⟨a.tokenId, userId, a.digest, a.now + a.ttl, none⟩

def consumeEmailTokens (p : OneTimeToken → Bool) (now : Time) : Service Nat :=
  Tx.execute (DB.updateEmailTokens p fun t => { t with consumedAt := some now })

def consumeResetTokens (p : OneTimeToken → Bool) (now : Time) : Service Nat :=
  Tx.execute (DB.updateResetTokens p fun t => { t with consumedAt := some now })

def issueEmailVerification (userId : Id) (a : TokenArgs) : Service Unit := do
  let found ← Tx.select fun d => d.users.get? userId
  let _ ← Tx.orRaise found (.identity "账户不存在")
  let _ ← consumeEmailTokens (fun t => decide (t.userId = userId) && t.consumedAt.isNone) a.now
  Tx.add (DB.insertEmailToken (newToken a userId))
  Tx.commit
  if a.sent then return ()
  else do
    let _ ← consumeEmailTokens (fun t => t.tokenDigest = a.digest) a.now
    Tx.commit
    Tx.raise (.identity "邮件发送失败")

def openEmailToken (digest : String) (d : DB) : Option OneTimeToken :=
  d.emailTokens.rows.find? fun t => t.tokenDigest = digest ∧ t.consumedAt = none

def consumeEmailVerification (digest : String) (now : Time) : Service Bool := do
  let found ← Tx.select (openEmailToken digest)
  match found.filter fun t => now < t.expiresAt with
  | none => return false
  | some record => do
    let user ← Tx.select fun d => (d.users.get? record.userId).filter fun u =>
      u.status = .pendingEmail
    match user with
    | none => do
      Tx.rollback
      return false
    | some user => do
      let changed ← consumeEmailTokens (fun t => decide (t.id = record.id) && t.consumedAt.isNone)
        now
      if changed ≠ 1 then do
        Tx.rollback
        return false
      else do
        Tx.add (DB.flushing (DB.updateUsers (fun u => u.id = user.id)
          fun u => { u with status := .active, emailVerifiedAt := some now }))
        Tx.commit
        return true

/-! ## Password reset -/

def userWithEmail (email : String) (d : DB) : Option User :=
  d.users.rows.find? fun u => u.email = email

/-- The answer is the same whether or not a token was issued. -/
def requestPasswordReset (email : String) (a : TokenArgs) : Service Unit := do
  let found ← Tx.select (userWithEmail email)
  match found.filter fun u => u.status = .active with
  | none => Tx.rollback
  | some user => do
    let _ ← consumeResetTokens (fun t => decide (t.userId = user.id) && t.consumedAt.isNone) a.now
    Tx.add (DB.insertResetToken (newToken a user.id))
    Tx.commit
    if a.sent then return ()
    else do
      let _ ← consumeResetTokens (fun t => t.tokenDigest = a.digest) a.now
      Tx.commit

structure ResetArgs where
  /-- `token_digest` of the token in the request. -/
  digest : String
  /-- What `hash_password` gives, or the text of its `ValueError`. -/
  passwordHash : Except String String
  now : Time

def openResetToken (digest : String) (d : DB) : Option OneTimeToken :=
  d.resetTokens.rows.find? fun t => t.tokenDigest = digest ∧ t.consumedAt = none

def consumeResetToken (tokenId : Id) (now : Time) : Service Nat :=
  Tx.execute (DB.updateResetTokens (fun t => decide (t.id = tokenId) && t.consumedAt.isNone)
    fun t => { t with consumedAt := some now })

/-- Revokes every credential of the token's user and sets the new password. -/
def rotateCredentials (userId : Id) (passwordHash : String) : Service Bool := do
  Tx.add (DB.flushing (DB.updateUsers (fun u => u.id = userId) fun u =>
    { u with passwordHash := passwordHash }))
  let _ ← Tx.execute (DB.updateAccessSessions (fun x => x.userId = userId) fun x =>
    { x with revoked := true })
  let _ ← Tx.execute (DB.updateApiKeys
    (fun k => decide (k.userId = userId) && decide (k.status = .active)) fun k =>
      { k with status := .revoked })
  Tx.commit
  return true

def resetPassword (a : ResetArgs) : Service Bool := do
  let found ← Tx.select (openResetToken a.digest)
  match found.filter fun t => a.now < t.expiresAt with
  | none => return false
  | some record => do
    let user ← Tx.select fun d => (d.users.get? record.userId).filter fun u => u.status = .active
    match user with
    | none => do
      let _ ← consumeResetToken record.id a.now
      Tx.commit
      return false
    | some _ => do
      let passwordHash ← Tx.lift (a.passwordHash.mapError Exc.identity)
      -- The token is read again under its lock.
      let again ← Tx.select fun d =>
        (d.resetTokens.get? record.id).filter fun t => t.consumedAt = none ∧ a.now < t.expiresAt
      match again with
      | none => return false
      | some record => do
        let changed ← consumeResetToken record.id a.now
        if changed ≠ 1 then do
          Tx.rollback
          return false
        else rotateCredentials record.userId passwordHash

/-! ## Gates -/

/-- The gate of `create_key`, under the lock of the user row. -/
def enforceKeyLimit (userId : Id) (maxActiveKeys : Int) : Service Unit := do
  Tx.raiseIf (maxActiveKeys < 1) (.identity "API Key 上限配置无效")
  let user ← Tx.select fun d => (d.users.get? userId).filter fun u => u.status = .active ∧
    u.emailVerifiedAt ≠ none
  Tx.raiseIf (user = none) (.identity "邮箱尚未验证")
  let count ← Tx.select fun d => d.apiKeys.count fun k => decide (k.userId = userId) && decide
    (k.status = .active)
  Tx.raiseIf (maxActiveKeys ≤ count) (.identity "API Key 数量已达到上限")

end Kunlun
