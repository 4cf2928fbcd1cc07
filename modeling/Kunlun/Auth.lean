import Kunlun.ApiKeys
import Kunlun.Routes

/-!
# Who is let in (`auth.py`)

A session of the web page and a key of the API stand for a user, as long as the account is active.
-/

namespace Kunlun

/-- What is called of the standard library. -/
structure AuthLibrary where
  casefold : PyStr → PyStr
  /-- `token_digest` under the pepper of the sessions, and under that of the keys. -/
  sessionDigest : PyStr → String
  keyDigest : PyStr → String
  /-- An id, as the database holds it. -/
  text : PyStr → Id

/-- The scheme and the credentials of an `Authorization` header. -/
abbrev Authorization := Option (PyStr × PyStr)

structure Principal where
  userId : Id
  apiKeyId : Option Id
  deriving DecidableEq

section Auth

variable (L : AuthLibrary)

/-- `_credentials` -/
def credentials : Authorization → Except Exc PyStr
  | none => .error (.http "缺少有效凭证" 401)
  | some (scheme, raw) =>
    if L.casefold scheme ≠ py "bearer" then .error (.http "缺少有效凭证" 401)
    else if ¬ (1 ≤ raw.length ∧ raw.length ≤ 512) then .error (.http "凭证格式无效" 401)
    else .ok raw

def sessionWithDigest (digest : String) (d : DB) : Option AccessSession :=
  d.accessSessions.rows.find? fun x => decide (x.tokenDigest = digest) && !x.revoked

def activeUser (userId : Id) : Service User := do
  let found ← Tx.select fun d => (d.users.get? userId).filter fun u => u.status = .active
  Tx.orRaise found (.http "账户不可用" 401)

def requireSession (authorization : Authorization) (now : Time) : Service Principal := do
  let raw ← Tx.lift (credentials L authorization)
  Tx.raiseIf (¬ py "sess_" <+: raw) (.http "会话凭证无效" 401)
  let found ← Tx.select (sessionWithDigest (L.sessionDigest raw))
  let record ← Tx.orRaise (found.filter fun x => now < x.expiresAt) (.http "会话凭证无效或已过期" 401)
  let user ← activeUser record.userId
  return ⟨user.id, none⟩

/-- The rate limit comes behind it, in a session of its own. -/
def requireApiKey (authorization : Authorization) : Service Principal := do
  let raw ← Tx.lift (credentials L authorization)
  let parsed ← Tx.orRaise (parseApiKey raw) (.http "API Key 无效" 401)
  let found ← Tx.select fun d => d.apiKeys.get? (L.text parsed.keyId)
  let record ← Tx.orRaise (found.filter fun k => k.status = .active ∧
    L.keyDigest parsed.secret = k.secretDigest)
    (.http "API Key 无效" 401)
  let user ← activeUser record.userId
  -- `last_used_at`, which is in no column here.
  Tx.commit
  return ⟨user.id, some record.id⟩

end Auth

/-! ## Whom they stand for -/

variable {L : AuthLibrary} {authorization : Authorization} {now : Time} {d : DB} {p : Principal}

theorem activeUser_ok {userId : Id} {s t : Session DB} {user : User} :
    activeUser userId s = (.ok user, t) ↔
    (s.work.users.get? userId = some user ∧ user.status = .active) ∧ t = s := by
  simp only [activeUser, Tx.bind_ok, Tx.select_ok, Tx.orRaise_ok]
  constructor
  · rintro ⟨_, _, ⟨rfl, rfl⟩, hfound, rfl⟩
    obtain ⟨huser, hactive⟩ := Option.filter_eq_some_iff.1 hfound
    exact ⟨⟨huser, of_decide_eq_true hactive⟩, rfl⟩
  · rintro ⟨⟨huser, hactive⟩, rfl⟩
    exact ⟨_, _, ⟨rfl, rfl⟩, Option.filter_eq_some_iff.2 ⟨huser, decide_eq_true hactive⟩, rfl⟩

theorem run_fst_ok {α : Type} {x : Service α} {a : α} : (Tx.run x d).1 = .ok a ↔ ∃ t,
    x (.fresh d) = (.ok a, t) :=
  ⟨fun h => ⟨_, Prod.ext h rfl⟩, fun ⟨t, h⟩ => by rw [Tx.run, h]⟩

/-- A session of the web page, as it is let in. -/
structure LetIn (L : AuthLibrary) (authorization : Authorization) (now : Time) (d : DB)
    (p : Principal) (raw : PyStr)
    (record : AccessSession) (user : User) : Prop where
  header : credentials L authorization = .ok raw
  kind : py "sess_" <+: raw
  found : sessionWithDigest (L.sessionDigest raw) d = some record
  unexpired : now < record.expiresAt
  owner : d.users.get? record.userId = some user
  active : user.status = .active
  principal : p = ⟨user.id, none⟩

theorem requireSession_ok : (Tx.run (requireSession L authorization now) d).1 = .ok p ↔
    ∃ raw record user, LetIn L authorization now d p raw record user := by
  rw [run_fst_ok]
  simp only [requireSession, Tx.bind_ok, Tx.lift_ok, Tx.raiseIf_ok, Tx.select_ok, Tx.orRaise_ok,
    Tx.pure_ok, activeUser_ok, Option.filter_eq_some_iff, decide_eq_true_eq, not_not]
  constructor
  · rintro ⟨t, raw, _, ⟨hraw, rfl⟩, _, _, ⟨hsess, rfl⟩, found, _, ⟨rfl, rfl⟩, record, _,
      ⟨⟨hrecord, hlive⟩, rfl⟩, user, _, ⟨⟨huser, hactive⟩, rfl⟩, hp, -⟩
    exact ⟨raw, record, user, hraw, hsess, hrecord, hlive, huser, hactive, hp⟩
  · rintro ⟨raw, record, user, hraw, hsess, hrecord, hlive, huser, hactive, hp⟩
    exact ⟨_, raw, _, ⟨hraw, rfl⟩, (), _, ⟨hsess, rfl⟩, _, _, ⟨rfl, rfl⟩, record, _,
      ⟨⟨hrecord, hlive⟩, rfl⟩, user, _, ⟨⟨huser, hactive⟩, rfl⟩, hp, rfl⟩

/-- A key of the API, as it is let in. -/
structure Unlocked (L : AuthLibrary) (authorization : Authorization) (d : DB)
    (p : Principal) (raw : PyStr)
    (parsed : ParsedApiKey) (record : ApiKey) (user : User) : Prop where
  header : credentials L authorization = .ok raw
  parses : parseApiKey raw = some parsed
  found : d.apiKeys.get? (L.text parsed.keyId) = some record
  unrevoked : record.status = .active
  digest : L.keyDigest parsed.secret = record.secretDigest
  owner : d.users.get? record.userId = some user
  active : user.status = .active
  principal : p = ⟨user.id, some record.id⟩

theorem requireApiKey_ok : (Tx.run (requireApiKey L authorization) d).1 = .ok p ↔
    ∃ raw parsed record user, Unlocked L authorization d p raw parsed record user := by
  rw [run_fst_ok]
  simp only [requireApiKey, Tx.bind_ok, Tx.lift_ok, Tx.select_ok, Tx.orRaise_ok, Tx.pure_ok,
    Tx.commit_ok, activeUser_ok, Option.filter_eq_some_iff, decide_eq_true_eq]
  constructor
  · rintro ⟨t, raw, _, ⟨hraw, rfl⟩, parsed, _, ⟨hparsed, rfl⟩, found, _, ⟨rfl, rfl⟩, record, _,
      ⟨⟨hrecord, hstatus, hdigest⟩, rfl⟩, user, _, ⟨⟨huser, hactive⟩, rfl⟩, _, _, -, hp, -⟩
    exact ⟨raw, parsed, record, user, hraw, hparsed, hrecord, hstatus, hdigest, huser, hactive, hp⟩
  · rintro ⟨raw, parsed, record, user, hraw, hparsed, hrecord, hstatus, hdigest, huser, hactive, hp⟩
    exact ⟨_, raw, _, ⟨hraw, rfl⟩, parsed, _, ⟨hparsed, rfl⟩, _, _, ⟨rfl, rfl⟩, record, _,
      ⟨⟨hrecord, hstatus, hdigest⟩, rfl⟩, user, _, ⟨⟨huser, hactive⟩, rfl⟩, (), _, ⟨d, rfl, rfl⟩,
      hp, rfl⟩

theorem requireSession_live (h : (Tx.run (requireSession L authorization now) d).1 = .ok p) :
    ∃ x ∈ d.accessSessions.rows, x.userId = p.userId ∧ x.revoked = false := by
  obtain ⟨raw, record, user, hin⟩ := requireSession_ok.1 h
  have hlive := List.find?_some hin.found
  rw [Bool.and_eq_true, Bool.not_eq_true'] at hlive
  refine ⟨record, List.mem_of_find?_eq_some hin.found, ?_, hlive.2⟩
  rw [hin.principal]
  exact (Table.key_of_get? hin.owner).symm

theorem requireApiKey_live (h : (Tx.run (requireApiKey L authorization) d).1 = .ok p) :
    ∃ k ∈ d.apiKeys.rows, k.userId = p.userId ∧ k.status = .active := by
  obtain ⟨raw, parsed, record, user, hin⟩ := requireApiKey_ok.1 h
  refine ⟨record, Table.mem_of_get? hin.found, ?_, hin.unrevoked⟩
  rw [hin.principal]
  exact (Table.key_of_get? hin.owner).symm

end Kunlun
