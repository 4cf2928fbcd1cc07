import Kunlun.Accounting
import Kunlun.Auth

/-!
# What becomes of sessions and keys

Whatever is called afterwards, the row of a session or of a key stays, and stands for the same
user under the same digest.
-/

namespace Kunlun

/-! ## Calls that do not issue -/

section Rules

variable {K : Track DB} {issues : Prop}
  (apart : ∀ d e : DB, e.accessSessions = d.accessSessions → e.apiKeys = d.apiKeys → K.rel d e)

include apart

/-- A relation that says nothing but of sessions and keys is kept with the writes of the two
tables. -/
theorem keepsMoney_of_credentials (accessSession : issues → ∀ x, Kept K (DB.insertAccessSession x))
    (apiKey : issues → ∀ k, Kept K (DB.insertApiKey k))
    (accessSessions : ∀ p, Kept K (DB.flushing
      (DB.updateAccessSessions p (fun x => { x with revoked := true }) DB.id_revokedSession)))
    (apiKeys : ∀ p, Kept K (DB.flushing
      (DB.updateApiKeys p (fun k => { k with status := .revoked }) DB.id_revokedKey))) :
    KeepsMoney K issues := by
  have accounts : KeepsAccounts K issues :=
    { accessSession, apiKey, accessSessions, apiKeys
      emailToken := fun _ => ⟨fun d e h => by obtain ⟨t, rfl⟩ := of_insert_unique h; exact apart _ _ rfl rfl⟩
      resetToken := fun _ => ⟨fun d e h => by obtain ⟨t, rfl⟩ := of_insert_unique h; exact apart _ _ rfl rfl⟩
      users := fun _ _ _ _ => ⟨fun d e h => by obtain rfl := Option.some.inj h; exact apart _ _ rfl rfl⟩
      emailTokens := fun _ _ _ =>
        ⟨fun d e h => by obtain rfl := Option.some.inj h; exact apart _ _ rfl rfl⟩
      resetTokens := fun _ _ _ =>
        ⟨fun d e h => by obtain rfl := Option.some.inj h; exact apart _ _ rfl rfl⟩
      outbox := fun _ => ⟨fun d e h => by obtain rfl := Option.some.inj h; exact apart _ _ rfl rfl⟩
      action := fun _ => ⟨fun d e h => by obtain rfl := Option.some.inj h; exact apart _ _ rfl rfl⟩ }
  refine keepsMoney_of accounts (fun _ _ _ _ _ => apart _ _ rfl rfl) (fun _ => ?_) (fun _ => ?_)
    (fun _ => ?_) (fun _ _ => ?_)
    (fun _ _ _ _ => ?_) fun _ _ _ _ => ?_
  · exact ⟨fun d e h => by obtain ⟨t, rfl⟩ := of_insert_unique h; exact apart _ _ rfl rfl⟩
  · exact ⟨fun d e h => by obtain ⟨t, rfl⟩ := of_insert_unique h; exact apart _ _ rfl rfl⟩
  · exact ⟨fun d e h => by obtain ⟨t, rfl⟩ := of_insert_unique h; exact apart _ _ rfl rfl⟩
  · exact ⟨fun d e h => by obtain ⟨t, rfl⟩ := of_insert_unique h; exact apart _ _ rfl rfl⟩
  · exact ⟨fun d e h => by obtain rfl := of_update_unique h; exact apart _ _ rfl rfl⟩
  · exact ⟨fun d e h => by obtain rfl := of_update_unique h; exact apart _ _ rfl rfl⟩

theorem exec_keeps_credentials (h : KeepsMoney K issues) {op : Op}
    (hissues : op.issues → issues) (d : DB) :
    K.rel d (exec op d) := by
  have users (p f hf) : Kept K (DB.flushing (DB.updateUsers p f hf)) :=
    ⟨fun d e he => by obtain rfl := Option.some.inj he; exact apart _ _ rfl rfl⟩
  have orders (p f hf) : Kept K (DB.flushing (DB.updateOrders p f hf)) :=
    ⟨fun d e he => by obtain rfl := of_update_unique he; exact apart _ _ rfl rfl⟩
  have refunds (p f hf) : Kept K (DB.flushing (DB.updateRefunds p f hf)) :=
    ⟨fun d e he => by obtain rfl := of_update_unique he; exact apart _ _ rfl rfl⟩
  exact exec_keeps_under h hissues (fun _ => ⟨fun _ _ => users .., fun _ => users ..⟩)
    (fun _ => ⟨fun _ => refunds ..⟩)
    (fun _ => ⟨fun _ _ _ _ _ _ => refunds .., fun _ _ => refunds ..⟩)
    (fun _ _ => ⟨fun _ _ => orders .., orders .., fun _ => orders ..⟩) d

theorem after_keeps_credentials (h : KeepsMoney K) (d : DB) (ops : List Op) :
    K.rel d (Run.after exec d ops) :=
  have along : Run.Along exec (fun _ _ => True) d ops := Run.along_of_forall d fun _ _ _ => trivial
  Run.relates K.refl (fun _ _ _ => K.trans)
    (fun d _ _ => exec_keeps_credentials apart h (fun _ => trivial) d) along

end Rules

/-! ## Sessions and keys stay -/

/-- The session is the same one, but for its revocation. -/
def AccessSession.Same (x y : AccessSession) : Prop :=
  y.userId = x.userId ∧ y.tokenDigest = x.tokenDigest ∧ y.expiresAt = x.expiresAt

theorem AccessSession.Same.refl (x : AccessSession) : x.Same x := ⟨rfl, rfl, rfl⟩

theorem AccessSession.Same.trans (x y z : AccessSession) (h : x.Same y)
    (h' : y.Same z) : x.Same z :=
  ⟨h'.1.trans h.1, h'.2.1.trans h.2.1, h'.2.2.trans h.2.2⟩

/-- The key is the same one, but for its revocation. -/
def ApiKey.Same (x y : ApiKey) : Prop := y.userId = x.userId ∧ y.secretDigest = x.secretDigest

theorem ApiKey.Same.refl (x : ApiKey) : x.Same x := ⟨rfl, rfl⟩

theorem ApiKey.Same.trans (x y z : ApiKey) (h : x.Same y) (h' : y.Same z) : x.Same z :=
  ⟨h'.1.trans h.1, h'.2.trans h.2⟩

/-- No two sessions share a digest, which is an index of the schema. -/
def UniqueSessions (d : DB) : Prop := (d.accessSessions.rows.map AccessSession.tokenDigest).Nodup

def sessionStays (sessionId : Id) : Track DB :=
  (Track.row DB.accessSessions sessionId AccessSession.Same .refl .trans).both
    ⟨fun d e => UniqueSessions d → UniqueSessions e, fun _ => id, fun h h' hd => h' (h hd)⟩

def keyStays (keyId : Id) : Track DB := Track.row DB.apiKeys keyId ApiKey.Same .refl .trans

theorem sessionStays_of_eq {sessionId : Id} {d e : DB} (h : e.accessSessions = d.accessSessions) :
    (sessionStays sessionId).rel d e := by
  refine ⟨Track.row_of_eq h, fun hd => ?_⟩
  unfold UniqueSessions
  rwa [h]

theorem after_sessionStays (sessionId : Id) (d : DB) (ops : List Op) :
    (sessionStays sessionId).rel d (Run.after exec d ops) := by
  have apart (d e : DB) (h : e.accessSessions = d.accessSessions) (_ : e.apiKeys = d.apiKeys) :
      (sessionStays sessionId).rel d e := sessionStays_of_eq h
  refine after_keeps_credentials apart
    (keepsMoney_of_credentials apart (fun _ x => ⟨fun d e h => ?_⟩) (fun _ k => ⟨fun d e h => ?_⟩)
    (fun p => ⟨fun d e h => ?_⟩) fun p => ⟨fun d e h => ?_⟩) d ops
  · simp only [DB.insertAccessSession, Option.bind_eq_some_iff, Option.ite_none_right_eq_some,
      Option.some.injEq] at h
    obtain ⟨t, ht, hunique, rfl⟩ := h
    refine ⟨Track.row_of_insert ht, fun _ => ?_⟩
    have hnodup := of_decide_eq_true hunique
    rwa [List.filterMap_eq_map'] at hnodup
  · obtain ⟨t, rfl⟩ := of_insert h
    exact sessionStays_of_eq rfl
  · obtain rfl := Option.some.inj h
    refine ⟨Track.row_of_update DB.id_revokedSession rfl fun _ _ _ => ⟨rfl, rfl, rfl⟩, fun hd => ?_⟩
    unfold UniqueSessions
    rw [Table.map_update _ _ _ DB.id_revokedSession AccessSession.tokenDigest fun _ _ _ => rfl]
    exact hd
  · obtain rfl := Option.some.inj h
    exact sessionStays_of_eq rfl

theorem after_keyStays (keyId : Id) (d : DB) (ops : List Op) :
    (keyStays keyId).rel d (Run.after exec d ops) := by
  have apart (d e : DB) (_ : e.accessSessions = d.accessSessions) (h : e.apiKeys = d.apiKeys) :
      (keyStays keyId).rel d e :=
    Track.row_of_eq h
  refine after_keeps_credentials apart
    (keepsMoney_of_credentials apart (fun _ x => ⟨fun d e h => ?_⟩)
    (fun _ k => ⟨fun d e h => ?_⟩) (fun p => ⟨fun d e h => ?_⟩) fun p => ⟨fun d e h => ?_⟩) d ops
  · obtain ⟨t, rfl⟩ := of_insert_unique h
    exact Track.row_of_eq rfl
  · obtain ⟨t, ht, rfl⟩ := Option.map_eq_some_iff.1 h
    exact Track.row_of_insert ht
  · obtain rfl := Option.some.inj h
    exact Track.row_of_eq rfl
  · obtain rfl := Option.some.inj h
    exact Track.row_of_update DB.id_revokedKey rfl fun _ _ _ => ⟨rfl, rfl⟩

/-! ## What is issued -/

theorem issueSession_issues {a : LoginArgs} {user : User} {d d' : DB}
    (h : Tx.run (issueSession a user) d = (.ok (), d')) :
    d'.accessSessions.get? a.sessionId = some (newSession a user) ∧ UniqueSessions d' := by
  obtain ⟨t, hrun, rfl⟩ := (Tx.run_ok ..).1 h
  simp only [issueSession, Tx.bind_ok, Tx.add_ok, Tx.commit_ok] at hrun
  obtain ⟨_, _, rfl, e, hinsert, rfl⟩ := hrun
  simp only [Session.fresh, List.nil_append, Tx.applyAll_cons, Tx.applyAll_nil, Option.some.injEq,
    exists_eq_right, DB.insertAccessSession, Option.bind_eq_some_iff,
    Option.ite_none_right_eq_some] at hinsert
  obtain ⟨sessions, ht, hunique, rfl⟩ := hinsert
  have hnodup := of_decide_eq_true hunique
  rw [List.filterMap_eq_map'] at hnodup
  exact ⟨(Table.get?_insert ht _).trans (if_pos rfl), hnodup⟩

theorem createKey_issues {a : KeyArgs} {d d' : DB} (h : Tx.run (createKey a) d = (.ok (), d')) :
    d'.apiKeys.get? a.keyId = some ⟨a.keyId, a.userId, a.name, a.secretDigest, a.lastFour,
      .active⟩ := by
  obtain ⟨t, hrun, rfl⟩ := (Tx.run_ok ..).1 h
  simp only [createKey, Tx.bind_ok, Tx.tryExcept_ok, Tx.raise_ok, and_false, exists_false,
    or_false, Tx.add_ok, Tx.commit_ok] at hrun
  obtain ⟨_, s, hlimit, _, _, rfl, e, hinsert, rfl⟩ := hrun
  have hs : s = .fresh d := by
    simp only [enforceKeyLimit, Tx.bind_ok, Tx.raiseIf_ok, Tx.select_ok] at hlimit
    obtain ⟨_, _, ⟨-, rfl⟩, _, _, ⟨-, rfl⟩, _, _, ⟨-, rfl⟩, _, _, ⟨-, rfl⟩, -, rfl⟩ := hlimit
    rfl
  rw [hs] at hinsert
  simp only [Session.fresh, List.nil_append, Tx.applyAll_cons, Tx.applyAll_nil, Option.some.injEq,
    exists_eq_right, DB.insertApiKey, Option.map_eq_some_iff] at hinsert
  obtain ⟨keys, ht, rfl⟩ := hinsert
  exact (Table.get?_insert ht _).trans (if_pos rfl)

/-! ## What lets its user in -/

section Issued

variable {L : AuthLibrary} {authorization : Authorization} {raw : PyStr} {d d' : DB}

/-- The account is active. -/
def ActiveAccount (userId : Id) (d : DB) : Prop :=
  ∃ u, d.users.get? userId = some u ∧ u.status = .active

theorem sessionWithDigest_eq (hunique : UniqueSessions d) {digest : String} {x : AccessSession} :
    sessionWithDigest digest d = some x ↔ x ∈ d.accessSessions.rows ∧
    x.tokenDigest = digest ∧ x.revoked = false := by
  unfold sessionWithDigest
  constructor
  · intro h
    have hlive := List.find?_some h
    rw [Bool.and_eq_true, decide_eq_true_eq, Bool.not_eq_true'] at hlive
    exact ⟨List.mem_of_find?_eq_some h, hlive⟩
  · rintro ⟨hx, hdigest, hlive⟩
    have hsome : (d.accessSessions.rows.find? fun x => decide (x.tokenDigest = digest)
      && !x.revoked).isSome := by
      rw [List.find?_isSome]
      exact ⟨x, hx, by simp [hdigest, hlive]⟩
    obtain ⟨y, hy⟩ := Option.isSome_iff_exists.1 hsome
    have hsame := List.find?_some hy
    rw [Bool.and_eq_true, decide_eq_true_eq] at hsame
    rw [hy, List.inj_on_of_nodup_map hunique (List.mem_of_find?_eq_some hy) hx
      (hsame.1.trans hdigest.symm)]

/-- A token that a login has given out lets the user in, whatever was called since the password
was verified and whatever is called afterwards, exactly until it expires or is revoked, while the
account is active; its row stays, and no other session has its digest. -/
theorem issued_session_admits {a : LoginArgs} {user : User}
    (hissue : Tx.run (issueSession a user) d = (.ok (), d'))
    (hheader : credentials L authorization = .ok raw) (hkind : py "sess_" <+: raw)
    (hdigest : L.sessionDigest raw = a.digest) (ops : List Op) (now : Time) :
    ((Tx.run (requireSession L authorization now) (Run.after exec d' ops)).1 = .ok ⟨user.id, none⟩ ↔
      now < a.now + sessionLifetime ∧ ActiveAccount user.id (Run.after exec d' ops) ∧
        ∃ x, (Run.after exec d' ops).accessSessions.get? a.sessionId = some x ∧ x.revoked = false) ∧
    ∃ x, (Run.after exec d' ops).accessSessions.get? a.sessionId = some x ∧ x.userId = user.id ∧
      x.tokenDigest = a.digest ∧ x.expiresAt = a.now + sessionLifetime ∧
      ∀ y ∈ (Run.after exec d' ops).accessSessions.rows, y.tokenDigest = a.digest → y = x := by
  obtain ⟨hrow, hunique⟩ := issueSession_issues hissue
  obtain ⟨hstays, hdigests⟩ := after_sessionStays a.sessionId d' ops
  obtain ⟨x, hx, howner, hsame, hexpires⟩ := hstays _ hrow
  have hfind := @sessionWithDigest_eq _ (hdigests hunique) (L.sessionDigest raw) x
  have hmem := Table.mem_of_get? hx
  have honly (y : AccessSession) (hy : y ∈ (Run.after exec d' ops).accessSessions.rows)
      (hshared : y.tokenDigest = a.digest) : y = x :=
    List.inj_on_of_nodup_map (hdigests hunique) hy hmem (hshared.trans hsame.symm)
  refine ⟨?_, x, hx, howner, hsame, hexpires, honly⟩
  rw [requireSession_ok]
  constructor
  · rintro ⟨raw', record, u, hin⟩
    obtain rfl := Except.ok.inj (hheader.symm.trans hin.header)
    have hrecord := (sessionWithDigest_eq (hdigests hunique)).1 hin.found
    obtain rfl := honly record hrecord.1 (hrecord.2.1.trans hdigest)
    refine ⟨?_, ⟨u, ?_, hin.active⟩, record, hx, hrecord.2.2⟩
    · rw [← show record.expiresAt = a.now + sessionLifetime from hexpires]
      exact hin.unexpired
    · rw [← show record.userId = user.id from howner]
      exact hin.owner
  · rintro ⟨hlive, ⟨u, hu, hactive⟩, y, hy, hrevoked⟩
    obtain rfl := Option.some.inj (hx.symm.trans hy)
    refine ⟨raw, x, u, hheader, hkind, hfind.2 ⟨hmem, hsame.trans hdigest.symm, hrevoked⟩,
      ?_, ?_, hactive, ?_⟩
    · rw [show x.expiresAt = a.now + sessionLifetime from hexpires]
      exact hlive
    · rw [show x.userId = user.id from howner]
      exact hu
    · rw [Table.key_of_get? hu]

/-- So does a key of the API that `create_key` has given out, as far as it can be parsed, until it
is revoked. -/
theorem issued_key_admits {a : KeyArgs} (hcreate : Tx.run (createKey a) d = (.ok (), d'))
    (hheader : credentials L authorization = .ok raw) {parsed : ParsedApiKey}
    (hparse : parseApiKey raw = some parsed)
    (hid : L.text parsed.keyId = a.keyId)
    (hdigest : L.keyDigest parsed.secret = a.secretDigest) (ops : List Op) :
    (Tx.run (requireApiKey L authorization) (Run.after exec d' ops)).1 =
      .ok ⟨a.userId, some a.keyId⟩ ↔
      ActiveAccount a.userId (Run.after exec d' ops) ∧
        ∃ k, (Run.after exec d' ops).apiKeys.get? a.keyId = some k ∧ k.status = .active := by
  obtain ⟨k, hk, howner, hsame⟩ := after_keyStays a.keyId d' ops _ (createKey_issues hcreate)
  rw [requireApiKey_ok]
  constructor
  · rintro ⟨raw', parsed', record, u, hin⟩
    obtain rfl := Except.ok.inj (hheader.symm.trans hin.header)
    obtain rfl := Option.some.inj (hparse.symm.trans hin.parses)
    have hread := hin.found
    rw [hid] at hread
    obtain rfl := Option.some.inj (hk.symm.trans hread)
    refine ⟨⟨u, ?_, hin.active⟩, k, hk, hin.unrevoked⟩
    rw [← show k.userId = a.userId from howner]
    exact hin.owner
  · rintro ⟨⟨u, hu, hactive⟩, k', hk', hstatus⟩
    obtain rfl := Option.some.inj (hk.symm.trans hk')
    refine ⟨raw, parsed, k, u, hheader, hparse, by rw [hid]; exact hk, hstatus,
      hdigest.trans hsame.symm, ?_, hactive, ?_⟩
    · rw [show k.userId = a.userId from howner]
      exact hu
    · rw [Table.key_of_get? hu, Table.key_of_get? hk]

end Issued

/-! ## One user -/

/-- The text of code points that are characters. -/
def textOf (s : PyStr) : String := String.ofList (s.map Char.ofNat)

/-- Headers are ASCII, and a digest says what it is of. -/
def taggedDigests : AuthLibrary where
  casefold s := s.map fun c => if 65 ≤ c ∧ c ≤ 90 then c + 32 else c
  sessionDigest raw := "session:" ++ textOf raw
  keyDigest secret := "key:" ++ textOf secret
  text := textOf

def sessionHeader : Authorization := some (py "Bearer", py "sess_token")

def keySecret : PyStr := List.replicate 32 48

def keyHeader : Authorization := some (py "Bearer", py "gw_abcd." ++ keySecret)

def firstLogin : LoginArgs :=
  ⟨"u@example.com", fun _ => true, true, "session", "session:sess_token", 2⟩

def firstUser : User := ⟨"u", "u@example.com", "", .active, some 0⟩

def firstKey : KeyArgs := ⟨"u", "key", 5, "abcd", "key:" ++ textOf keySecret, "0000"⟩

/-- The password was verified before the user was signed out everywhere. -/
theorem issued_session_admitted : authenticate firstLogin shop = some firstUser ∧
    (Tx.run (requireSession taggedDigests sessionHeader 3)
      (Run.after exec (Tx.run (issueSession firstLogin firstUser) (exec (.logoutAll "u") shop)).2
        [.revokeKey "u" "k"])).1 = .ok ⟨"u", none⟩ := by
  have hissue : Tx.run (issueSession firstLogin firstUser)
      (exec (.logoutAll "u") shop) = (.ok (), _) :=
    Prod.ext (by decide +kernel) rfl
  have hheader : credentials taggedDigests sessionHeader =
      .ok (py "sess_token") := by decide +kernel
  have hdigest : taggedDigests.sessionDigest (py "sess_token") =
      firstLogin.digest := by decide +kernel
  refine ⟨by decide +kernel,
    (issued_session_admits hissue hheader (by decide +kernel) hdigest [.revokeKey "u" "k"] 3).1.2
      ?_⟩
  refine ⟨by decide, ⟨firstUser, ?_, rfl⟩,
    ⟨"session", "u", "session:sess_token", 2 + sessionLifetime, false⟩, ?_, rfl⟩
  · decide +kernel
  · decide +kernel

theorem issued_key_admitted : (Tx.run (requireApiKey taggedDigests keyHeader)
    (Run.after exec (Tx.run (createKey firstKey) shop).2 [.revokeKey "u" "k"])).1 =
      .ok ⟨"u", some "abcd"⟩ := by
  have hcreate : Tx.run (createKey firstKey) shop = (.ok (), _) := Prod.ext (by decide +kernel) rfl
  have hheader : credentials taggedDigests keyHeader =
      .ok (py "gw_abcd." ++ keySecret) := by decide +kernel
  have hparse : parseApiKey (py "gw_abcd." ++ keySecret) =
      some ⟨py "abcd", keySecret⟩ := by decide +kernel
  have hid : taggedDigests.text (py "abcd") = firstKey.keyId := by decide +kernel
  refine (issued_key_admits hcreate hheader hparse hid rfl [.revokeKey "u" "k"]).2
    ⟨⟨firstUser, ?_, rfl⟩, ⟨"abcd", "u", "key", "key:" ++ textOf keySecret, "0000", .active⟩, ?_,
      rfl⟩
  · decide +kernel
  · decide +kernel

end Kunlun
