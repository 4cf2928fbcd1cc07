import Kunlun.Rotations

/-!
# Credentials behind a rotation

The insert of a session or a key waits for the lock a rotation holds on the user, so a rotation is
one step. What lets the user in behind it was issued to a request that was authenticated behind it,
unless a request that was underway has inserted it.
-/

namespace Kunlun.Rotations

open Tokens

/-! ## What brings credentials about -/

/-- What is live was live before, or is one of the new sessions and keys. -/
def credentialsFrom (sessions : List AccessSession) (keys : List ApiKey) : Track DB where
  rel d e :=
    (∀ x ∈ e.accessSessions.rows, x.revoked = false →
      x ∈ d.accessSessions.rows ∨ x ∈ sessions) ∧
    ∀ k ∈ e.apiKeys.rows, k.status = .active → k ∈ d.apiKeys.rows ∨ k ∈ keys
  refl _ := ⟨fun _ hx _ => .inl hx, fun _ hk _ => .inl hk⟩
  trans h h' := ⟨fun x hx hlive => (h'.1 x hx hlive).elim (h.1 x · hlive) .inr,
    fun k hk hlive => (h'.2 k hk hlive).elim (h.2 k · hlive) .inr⟩

section From

variable {sessions : List AccessSession} {keys : List ApiKey}

theorem credentialsFrom_of_eq (d e : DB) (hs : e.accessSessions = d.accessSessions)
    (hk : e.apiKeys = d.apiKeys) : (credentialsFrom sessions keys).rel d e :=
  ⟨fun _ hx _ => .inl (hs ▸ hx), fun _ hx _ => .inl (hk ▸ hx)⟩

theorem insertAccessSession_from {x : AccessSession} (h : x ∈ sessions) :
    Kept (credentialsFrom sessions keys) (DB.insertAccessSession x) := by
  refine ⟨fun d e he => ?_⟩
  simp only [DB.insertAccessSession, Option.bind_eq_some_iff, Option.ite_none_right_eq_some,
    Option.some.injEq] at he
  obtain ⟨t, ht, -, rfl⟩ := he
  refine ⟨fun y hy _ => ?_, fun _ hk _ => .inl hk⟩
  rcases (Table.mem_insert ht).1 hy with hy | rfl
  · exact .inl hy
  · exact .inr h

theorem insertApiKey_from {k : ApiKey} (h : k ∈ keys) :
    Kept (credentialsFrom sessions keys) (DB.insertApiKey k) := by
  refine ⟨fun d e he => ?_⟩
  obtain ⟨t, ht, rfl⟩ := Option.map_eq_some_iff.1 he
  refine ⟨fun _ hx _ => .inl hx, fun y hy _ => ?_⟩
  rcases (Table.mem_insert ht).1 hy with hy | rfl
  · exact .inl hy
  · exact .inr h

theorem exec_from {op : Op} (h : op.issues = false) (d : DB) :
    (credentialsFrom [] []).rel d (exec op d) := by
  have keeps : KeepsMoney (credentialsFrom [] []) False := by
    refine keepsMoney_of_credentials credentialsFrom_of_eq False.elim False.elim
      (fun p => ⟨fun d e he => ?_⟩) fun p => ⟨fun d e he => ?_⟩
    · obtain rfl := Option.some.inj he
      refine ⟨fun x hx hlive => ?_, fun _ hk _ => .inl hk⟩
      rw [Table.mem_update] at hx
      obtain ⟨y, hy, rfl⟩ := hx
      split at hlive
      · cases hlive
      · rwa [if_neg ‹_›, or_iff_left List.not_mem_nil]
    · obtain rfl := Option.some.inj he
      refine ⟨fun _ hx _ => .inl hx, fun k hk hlive => ?_⟩
      rw [Table.mem_update] at hk
      obtain ⟨y, hy, rfl⟩ := hk
      split at hlive
      · cases hlive
      · rwa [if_neg ‹_›, or_iff_left List.not_mem_nil]
  refine exec_keeps_credentials credentialsFrom_of_eq keeps (fun hissues => ?_) d
  rw [h] at hissues
  cases hissues

theorem issueSession_from (a : LoginArgs) (user : User) :
    Keeps (credentialsFrom [newSession a user] []) (issueSession a user) :=
  Tx.keeps_bind (Tx.keeps_add (insertAccessSession_from (.head _))) fun _ => by simp

theorem createKey_from (a : KeyArgs) :
    Keeps (credentialsFrom [] [⟨a.keyId, a.userId, a.name, a.secretDigest, a.lastFour, .active⟩])
      (createKey a) := by
  refine Tx.keeps_bind (Tx.keeps_tryExcept (KeepsAccounts.enforceKeyLimit ..) fun _ => by simp)
    fun _ => ?_
  exact Tx.keeps_bind (Tx.keeps_add (insertApiKey_from (.head _))) fun _ => by simp

end From

/-! ## Requests that were authenticated in the run -/

section Traced

variable (L : AuthLibrary) (s : Desk) (acts : List Act)

/-- The password was verified in the run. -/
def Verified (x : LoginArgs × User) : Prop :=
  ∃ before after, acts = before ++ .verifyPassword x.1 :: after ∧
    authenticate x.1 (Run.after (Act.step L) s before).db = some x.2

/-- The request for a key was let in, in the run. -/
def Entered (a : KeyArgs) : Prop :=
  ∃ before after authorization now b p, acts = before ++ .enter authorization now b :: after ∧
    (Tx.run (requireSession L authorization now) (Run.after (Act.step L) s before).db).1 = .ok p ∧
    a = { b with userId := p.userId }

/-- The session was issued in the run, to a login whose password had been verified in it. -/
def SessionIssued (x : AccessSession) : Prop :=
  ∃ before i after a, acts = before ++ .issueSession i :: after ∧
    (Run.after (Act.step L) s before).logins[i]? = some a ∧ Verified L s before a ∧
    x = newSession a.1 a.2

/-- The key was created in the run, for a request that had been let in, in it. -/
def KeyIssued (k : ApiKey) : Prop :=
  ∃ before i after a, acts = before ++ .createKey i :: after ∧
    (Run.after (Act.step L) s before).keys[i]? = some a ∧ Entered L s before a ∧
    k = ⟨a.keyId, a.userId, a.name, a.secretDigest, a.lastFour, .active⟩

/-- What is underway for the user was so in the beginning or is of the run, and whatever lets them
in is of the run. -/
structure Traced (userId : Id) (t : Desk) : Prop where
  logins : ∀ x ∈ t.logins, x.2.id = userId → x ∈ s.logins ∨ Verified L s acts x
  keys : ∀ a ∈ t.keys, a.userId = userId → a ∈ s.keys ∨ Entered L s acts a
  sessions : ∀ x ∈ t.db.accessSessions.rows, x.userId = userId → x.revoked = false →
    SessionIssued L s acts x
  apiKeys : ∀ k ∈ t.db.apiKeys.rows, k.userId = userId → k.status = .active → KeyIssued L s acts k

end Traced

/-- Logins and requests for keys come in two parts, and none that was underway for the user in `s`
comes to its second. -/
def Act.Timely (userId : Id) (s : Desk) : Act → Desk → Prop
  | .call op, _ => op.issues = false
  | .issueSession i, t => ∀ x ∈ t.logins[i]?, x.2.id = userId → x ∉ s.logins
  | .createKey i, t => ∀ a ∈ t.keys[i]?, a.userId = userId → a ∉ s.keys
  | _, _ => True

section Run

variable {L : AuthLibrary} {s : Desk} {acts : List Act} {userId : Id}

theorem Verified.more {x : LoginArgs × User} (h : Verified L s acts x) (act : Act) :
    Verified L s (acts ++ [act]) x := by
  obtain ⟨before, after, rfl, hread⟩ := h
  exact ⟨before, after ++ [act], by simp, hread⟩

theorem Entered.more {a : KeyArgs} (h : Entered L s acts a) (act : Act) :
    Entered L s (acts ++ [act]) a := by
  obtain ⟨before, after, authorization, now, b, p, rfl, hread⟩ := h
  exact ⟨before, after ++ [act], authorization, now, b, p, by simp, hread⟩

theorem SessionIssued.more {x : AccessSession} (h : SessionIssued L s acts x) (act : Act) :
    SessionIssued L s (acts ++ [act]) x := by
  obtain ⟨before, i, after, a, rfl, hread⟩ := h
  exact ⟨before, i, after ++ [act], a, by simp, hread⟩

theorem KeyIssued.more {k : ApiKey} (h : KeyIssued L s acts k) (act : Act) :
    KeyIssued L s (acts ++ [act]) k := by
  obtain ⟨before, i, after, a, rfl, hread⟩ := h
  exact ⟨before, i, after ++ [act], a, by simp, hread⟩

theorem Traced.more {t : Desk} (h : Traced L s acts userId t) (act : Act) :
    Traced L s (acts ++ [act]) userId t where
  logins x hx howner := (h.logins x hx howner).imp_right (·.more act)
  keys a ha howner := (h.keys a ha howner).imp_right (·.more act)
  sessions x hx howner hlive := (h.sessions x hx howner hlive).more act
  apiKeys k hk howner hlive := (h.apiKeys k hk howner hlive).more act

/-- By what the act may bring about. -/
theorem Traced.write {t : Desk} {sessions : List AccessSession} {keys : List ApiKey} {e : DB}
    (h : Traced L s acts userId t) (hfrom : (credentialsFrom sessions keys).rel t.db e)
    (hsessions : ∀ x ∈ sessions, x.userId = userId → SessionIssued L s acts x)
    (hkeys : ∀ k ∈ keys, k.userId = userId → KeyIssued L s acts k) :
    Traced L s acts userId { t with db := e } where
  logins := h.logins
  keys := h.keys
  sessions x hx howner hlive := (hfrom.1 x hx hlive).elim (h.sessions x · howner hlive)
    (hsessions x · howner)
  apiKeys k hk howner hlive := (hfrom.2 k hk hlive).elim (h.apiKeys k · howner hlive)
    (hkeys k · howner)

theorem Traced.step {act : Act}
    (hact : act.Timely userId s (Run.after (Act.step L) s acts))
    (h : Traced L s acts userId (Run.after (Act.step L) s acts)) :
    Traced L s (acts ++ [act]) userId (act.step L (Run.after (Act.step L) s acts)) := by
  have hmore := h.more act
  cases act with
  | call op => exact hmore.write (exec_from hact _) (by simp) (by simp)
  | verifyPassword a =>
    cases hread : authenticate a (Run.after (Act.step L) s acts).db with
    | none =>
      simp only [Act.step, hread]
      exact hmore
    | some user =>
      simp only [Act.step, hread]
      refine { hmore with logins := fun x hx howner => ?_ }
      rcases List.mem_append.1 hx with hx | hx
      · exact hmore.logins x hx howner
      · rw [List.mem_singleton.1 hx]
        exact .inr ⟨acts, [], rfl, hread⟩
  | issueSession i =>
    cases hget : (Run.after (Act.step L) s acts).logins[i]? with
    | none =>
      simp only [Act.step, hget]
      exact hmore
    | some x =>
      simp only [Act.step, hget]
      have hwrite := hmore.write ((issueSession_from x.1 x.2).run _) (fun y hy howner => ?_)
        (by simp)
      · exact { hwrite with
          logins := fun y hy => hmore.logins y (List.mem_of_mem_eraseIdx hy) }
      · obtain rfl := List.mem_singleton.1 hy
        have hverified := (h.logins x (List.mem_of_getElem? hget) howner).resolve_left
          (hact x hget howner)
        exact ⟨acts, i, [], x, rfl, hget, hverified, rfl⟩
  | enter authorization now a =>
    cases hrun : (Tx.run (requireSession L authorization now)
      (Run.after (Act.step L) s acts).db).1 with
    | error e =>
      simp only [Act.step, hrun]
      exact hmore
    | ok p =>
      simp only [Act.step, hrun]
      refine { hmore with keys := fun x hx howner => ?_ }
      rcases List.mem_append.1 hx with hx | hx
      · exact hmore.keys x hx howner
      · rw [List.mem_singleton.1 hx]
        exact .inr ⟨acts, [], authorization, now, a, p, rfl, hrun, rfl⟩
  | createKey i =>
    cases hget : (Run.after (Act.step L) s acts).keys[i]? with
    | none =>
      simp only [Act.step, hget]
      exact hmore
    | some a =>
      simp only [Act.step, hget]
      have hwrite := hmore.write ((createKey_from a).run _) (by simp) (fun k hk howner => ?_)
      · exact { hwrite with
          keys := fun y hy => hmore.keys y (List.mem_of_mem_eraseIdx hy) }
      · obtain rfl := List.mem_singleton.1 hk
        have hentered := (h.keys a (List.mem_of_getElem? hget) howner).resolve_left
          (hact a hget howner)
        exact ⟨acts, i, [], a, rfl, hget, hentered, rfl⟩

theorem Traced.run (hs : Traced L s [] userId s)
    (hacts : Run.Along (Act.step L) (Act.Timely userId s) s acts) :
    Traced L s acts userId (Run.after (Act.step L) s acts) := by
  induction acts using List.reverseRecOn with
  | nil => exact hs
  | append_singleton acts act ih =>
    rw [Run.along_append] at hacts
    rw [Run.after_append]
    exact (ih hacts.1).step hacts.2.1

theorem traced_of_dead (h : Dead userId s.db) : Traced L s [] userId s where
  logins _ hx _ := .inl hx
  keys _ ha _ := .inl ha
  sessions x hx howner hlive := by
    rw [h.sessions x hx howner] at hlive
    cases hlive
  apiKeys k hk howner hlive := by
    rw [h.keys k hk howner] at hlive
    cases hlive

/-- Behind a rotation a session or a key that lets the user in was issued to a request that was
authenticated behind it, where none that was underway has inserted one. -/
theorem admitted_since {op : Op} (hrotates : Rotates userId s.db op)
    (hacts : Run.Along (Act.step L) (Act.Timely userId (Act.step L (.call op) s))
      (Act.step L (.call op) s) acts)
    (authorization : Authorization) (now : Time) (p : Principal) (howner : p.userId = userId) :
    let start := Act.step L (.call op) s
    let d := (Run.after (Act.step L) start acts).db
    ((Tx.run (requireSession L authorization now) d).1 = .ok p →
      ∃ raw x user, LetIn L authorization now d p raw x user ∧ SessionIssued L start acts x) ∧
    ((Tx.run (requireApiKey L authorization) d).1 = .ok p →
      ∃ raw parsed k user, Unlocked L authorization d p raw parsed k user ∧
        KeyIssued L start acts k) := by
  intro start d
  have hdead : Dead userId start.db := hrotates.dead
  have htraced : Traced L start acts userId (Run.after (Act.step L) start acts) :=
    (traced_of_dead hdead).run hacts
  constructor
  · intro h
    obtain ⟨raw, x, user, hin⟩ := requireSession_ok.1 h
    have hlive := List.find?_some hin.found
    rw [Bool.and_eq_true, Bool.not_eq_true'] at hlive
    refine ⟨raw, x, user, hin, htraced.sessions x (List.mem_of_find?_eq_some hin.found) ?_ hlive.2⟩
    rw [← howner, hin.principal]
    exact (Table.key_of_get? hin.owner).symm
  · intro h
    obtain ⟨raw, parsed, k, user, hin⟩ := requireApiKey_ok.1 h
    refine ⟨raw, parsed, k, user, hin,
      htraced.apiKeys k (Table.mem_of_get? hin.found) ?_ hin.unrevoked⟩
    rw [← howner, hin.principal]
    exact (Table.key_of_get? hin.owner).symm

end Run

/-! ## A login across a reset -/

/-- With the password from before the reset, and with the one it sets. -/
def oldLogin : LoginArgs :=
  ⟨"u@example.com", (· = ""), true, "old", "session:sess_old", 0⟩

def newLogin : LoginArgs :=
  ⟨"u@example.com", (· = "hash"), true, "new", "session:sess_new", 2⟩

/-- The old password has been verified. -/
def halfway : Desk := ⟨forgetful, [(oldLogin, firstUser)], []⟩

def oldHeader : Authorization := some (py "Bearer", py "sess_old")

def newHeader : Authorization := some (py "Bearer", py "sess_new")

theorem old_login_survives :
    Act.step taggedDigests (.verifyPassword oldLogin) ⟨forgetful, [], []⟩ = halfway ∧
    Rotates "u" halfway.db newPassword ∧
    (Tx.run (requireSession taggedDigests oldHeader 3)
      (Run.after (Act.step taggedDigests) (Act.step taggedDigests (.call newPassword) halfway)
        [.issueSession 0]).db).1 = .ok ⟨"u", none⟩ ∧
    ∀ x, ¬ SessionIssued taggedDigests (Act.step taggedDigests (.call newPassword) halfway)
      [.issueSession 0] x := by
  refine ⟨?_, reset_rotates, ?_, ?_⟩
  · have hread : authenticate oldLogin forgetful = some firstUser := by decide +kernel
    simp only [Act.step, hread]
    rfl
  · have hheader : credentials taggedDigests oldHeader = .ok (py "sess_old") := by decide +kernel
    exact requireSession_ok.2 ⟨py "sess_old",
      ⟨"old", "u", "session:sess_old", sessionLifetime, false⟩,
      { firstUser with passwordHash := "hash" }, hheader, by decide +kernel, by decide +kernel,
      by decide, by decide +kernel, rfl, rfl⟩
  · rintro x ⟨before, i, after, a, hacts, -, ⟨before', after', hbefore, -⟩, -⟩
    cases before with
    | nil => simp at hbefore
    | cons act before => simp at hacts

/-- The old login is still halfway when the new one lets the user in. -/
theorem new_login_since :
    let start := Act.step taggedDigests (.call newPassword) halfway
    let acts : List Act := [.verifyPassword newLogin, .issueSession 1]
    ∃ raw x user, LetIn taggedDigests newHeader 3 (Run.after (Act.step taggedDigests) start acts).db
      ⟨"u", none⟩ raw x user ∧ SessionIssued taggedDigests start acts x := by
  intro start acts
  have hread : authenticate newLogin start.db = some { firstUser with passwordHash := "hash" } := by
    decide +kernel
  have hacts : Run.Along (Act.step taggedDigests) (Act.Timely "u" start) start acts := by
    refine ⟨trivial, fun x hx _ hold => ?_, trivial⟩
    simp only [Act.step, hread] at hx
    obtain rfl := Option.mem_some.1 hx
    have hid := congrArg (·.1.sessionId) (List.mem_singleton.1 hold)
    exact absurd hid (by decide)
  refine (admitted_since reset_rotates hacts newHeader 3 ⟨"u", none⟩ rfl).1 ?_
  have hheader : credentials taggedDigests newHeader = .ok (py "sess_new") := by decide +kernel
  exact requireSession_ok.2 ⟨py "sess_new",
    ⟨"new", "u", "session:sess_new", 2 + sessionLifetime, false⟩,
    { firstUser with passwordHash := "hash" }, hheader, by decide +kernel, by decide +kernel,
    by decide, by decide +kernel, rfl, rfl⟩

end Kunlun.Rotations
