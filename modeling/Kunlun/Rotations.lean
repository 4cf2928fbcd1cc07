import Kunlun.Accounting
import Kunlun.Credentials
import Kunlun.Tokens.Alone

/-!
# Rotations of credentials

Login reads the account and verifies the password before it inserts the session, and `create_key` is
let in before it inserts the key. Other calls come in between.
-/

namespace Kunlun.Rotations

open Tokens

/-- The tables, the logins whose password has been verified, and the requests for a key that have
been let in. -/
structure Desk where
  db : DB
  logins : List (LoginArgs × User)
  keys : List KeyArgs

inductive Act where
  /-- A call that does not come in two parts. -/
  | call (op : Op)
  | verifyPassword (a : LoginArgs)
  | issueSession (i : Nat)
  | enter (authorization : Authorization) (now : Time) (a : KeyArgs)
  | createKey (i : Nat)

def Act.step (L : AuthLibrary) : Act → Desk → Desk
  | .call op, s => { s with db := exec op s.db }
  | .verifyPassword a, s =>
    match authenticate a s.db with
    | some user => { s with logins := s.logins ++ [(a, user)] }
    | none => s
  | .issueSession i, s =>
    match s.logins[i]? with
    | some (a, user) =>
      { s with db := (Tx.run (Kunlun.issueSession a user) s.db).2, logins := s.logins.eraseIdx i }
    | none => s
  | .enter authorization now a, s =>
    match (Tx.run (requireSession L authorization now) s.db).1 with
    | .ok principal => { s with keys := s.keys ++ [{ a with userId := principal.userId }] }
    | .error _ => s
  | .createKey i, s =>
    match s.keys[i]? with
    | some a => { s with db := (Tx.run (Kunlun.createKey a) s.db).2, keys := s.keys.eraseIdx i }
    | none => s

/-- Nothing is underway for the user. -/
structure Desk.Quiet (userId : Id) (s : Desk) : Prop where
  logins : ∀ x ∈ s.logins, x.2.id ≠ userId
  keys : ∀ a ∈ s.keys, a.userId ≠ userId

/-- No password of the user is verified. -/
def Act.Without (userId : Id) : Act → Desk → Prop
  | .call op, _ => op.issues = false
  | .verifyPassword a, s => ∀ user ∈ authenticate a s.db, user.id ≠ userId
  | _, _ => True

/-! ## Dead credentials stay dead -/

variable {L : AuthLibrary} {userId : Id}

def staysDead (userId : Id) : Track DB where
  rel d e := Dead userId d → Dead userId e
  refl _ := id
  trans h h' hd := h' (h hd)

theorem insertAccessSession_staysDead {x : AccessSession} (h : x.userId ≠ userId) :
    Kept (staysDead userId) (DB.insertAccessSession x) := by
  refine ⟨fun d e he hd => ?_⟩
  simp only [DB.insertAccessSession, Option.bind_eq_some_iff, Option.ite_none_right_eq_some,
    Option.some.injEq] at he
  obtain ⟨t, ht, -, rfl⟩ := he
  refine ⟨fun y hy howner => ?_, hd.keys⟩
  rcases (Table.mem_insert ht).1 hy with hy | rfl
  · exact hd.sessions y hy howner
  · exact absurd howner h

theorem insertApiKey_staysDead {k : ApiKey} (h : k.userId ≠ userId) : Kept (staysDead userId)
    (DB.insertApiKey k) := by
  refine ⟨fun d e he hd => ?_⟩
  obtain ⟨t, ht, rfl⟩ := Option.map_eq_some_iff.1 he
  refine ⟨hd.sessions, fun y hy howner => ?_⟩
  rcases (Table.mem_insert ht).1 hy with hy | rfl
  · exact hd.keys y hy howner
  · exact absurd howner h

/-- Only a login and `create_key` bring a credential of the user about. -/
theorem exec_staysDead {op : Op} (h : op.issues = false) (d : DB) :
    (staysDead userId).rel d (exec op d) := by
  have apart (d e : DB) (hs : e.accessSessions = d.accessSessions) (hk : e.apiKeys = d.apiKeys) :
      (staysDead userId).rel d e := fun hd => hd.of_eq hs hk
  have keeps : KeepsMoney (staysDead userId) False := by
    refine keepsMoney_of_credentials apart False.elim False.elim (fun p => ⟨fun d e h hd => ?_⟩)
      fun p => ⟨fun d e h hd => ?_⟩
    · obtain rfl := Option.some.inj h
      exact ⟨Table.forall_update hd.sessions fun _ _ _ _ => rfl, hd.keys⟩
    · obtain rfl := Option.some.inj h
      exact ⟨hd.sessions, Table.forall_update hd.keys fun _ _ _ _ => rfl⟩
  refine exec_keeps_credentials apart keeps (fun hissues => ?_) d
  rw [h] at hissues
  cases hissues

/-! ## A user that is cut off -/

/-- Nothing lets the user in, and nothing that is underway will. -/
structure Cut (userId : Id) (s : Desk) : Prop extends Desk.Quiet userId s where
  dead : Dead userId s.db

theorem issueSession_staysDead {a : LoginArgs} {user : User} (h : user.id ≠ userId) :
    Keeps (staysDead userId) (issueSession a user) :=
  Tx.keeps_bind (Tx.keeps_add (insertAccessSession_staysDead h)) fun _ => by simp

theorem createKey_staysDead {a : KeyArgs} (h : a.userId ≠ userId) :
    Keeps (staysDead userId) (createKey a) := by
  refine Tx.keeps_bind (Tx.keeps_tryExcept (KeepsAccounts.enforceKeyLimit ..) fun _ => by simp)
    fun _ => ?_
  exact Tx.keeps_bind (Tx.keeps_add (insertApiKey_staysDead h)) fun _ => by simp

section Cut

variable {s : Desk} (hcut : Cut userId s)

include hcut

theorem Cut.not_admitted {authorization : Authorization} {now : Time} {p : Principal}
    (h : (Tx.run (requireSession L authorization now) s.db).1 = .ok p) : p.userId ≠ userId := by
  obtain ⟨x, hx, howner, hlive⟩ := requireSession_live h
  intro hp
  rw [hcut.dead.sessions x hx (howner.trans hp)] at hlive
  cases hlive

theorem Cut.not_keyed {authorization : Authorization} {p : Principal}
    (h : (Tx.run (requireApiKey L authorization) s.db).1 = .ok p) : p.userId ≠ userId := by
  obtain ⟨k, hk, howner, hactive⟩ := requireApiKey_live h
  intro hp
  rw [hcut.dead.keys k hk (howner.trans hp)] at hactive
  cases hactive

theorem Cut.step {act : Act} (hact : act.Without userId s) : Cut userId (act.step L s) := by
  cases act with
  | call op => exact ⟨⟨hcut.logins, hcut.keys⟩, exec_staysDead hact s.db hcut.dead⟩
  | verifyPassword a =>
    cases hread : authenticate a s.db with
    | none =>
      simp only [Act.step, hread]
      exact hcut
    | some user =>
      simp only [Act.step, hread]
      refine ⟨⟨fun x hx => ?_, hcut.keys⟩, hcut.dead⟩
      rcases List.mem_append.1 hx with hx | hx
      · exact hcut.logins x hx
      · rw [List.mem_singleton.1 hx]
        exact hact user hread
  | issueSession i =>
    cases hget : s.logins[i]? with
    | none =>
      simp only [Act.step, hget]
      exact hcut
    | some x =>
      simp only [Act.step, hget]
      have hother := hcut.logins x (List.mem_of_getElem? hget)
      refine ⟨⟨fun y hy => hcut.logins y (List.mem_of_mem_eraseIdx hy), hcut.keys⟩, ?_⟩
      exact (issueSession_staysDead hother).run s.db hcut.dead
  | enter authorization now a =>
    cases hrun : (Tx.run (requireSession L authorization now) s.db).1 with
    | error e =>
      simp only [Act.step, hrun]
      exact hcut
    | ok p =>
      simp only [Act.step, hrun]
      refine ⟨⟨hcut.logins, fun x hx => ?_⟩, hcut.dead⟩
      rcases List.mem_append.1 hx with hx | hx
      · exact hcut.keys x hx
      · rw [List.mem_singleton.1 hx]
        exact hcut.not_admitted hrun
  | createKey i =>
    cases hget : s.keys[i]? with
    | none =>
      simp only [Act.step, hget]
      exact hcut
    | some a =>
      simp only [Act.step, hget]
      have hother := hcut.keys a (List.mem_of_getElem? hget)
      refine ⟨⟨hcut.logins, fun b hb => hcut.keys b (List.mem_of_mem_eraseIdx hb)⟩, ?_⟩
      exact (createKey_staysDead hother).run s.db hcut.dead

end Cut

/-! ## Rotations -/

/-- The call sets a new password for the user, or freezes the account. -/
inductive Rotates (userId : Id) (d : DB) : Op → Prop where
  | reset (a : ResetArgs) (t : OneTimeToken) (read : openResetToken a.digest d = some t)
    (owner : t.userId = userId)
    (ok : (Tx.run (resetPassword a) d).1 = .ok true) : Rotates userId d (.resetPassword a)
  | freeze (a : AccountStatusArgs) (user : User) (read : d.users.get? userId = some user)
    (thawed : user.status ≠ .frozen)
    (account : a.userId = userId) (freeze : a.freeze = true)
      (ok : (Tx.run (updateAccountStatus a) d).1 = .ok ()) :
    Rotates userId d (.updateAccountStatus a)

theorem dead_freezeAll (userId : Id) (d : DB) : Dead userId (freezeAll userId d) := by
  constructor
  · intro x hx howner
    rw [freezeAll, Table.mem_update] at hx
    obtain ⟨y, hy, rfl⟩ := hx
    split at howner
    · rw [if_pos ‹_›]
    · rename_i hne
      rw [if_neg hne]
      simpa [howner] using hne
  · intro x hx howner
    rw [freezeAll, Table.mem_update] at hx
    obtain ⟨y, hy, rfl⟩ := hx
    split at howner
    · rw [if_pos ‹_›]
    · rename_i hne
      rw [if_neg hne]
      cases hstatus : y.status with
      | revoked => rfl
      | active => simp [howner, hstatus] at hne

theorem applyUserFreeze_bound {now : Time} {user : User} {s t : Session DB} {n : Nat}
    (hread : s.work.users.get? userId = some user) (hpending : s.pending = [])
    (h : applyUserFreeze userId now s = (.ok n, t)) : Tx.Bound (Dead userId) t := by
  simp only [applyUserFreeze, Tx.bind_ok, Tx.select_ok] at h
  obtain ⟨found, s', ⟨rfl, rfl⟩, h⟩ := h
  rw [hread] at h
  simp only [Tx.bind_ok, Tx.add_ok, Tx.execute_ok, Tx.pure_ok, DB.updateApiKeys,
    DB.updateAccessSessions, DB.updateEmailTokens, DB.updateResetTokens, Option.some.injEq,
    Prod.mk.injEq] at h
  obtain ⟨_, _, rfl, _, _, ⟨_, ⟨rfl, -⟩, rfl⟩, _, _, ⟨_, ⟨rfl, -⟩, rfl⟩, _, _, ⟨_, ⟨rfl, -⟩, rfl⟩,
    _, _, ⟨_, ⟨rfl, -⟩, rfl⟩, -, rfl⟩ := h
  refine ⟨.inl ((dead_freezeAll userId s'.work).of_eq rfl rfl), fun w hw => ?_⟩
  rcases List.mem_append.1 hw with hw | hw
  · exact absurd (hpending ▸ hw) List.not_mem_nil
  · obtain rfl := List.mem_singleton.1 hw
    rintro d e ⟨⟩ hd
    exact hd.of_eq rfl rfl

theorem Rotates.dead {d : DB} {op : Op} (h : Rotates userId d op) : Dead userId (exec op d) := by
  unfold exec
  cases h with
  | reset a t read owner ok =>
    simp only [Op.service, run_discard]
    rw [resetPassword_eq, read] at ok ⊢
    split at ok
    · cases ok
    · rename_i record hrecord
      obtain ⟨hrecord, -⟩ := Option.filter_eq_some_iff.1 hrecord
      obtain rfl := Option.some.inj hrecord
      split at ok
      · cases ok
      · split at ok
        · cases ok
        · rw [← owner]
          exact dead_rotateAll ..
  | freeze a user read thawed account freeze ok =>
    simp only [Op.service, run_discard]
    obtain ⟨t, hrun, ht⟩ := (Tx.run_ok ..).1
      (Prod.ext ok rfl : Tx.run (updateAccountStatus a) d = (.ok (), _))
    rw [show (Tx.run (updateAccountStatus a) d).2 = t.committed from ht.symm]
    unfold updateAccountStatus changeStatus at hrun
    rw [freeze, if_pos rfl] at hrun
    obtain ⟨_, _, hselect, hrun⟩ := (Tx.bind_ok ..).1 hrun
    obtain ⟨rfl, rfl⟩ := (Tx.select_ok ..).1 hselect
    obtain ⟨found, _, hfound, hrun⟩ := (Tx.bind_ok ..).1 hrun
    obtain ⟨hsome, rfl⟩ := (Tx.orRaise_ok ..).1 hfound
    rw [account] at hsome
    obtain rfl := Option.some.inj (hsome.symm.trans read)
    obtain ⟨_, s, hchange, hrun⟩ := (Tx.bind_ok ..).1 hrun
    rw [if_pos rfl, if_neg thawed, account] at hchange
    obtain ⟨n, _, hfreeze, hpure⟩ := (Tx.bind_ok ..).1 hchange
    obtain ⟨-, rfl⟩ := (Tx.pure_ok ..).1 hpure
    have hbound : Tx.Bound (Dead userId) s := applyUserFreeze_bound read rfl hfreeze
    refine (Tx.settles_bind (Tx.binds_add ?_) fun _ => Tx.settles_commit).committed s _ _ hbound
      hrun
    rintro d e ⟨⟩ hd
    exact hd.of_eq rfl rfl

/-- A rotation with nothing of the user underway lets the user in no more, before a password of
theirs is verified. -/
theorem rotated_out {op : Op} {s : Desk} (hrotates : Rotates userId s.db op)
    (hquiet : s.Quiet userId) {acts : List Act}
    (hacts : Run.Along (Act.step L) (Act.Without userId) (Act.step L (.call op) s) acts)
    (authorization : Authorization) (now : Time) (p : Principal) :
    let d := (Run.after (Act.step L) (Act.step L (.call op) s) acts).db
    ((Tx.run (requireSession L authorization now) d).1 = .ok p → p.userId ≠ userId) ∧
      ((Tx.run (requireApiKey L authorization) d).1 = .ok p → p.userId ≠ userId) := by
  have hcut : Cut userId (Act.step L (.call op) s) := ⟨⟨hquiet.logins, hquiet.keys⟩, hrotates.dead⟩
  have hafter : Cut userId (Run.after (Act.step L) (Act.step L (.call op) s) acts) :=
    Run.invariant (fun _ _ h hact => h.step hact) hcut hacts
  exact ⟨hafter.not_admitted, hafter.not_keyed⟩

/-! ## A reset -/

/-- A user with a live session, who has asked for a reset. -/
def forgetful : DB := { shop with
  accessSessions := ⟨[⟨"s", "u", "session:sess_token", 1000, false⟩], by decide⟩
  resetTokens := ⟨[⟨"t", "u", "reset-digest", 1000, none⟩], by decide⟩ }

def newPassword : Op := .resetPassword ⟨"reset-digest", .ok "hash", 1⟩

/-- A request for a key that comes with the old session, and a key that would be made on it. -/
def oldSession : List Act :=
  [.enter sessionHeader 2 ⟨"u", "key", 5, "new", "digest", "last"⟩, .createKey 0]

theorem reset_rotates : Rotates "u" forgetful newPassword :=
  .reset _ ⟨"t", "u", "reset-digest", 1000, none⟩ (by decide +kernel) rfl (by decide +kernel)

/-- The old session is let in before, and no more. -/
theorem old_session_out :
    (Tx.run (requireSession taggedDigests sessionHeader 0) forgetful).1 = .ok ⟨"u", none⟩ ∧
    ¬(Tx.run (requireSession taggedDigests sessionHeader 3)
      (Run.after (Act.step taggedDigests)
        (Act.step taggedDigests (.call newPassword) ⟨forgetful, [], []⟩) oldSession).db).1 =
        .ok ⟨"u", none⟩ := by
  have hquiet : Desk.Quiet "u" ⟨forgetful, [], []⟩ :=
    ⟨fun _ h => absurd h List.not_mem_nil, fun _ h => absurd h List.not_mem_nil⟩
  have hacts : Run.Along (Act.step taggedDigests) (Act.Without "u")
    (Act.step taggedDigests (.call newPassword) ⟨forgetful, [], []⟩)
      oldSession := ⟨trivial, trivial, trivial⟩
  have hheader : credentials taggedDigests sessionHeader =
      .ok (py "sess_token") := by decide +kernel
  constructor
  · exact requireSession_ok.2 ⟨py "sess_token", ⟨"s", "u", "session:sess_token", 1000, false⟩,
      firstUser, hheader, by decide +kernel, by decide +kernel, by decide, rfl, rfl, rfl⟩
  · intro h
    exact (rotated_out reset_rotates hquiet hacts sessionHeader 3 _).1 h rfl

end Kunlun.Rotations
