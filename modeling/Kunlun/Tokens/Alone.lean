import Kunlun.Tokens.Once

/-!
# Calls that nothing overlaps

Statement by statement, a call by itself comes to what the service does in one go.
-/

namespace Kunlun.Tokens

variable {k : TokenKind} {d e : DB} {userId : Id}

/-- The service that the call is a call of. -/
def service : TokenCall → Service TokenAnswer
  | .issueEmailVerification userId a => do
    issueEmailVerification userId a
    return .none
  | .requestPasswordReset email a => do
    requestPasswordReset email a
    return .none
  | .consumeEmailVerification digest now => do
    let b ← consumeEmailVerification digest now
    return .bool b
  | .resetPassword a => do
    let b ← resetPassword a
    return .bool b
  | .freezeUser userId now => do
    let n ← applyUserFreeze userId now
    Tx.commit
    return .keys n

/-! ## An `UPDATE` by the rows that it has seen -/

theorem filter_stillOpen (k : TokenKind) (userId : Id) (d : DB) :
    (openRows k userId d).filter (stillOpen k d) = openRows k userId d := by
  rw [List.filter_eq_self]
  intro i hi
  obtain ⟨t, ht, -, hopen⟩ := mem_openRows.1 hi
  exact stillOpen_iff.2 ⟨t, ht, hopen⟩

theorem update_rows (t : Table OneTimeToken OneTimeToken.id) (p : OneTimeToken → Bool)
    (f : OneTimeToken → OneTimeToken)
    (hf : ∀ t, (f t).id = t.id) :
    t.update (fun x => x.id ∈ (t.rows.filter p).map OneTimeToken.id) f hf = t.update p f hf := by
  simp only [Table.update, Table.mk.injEq]
  apply List.map_congr_left
  intro x hx
  have hiff : x.id ∈ (t.rows.filter p).map OneTimeToken.id ↔ p x := by
    rw [List.mem_map]
    constructor
    · rintro ⟨y, hy, hid⟩
      obtain ⟨hmem, hp⟩ := List.mem_filter.1 hy
      rwa [← Table.eq_of_mem_of_key hmem hx hid]
    · exact fun hp => ⟨x, List.mem_filter.2 ⟨hx, hp⟩, rfl⟩
  by_cases hp : p x
  · rw [if_pos (decide_eq_true (hiff.2 hp)), if_pos hp]
  · rw [if_neg hp, if_neg]
    rw [decide_eq_true_eq]
    exact fun h => hp (hiff.1 h)

def consumeTokens : TokenKind → (OneTimeToken → Bool) → Time → Service Nat
  | .email => consumeEmailTokens
  | .reset => consumeResetTokens

theorem consumeTokens_eq (k : TokenKind) (p : OneTimeToken → Bool) (now : Time) (s : Session DB) :
    consumeTokens k p now s = (.ok ((k.table s.work).count p),
      { s with work := k.consume (((k.table s.work).rows.filter p).map OneTimeToken.id) now s.work
        }) := by
  cases k
  all_goals
    unfold TokenKind.consume TokenKind.table
    dsimp only
    rw [update_rows]
    rfl

/-! ## Issuing -/

/-- What a call comes to that issues a token and has its message sent. -/
def issued (k : TokenKind) (userId : Id) (a : TokenArgs) (d : DB) : TokenOutcome × DB :=
  match k.insert (newToken a userId) (k.consume (openRows k userId d) a.now d) with
  | none => (.error .integrityError, d)
  | some e =>
    if a.sent then (.ok .none, e)
    else (undelivered k, k.consume (((k.table e).rows.filter fun t => t.tokenDigest = a.digest).map
      OneTimeToken.id) a.now e)

theorem alone_supersede (k : TokenKind) (userId : Id) (a : TokenArgs) (d : DB) :
    tokenCalls.alone 5 (.supersede k userId a) d = some (issued k userId a d) := by
  rw [Locking.alone_go rfl, Locking.alone_go rfl, filter_stillOpen]
  unfold issued
  have hinsert : tokenCalls.next
    (.superseded k userId a (openRows k userId d) (openRows k userId d)) d =
      match k.insert (newToken a userId) (k.consume (openRows k userId d) a.now d) with
      | none => (.inr (.error .integrityError), d)
      | some e => (.inl (.deliver k a), e) := rfl
  cases he : k.insert (newToken a userId) (k.consume (openRows k userId d) a.now d) with
  | none =>
    rw [he] at hinsert
    exact Locking.alone_end hinsert
  | some e =>
    rw [he] at hinsert
    have hdeliver : tokenCalls.next (.deliver k a) e = if a.sent then (.inr (.ok .none), e) else
      (.inl (.retracted k a (((k.table e).rows.filter fun t => t.tokenDigest = a.digest).map
        OneTimeToken.id)), e) := rfl
    rw [Locking.alone_go hinsert]
    dsimp only
    split
    · rename_i hsent
      rw [if_pos hsent] at hdeliver
      exact Locking.alone_end hdeliver
    · rename_i hsent
      rw [if_neg hsent] at hdeliver
      rw [Locking.alone_go hdeliver, Locking.alone_end rfl]

/-- What both services that issue a token do once they know the user; `failed` ends a failed
delivery. -/
def issueToken (k : TokenKind) (userId : Id) (a : TokenArgs)
    (failed : Service Unit) : Service Unit := do
  let _ ← consumeTokens k (isOpenOf userId) a.now
  Tx.add (k.insert (newToken a userId))
  Tx.commit
  if a.sent then return ()
  else do
    let _ ← consumeTokens k (fun t => t.tokenDigest = a.digest) a.now
    failed

theorem run_issueToken {failed : Service Unit} {r : Except Exc Unit}
    (hfailed : ∀ c w, failed ⟨c, w, []⟩ = (r, ⟨w, w, []⟩)) (k : TokenKind) (userId : Id)
    (a : TokenArgs) (d : DB) : Tx.run (issueToken k userId a failed) d =
      match k.insert (newToken a userId) (k.consume (openRows k userId d) a.now d) with
      | none => (.error .integrityError, d)
      | some e =>
        if a.sent then (.ok (), e)
        else (r, k.consume (((k.table e).rows.filter fun t => t.tokenDigest = a.digest).map
          OneTimeToken.id) a.now e) := by
  have hconsume := consumeTokens_eq k (isOpenOf userId) a.now (.fresh d)
  have hcommit : Tx.applyAll [k.insert (newToken a userId)]
    (k.consume (openRows k userId d) a.now d) =
      k.insert (newToken a userId) (k.consume (openRows k userId d) a.now d) := by
    simp [Tx.applyAll]
  unfold Tx.run issueToken
  rw [Tx.bind_of_ok hconsume, Tx.add_bind]
  cases he : k.insert (newToken a userId) (k.consume (openRows k userId d) a.now d) with
  | none =>
    rw [Tx.commit_raises (hcommit.trans he)]
    rfl
  | some e =>
    rw [Tx.commit_bind (hcommit.trans he)]
    dsimp only
    split
    · rfl
    · have hretract := consumeTokens_eq k (fun t => t.tokenDigest = a.digest) a.now ⟨e, e, []⟩
      rw [Tx.bind_of_ok hretract, hfailed]

theorem run_then {α β : Type} (x : Service α) (f : α → β) (d : DB) :
    Tx.run (x >>= fun a => pure (f a)) d = ((Tx.run x d).1.map f, (Tx.run x d).2) := by
  simp only [Tx.run, Bind.bind]
  rcases x (.fresh d) with ⟨r, s⟩
  cases r <;> rfl

/-- The message could not be sent, and the token is retracted. -/
def failedVerification : Service Unit := do
  Tx.commit
  Tx.raise (.identity "邮件发送失败")

theorem issued_eq {failed : Service Unit} {r : Except Exc Unit}
    (hfailed : ∀ c w, failed ⟨c, w, []⟩ = (r, ⟨w, w, []⟩))
    (hr : r.map (fun _ => TokenAnswer.none) = undelivered k) (userId : Id)
    (a : TokenArgs) (d : DB) :
    Tx.run (issueToken k userId a failed >>= fun _ => pure TokenAnswer.none) d =
      issued k userId a d := by
  rw [run_then, run_issueToken hfailed]
  unfold issued
  cases k.insert (newToken a userId) (k.consume (openRows k userId d) a.now d) with
  | none => rfl
  | some e =>
    dsimp only
    split
    · rfl
    · rw [hr]

theorem issueEmailVerification_eq (userId : Id) (a : TokenArgs) (d : DB) :
    issueEmailVerification userId a (.fresh d) =
    match d.users.get? userId with
    | none => (.error (.identity "账户不存在"), .fresh d)
    | some _ => issueToken .email userId a failedVerification (.fresh d) := by
  unfold issueEmailVerification
  rw [Tx.select_bind]
  show (Tx.orRaise (d.users.get? userId) _ >>= _) _ = _
  cases d.users.get? userId <;> rfl

theorem run_eq {α : Type} {x : Service α} {r : Except Exc α} {s : Session DB}
    (h : x (.fresh d) = (r, s)) :
    Tx.run x d = (r, s.committed) := by
  rw [Tx.run, h]

theorem alone_issueEmailVerification (userId : Id) (a : TokenArgs) (d : DB) :
    tokenCalls.alone 7 (.call (.issueEmailVerification userId a)) d =
      some (Tx.run (service (.issueEmailVerification userId a)) d) := by
  have hnext : tokenCalls.next (.call (.issueEmailVerification userId a)) d =
      (match d.users.get? userId with
        | none => .inr (.error (.identity "账户不存在"))
        | some _ => .inl (.supersede .email userId a), d) := rfl
  have hservice := issueEmailVerification_eq userId a d
  unfold service
  rw [run_then]
  cases hu : d.users.get? userId with
  | none =>
    rw [hu] at hnext hservice
    rw [Locking.alone_end hnext, run_eq hservice]
    rfl
  | some u =>
    rw [hu] at hnext hservice
    have hrun : Tx.run (issueEmailVerification userId a) d =
        Tx.run (issueToken .email userId a failedVerification) d := by
      rw [Tx.run, hservice]
      rfl
    have hfailed (c w : DB) : failedVerification ⟨c, w, []⟩ =
        (.error (.identity "邮件发送失败"), ⟨w, w, []⟩) := rfl
    rw [Locking.alone_go hnext, Locking.alone_succ (alone_supersede ..), hrun, ← run_then,
      issued_eq hfailed rfl]

theorem requestPasswordReset_eq (email : String) (a : TokenArgs) (d : DB) :
    requestPasswordReset email a (.fresh d) =
    match (userWithEmail email d).filter fun u => u.status = .active with
    | none => (.ok (), .fresh d)
    | some user => issueToken .reset user.id a Tx.commit (.fresh d) := by
  unfold requestPasswordReset
  rw [Tx.select_bind]
  show (match (userWithEmail email d).filter fun u => decide (u.status = .active) with
    | none => Tx.rollback | some user => _ : Service Unit) _ = _
  cases (userWithEmail email d).filter fun u => decide (u.status = .active) with
  | none => rfl
  | some user =>
    rfl

theorem alone_requestPasswordReset (email : String) (a : TokenArgs) (d : DB) :
    tokenCalls.alone 7 (.call (.requestPasswordReset email a)) d =
      some (Tx.run (service (.requestPasswordReset email a)) d) := by
  have hfirst : tokenCalls.next (.call (.requestPasswordReset email a)) d =
      (match userWithEmail email d with
        | none => .inr (.ok .none)
        | some user => .inl (.requesting user.id a), d) := rfl
  have hservice := requestPasswordReset_eq email a d
  unfold service
  rw [run_then]
  cases hu : userWithEmail email d with
  | none =>
    rw [hu] at hfirst hservice
    rw [Locking.alone_end hfirst, run_eq hservice]
    rfl
  | some user =>
    have hget : d.users.get? user.id = some user := Table.get?_of_mem (List.mem_of_find?_eq_some hu)
    have hsecond : tokenCalls.next (.requesting user.id a) d =
        match (d.users.get? user.id).filter fun u => u.status = .active with
        | none => (.inr (.ok .none), d)
        | some _ => (.inl (.supersede .reset user.id a), d) := rfl
    rw [hu] at hfirst hservice
    rw [hget] at hsecond
    rw [Locking.alone_go hfirst]
    cases hactive : (some user).filter fun u => decide (u.status = .active) with
    | none =>
      rw [hactive] at hsecond hservice
      rw [Locking.alone_end hsecond, run_eq hservice]
      rfl
    | some user' =>
      obtain rfl : user = user' := Option.some.inj (Option.filter_eq_some_iff.1 hactive).1
      rw [hactive] at hsecond hservice
      have hrun : Tx.run (requestPasswordReset email a) d = Tx.run
          (issueToken .reset user.id a Tx.commit) d := by
        rw [Tx.run, hservice]
        rfl
      have hfailed (c w : DB) : (Tx.commit : Service Unit) ⟨c, w, []⟩ = (.ok (), ⟨w, w, []⟩) := rfl
      rw [Locking.alone_go hsecond, alone_supersede, hrun, ← run_then, issued_eq hfailed rfl]

/-! ## Consuming -/

theorem consume_congr {rows rows' : List Id} (now : Time)
    (h : ∀ t ∈ (k.table d).rows, t.id ∈ rows ↔ t.id ∈ rows') :
    k.consume rows now d = k.consume rows' now d := by
  have hupdate (t : Table OneTimeToken OneTimeToken.id)
    (ht : ∀ x ∈ t.rows, x.id ∈ rows ↔ x.id ∈ rows') :
      t.update (fun x => x.id ∈ rows) (fun x => { x with consumedAt := some now }) =
        t.update (fun x => x.id ∈ rows') fun x => { x with consumedAt := some now } := by
    simp only [Table.update, Table.mk.injEq]
    apply List.map_congr_left
    intro x hx
    simp only [decide_eq_true_eq]
    exact if_congr (ht x hx) rfl rfl
  cases k with
  | email => exact congrArg (fun t => { d with emailTokens := t }) (hupdate _ h)
  | reset => exact congrArg (fun t => { d with resetTokens := t }) (hupdate _ h)

theorem consumeTokens_one {record : OneTimeToken}
    (hrecord : (k.table d).get? record.id = some record)
    (hopen : record.consumedAt = none) (now : Time) (c : DB) (ws : List (DB → Option DB)) :
    consumeTokens k (fun t => decide (t.id = record.id) && t.consumedAt.isNone) now ⟨c, d, ws⟩ =
      (.ok 1, ⟨c, k.consume [record.id] now d, ws⟩) := by
  rw [consumeTokens_eq]
  dsimp only
  congr 1
  · rw [Table.count_key, hrecord, Option.any_some, hopen]
    rfl
  · congr 1
    apply consume_congr
    intro t ht
    rw [List.mem_singleton, List.mem_map]
    constructor
    · rintro ⟨x, hx, hid⟩
      have hmem := (List.mem_filter.1 hx).2
      rw [Bool.and_eq_true, decide_eq_true_eq] at hmem
      rw [← hid, hmem.1]
    · intro hid
      refine ⟨record, List.mem_filter.2 ⟨Table.mem_of_get? hrecord, ?_⟩, hid.symm⟩
      rw [hopen]
      simp

theorem read_record {p q : OneTimeToken → Bool} {record : OneTimeToken}
    (h : ((k.table d).rows.find? p).filter q = some record) :
    (k.table d).get? record.id = some record ∧ p record ∧ q record := by
  obtain ⟨hfound, hq⟩ := Option.filter_eq_some_iff.1 h
  exact ⟨Table.get?_of_mem (List.mem_of_find?_eq_some hfound), List.find?_some hfound, hq⟩

theorem consumeEmailVerification_eq (digest : String) (now : Time) (d : DB) :
    consumeEmailVerification digest now (.fresh d) =
      match (openEmailToken digest d).filter fun t => now < t.expiresAt with
      | none => (.ok false, .fresh d)
      | some record =>
        match (d.users.get? record.userId).filter fun u => u.status = .pendingEmail with
        | none => (.ok false, .fresh d)
        | some _ =>
          (.ok true, .fresh (activate record.userId now
            (TokenKind.email.consume [record.id] now d))) := by
  unfold consumeEmailVerification
  rw [Tx.select_bind]
  show (match (openEmailToken digest d).filter fun t => decide (now < t.expiresAt) with
    | none => pure false | some record => _ : Service Bool) _ = _
  cases hread : (openEmailToken digest d).filter fun t => decide (now < t.expiresAt) with
  | none => rfl
  | some record =>
    obtain ⟨hrecord, hopen, -⟩ := read_record (k := .email) hread
    dsimp only
    rw [Tx.select_bind]
    show (match (d.users.get? record.userId).filter fun u => decide (u.status = .pendingEmail) with
      | none => _ | some _ => _ : Service Bool) _ = _
    cases huser : (d.users.get? record.userId).filter fun u =>
      decide (u.status = .pendingEmail) with
    | none => rfl
    | some user =>
      have hid : user.id = record.userId := Table.key_of_get? (Option.filter_eq_some_iff.1 huser).1
      have hconsume : consumeEmailTokens (fun t => decide (t.id = record.id) && t.consumedAt.isNone)
        now (.fresh d) =
          (.ok 1, ⟨d, TokenKind.email.consume [record.id] now d, []⟩) :=
        consumeTokens_one hrecord (of_decide_eq_true hopen).2 now d []
      dsimp only
      rw [Tx.bind_of_ok hconsume, if_neg (by decide), Tx.add_bind, Tx.commit_bind rfl, hid]
      rfl

theorem alone_consumeEmailVerification (digest : String) (now : Time) (d : DB) :
    tokenCalls.alone 4 (.call (.consumeEmailVerification digest now)) d =
      some (Tx.run (service (.consumeEmailVerification digest now)) d) := by
  have hfirst : tokenCalls.next (.call (.consumeEmailVerification digest now)) d =
      (match (openEmailToken digest d).filter fun t => now < t.expiresAt with
        | none => .inr (.ok (.bool false))
        | some record => .inl (.verify record now), d) := rfl
  have hservice := consumeEmailVerification_eq digest now d
  unfold service
  rw [run_then]
  cases hread : (openEmailToken digest d).filter fun t => decide (now < t.expiresAt) with
  | none =>
    rw [hread] at hfirst hservice
    rw [Locking.alone_end hfirst, run_eq hservice]
    rfl
  | some record =>
    obtain ⟨hrecord, hopen, -⟩ := read_record (k := .email) hread
    have hsecond : tokenCalls.next (.verify record now) d =
        match d.users.get? record.userId with
        | none => (.inr (.ok (.bool false)), d)
        | some _ => (.inl (.verifying record now), d) := rfl
    have hthird : tokenCalls.next (.verifying record now) d =
        match (d.users.get? record.userId).filter fun u => u.status = .pendingEmail with
        | none => (.inr (.ok (.bool false)), d)
        | some _ =>
          if stillOpen .email d record.id then (.inl (.verified record now), d)
            else (.inr (.ok (.bool false)), d) := rfl
    have hstill : stillOpen .email d record.id :=
      stillOpen_iff.2 ⟨record, hrecord, (of_decide_eq_true hopen).2⟩
    rw [hread] at hfirst hservice
    dsimp only at hservice
    rw [Locking.alone_go hfirst]
    cases hu : d.users.get? record.userId with
    | none =>
      rw [hu] at hsecond hservice
      rw [Locking.alone_end hsecond, run_eq hservice]
      rfl
    | some user =>
      rw [hu] at hsecond hthird hservice
      rw [Locking.alone_go hsecond]
      cases hpending : (some user).filter fun u => decide (u.status = .pendingEmail) with
      | none =>
        rw [hpending] at hthird hservice
        rw [Locking.alone_end hthird, run_eq hservice]
        rfl
      | some user' =>
        rw [hpending] at hthird hservice
        dsimp only at hthird
        rw [if_pos hstill] at hthird
        rw [Locking.alone_go hthird, Locking.alone_end rfl, run_eq hservice]
        rfl

theorem run_select_bind {α β : Type} (f : DB → α) (g : α → Service β) (d : DB) :
    Tx.run (Tx.select f >>= g) d = Tx.run (g (f d)) d := rfl

theorem run_lift_bind {α β : Type} (a : α) (g : α → Service β) (d : DB) :
    Tx.run (Tx.lift (.ok a) >>= g) d = Tx.run (g a) d := rfl

theorem resetPassword_eq (a : ResetArgs) (d : DB) : Tx.run (resetPassword a) d =
    match (openResetToken a.digest d).filter fun t => a.now < t.expiresAt with
    | none => (.ok false, d)
    | some record =>
      match (d.users.get? record.userId).filter fun u => u.status = .active with
      | none => (.ok false, TokenKind.reset.consume [record.id] a.now d)
      | some _ =>
        match a.passwordHash with
        | .error message => (.error (.identity message), d)
        | .ok passwordHash =>
          (.ok true, rotateAll record.userId passwordHash
            (TokenKind.reset.consume [record.id] a.now d)) := by
  unfold resetPassword
  rw [run_select_bind]
  cases hread : (openResetToken a.digest d).filter fun t => decide (a.now < t.expiresAt) with
  | none => rfl
  | some record =>
    obtain ⟨hrecord, hopen, hlive⟩ := read_record (k := .reset) hread
    have hnone := (of_decide_eq_true hopen).2
    have hconsume : consumeResetToken record.id a.now (.fresh d) =
        (.ok 1, ⟨d, TokenKind.reset.consume [record.id] a.now d, []⟩) :=
      consumeTokens_one hrecord hnone a.now d []
    dsimp only
    rw [run_select_bind]
    cases (d.users.get? record.userId).filter fun u => decide (u.status = .active) with
    | none =>
      dsimp only
      rw [Tx.run, Tx.bind_of_ok hconsume, Tx.commit_bind rfl]
      rfl
    | some user =>
      cases a.passwordHash with
      | error message => rfl
      | ok passwordHash =>
        have hagain : (d.resetTokens.get? record.id).filter
          (fun t => decide (t.consumedAt = none ∧ a.now < t.expiresAt)) =
            some record := by
          rw [Option.filter_eq_some_iff]
          exact ⟨hrecord, decide_eq_true ⟨hnone, of_decide_eq_true hlive⟩⟩
        dsimp only
        rw [Except.mapError, run_lift_bind, run_select_bind, hagain]
        dsimp only
        rw [Tx.run, Tx.bind_of_ok hconsume, if_neg (by decide)]
        rfl

theorem alone_resetPassword (a : ResetArgs) (d : DB) :
    tokenCalls.alone 5 (.call (.resetPassword a)) d =
      some (Tx.run (service (.resetPassword a)) d) := by
  have hfirst : tokenCalls.next (.call (.resetPassword a)) d =
      (match (openResetToken a.digest d).filter fun t => a.now < t.expiresAt with
        | none => .inr (.ok (.bool false))
        | some record => .inl (.reset record a), d) := rfl
  have hservice := resetPassword_eq a d
  unfold service
  rw [run_then]
  cases hread : (openResetToken a.digest d).filter fun t => decide (a.now < t.expiresAt) with
  | none =>
    rw [hread] at hfirst hservice
    rw [Locking.alone_end hfirst, hservice]
    rfl
  | some record =>
    obtain ⟨hrecord, hopen, hlive⟩ := read_record (k := .reset) hread
    have hnone := (of_decide_eq_true hopen).2
    have hstill : stillOpen .reset d record.id := stillOpen_iff.2 ⟨record, hrecord, hnone⟩
    have hlock : ((d.users.get? record.userId).map User.id).bind d.users.get? =
        d.users.get? record.userId := by
      cases hu : d.users.get? record.userId with
      | none => rfl
      | some user =>
        rw [Option.map_some, Option.bind_some, Table.key_of_get? hu]
        exact hu
    have hthird : tokenCalls.next (.resetting record a ((d.users.get? record.userId).map User.id))
      d =
        match (((d.users.get? record.userId).map User.id).bind d.users.get?).filter fun u =>
          u.status = .active with
        | none => (.inl (.refused record a ((d.users.get? record.userId).map User.id)
            ([record.id].filter (stillOpen .reset d))), d)
        | some _ =>
          match a.passwordHash with
          | .error message => (.inr (.error (.identity message)), d)
          | .ok passwordHash =>
            match d.resetTokens.get? record.id with
            | none => (.inr (.ok (.bool false)), d)
            | some _ => (.inl (.rotate record a passwordHash), d) := rfl
    rw [hread] at hfirst hservice
    dsimp only at hservice
    rw [hlock] at hthird
    rw [Locking.alone_go hfirst, Locking.alone_go rfl]
    cases hactive : (d.users.get? record.userId).filter fun u => decide (u.status = .active) with
    | none =>
      rw [hactive] at hthird hservice
      rw [Locking.alone_go hthird, Locking.alone_end rfl, hservice, List.filter_cons_of_pos hstill,
        List.filter_nil]
      rfl
    | some user =>
      rw [hactive] at hthird hservice
      dsimp only at hthird hservice
      cases hhash : a.passwordHash with
      | error message =>
        rw [hhash] at hthird hservice
        rw [Locking.alone_end hthird, hservice]
        rfl
      | ok passwordHash =>
        rw [hhash] at hthird hservice
        dsimp only at hthird
        rw [show d.resetTokens.get? record.id = some record from hrecord] at hthird
        have hagain : (d.resetTokens.get? record.id).filter
          (fun t => decide (t.consumedAt = none ∧ a.now < t.expiresAt)) =
            some record := by
          rw [Option.filter_eq_some_iff]
          exact ⟨hrecord, decide_eq_true ⟨hnone, of_decide_eq_true hlive⟩⟩
        have hfourth : tokenCalls.next (.rotate record a passwordHash) d =
            match (d.resetTokens.get? record.id).filter fun t => t.consumedAt = none ∧
            a.now < t.expiresAt with
            | none => (.inr (.ok (.bool false)), d)
            | some _ => (.inl (.rotated record a passwordHash), d) := rfl
        rw [hagain] at hfourth
        rw [Locking.alone_go hthird, Locking.alone_go hfourth, Locking.alone_end rfl, hservice]
        rfl

/-! ## Freezing -/

theorem alone_freezeUser (userId : Id) (now : Time) (d : DB) :
    tokenCalls.alone 6 (.call (.freezeUser userId now)) d =
      some (Tx.run (service (.freezeUser userId now)) d) := by
  have hfirst : tokenCalls.next (.call (.freezeUser userId now)) d =
      (match d.users.get? userId with
        | none => .inr (.ok (.keys 0))
        | some _ => .inl (.freeze userId now), d) := rfl
  rw [service, applyUserFreeze, Tx.bind_assoc, run_select_bind]
  cases hu : d.users.get? userId with
  | none =>
    rw [hu] at hfirst
    rw [Locking.alone_end hfirst]
    rfl
  | some user =>
    rw [hu] at hfirst
    rw [Locking.alone_go hfirst, Locking.alone_go rfl, Locking.alone_go rfl, Locking.alone_go rfl,
      Locking.alone_go rfl, Locking.alone_end rfl, filter_stillOpen, filter_stillOpen]
    unfold TokenKind.consume openRows TokenKind.table
    dsimp only
    rw [update_rows, update_rows]
    rfl

/-- A call that nothing overlaps does what its service does, also as the only session of a run. -/
theorem alone_eq (c : TokenCall) (d : DB) :
    tokenCalls.alone 7 (.call c) d = some (Tx.run (service c) d) ∧
    Run.after tokenCalls.step ⟨d, fun _ : Fin 1 => some (.call c)⟩ (List.replicate 7 (.go 0)) =
      ⟨(Tx.run (service c) d).2, fun _ => none⟩ := by
  have halone : tokenCalls.alone 7 (.call c) d = some (Tx.run (service c) d) := by
    cases c with
    | issueEmailVerification userId a => exact alone_issueEmailVerification userId a d
    | requestPasswordReset email a => exact alone_requestPasswordReset email a d
    | consumeEmailVerification digest now =>
      exact Locking.alone_succ (Locking.alone_succ
        (Locking.alone_succ (alone_consumeEmailVerification digest now d)))
    | resetPassword a => exact Locking.alone_succ (Locking.alone_succ (alone_resetPassword a d))
    | freezeUser userId now => exact Locking.alone_succ (alone_freezeUser userId now d)
  exact ⟨halone, Locking.after_alone halone⟩

end Kunlun.Tokens
