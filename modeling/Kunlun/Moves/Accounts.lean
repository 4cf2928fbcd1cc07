import Kunlun.Effects
import Kunlun.Routes

/-!
# What accounts do to the books

An account comes with a wallet. Its status and its credentials are nothing to the books.
-/

namespace Kunlun

variable {env : Env}

theorem registerIdentity_moves (user : User) (d : DB) :
    Moves env d.books (Tx.run (registerIdentity user) d).2.books := by
  refine run_moves ?_ fun u t h => ?_
  · exact Tx.atomic_bind (by simp) fun _ => Tx.atomic_bind (by simp) fun _ => Tx.atomic_commit
  · simp only [registerIdentity, Session.fresh, Tx.bind_ok, Tx.add_ok, Tx.commit_ok,
      exists_eq_left, exists_const, List.nil_append, List.singleton_append, Tx.applyAll_cons,
      Tx.applyAll_nil, Option.some.injEq, exists_eq_right] at h
    obtain ⟨d₂, ⟨d₁, h1, h2⟩, rfl⟩ := h
    simp only [DB.insertUser, Option.bind_eq_some_iff, Option.ite_none_right_eq_some,
      Option.some.injEq] at h1
    obtain ⟨users, hu, -, rfl⟩ := h1
    simp only [DB.insertWallet, Option.map_eq_some_iff] at h2
    obtain ⟨wallets, hw, rfl⟩ := h2
    have m : Move env d.books _ := .register user.id hw
    have hrows : users.rows.map User.id = d.books.users ++ [user.id] := by
      rw [(Table.insert?_eq_some.1 hu).2]
      simp [DB.books]
    have heq : DB.books { d with users := users, wallets := wallets } =
        { d.books with users := d.books.users ++ [user.id], wallets := wallets } := by
      rw [← hrows]
      rfl
    rw [heq]
    exact .single m

/-! ## Freezing and rotation -/

theorem neutral_updateApiKeys (p : ApiKey → Bool) (f : ApiKey → ApiKey)
    (hf : ∀ k, (f k).id = k.id) :
    Neutral (DB.flushing (DB.updateApiKeys p f hf)) := by
  rintro d d' ⟨⟩
  rfl

theorem neutral_updateAccessSessions (p : AccessSession → Bool) (f : AccessSession → AccessSession)
    (hf : ∀ x, (f x).id = x.id) : Neutral (DB.flushing (DB.updateAccessSessions p f hf)) := by
  rintro d d' ⟨⟩
  rfl

theorem neutral_updateEmailTokens (p : OneTimeToken → Bool) (f : OneTimeToken → OneTimeToken)
    (hf : ∀ x, (f x).id = x.id) : Neutral (DB.flushing (DB.updateEmailTokens p f hf)) := by
  rintro d d' ⟨⟩
  rfl

theorem neutral_updateResetTokens (p : OneTimeToken → Bool) (f : OneTimeToken → OneTimeToken)
    (hf : ∀ x, (f x).id = x.id) : Neutral (DB.flushing (DB.updateResetTokens p f hf)) := by
  rintro d d' ⟨⟩
  rfl

theorem carries_applyUserFreeze (userId : Id) (now : Time) :
    Carries env (applyUserFreeze userId now) := by
  unfold applyUserFreeze
  refine carries_bind (carries_select _) fun found => ?_
  cases found with
  | none => exact carries_pure 0
  | some _ =>
    refine carries_bind (carries_add (neutral_updateUsers _ _ _)) fun _ => ?_
    refine carries_bind (carries_execute (neutral_updateApiKeys _ _ _)) fun _ => ?_
    refine carries_bind (carries_execute (neutral_updateAccessSessions _ _ _)) fun _ => ?_
    refine carries_bind (carries_execute (neutral_updateEmailTokens _ _ _)) fun _ => ?_
    exact carries_bind (carries_execute (neutral_updateResetTokens _ _ _)) fun _ => carries_pure _

theorem applyUserFreeze_ok {userId : Id} {now : Time} {s t : Session DB} {n : Nat}
    (h : applyUserFreeze userId now s = (.ok n, t)) : t.committed = s.committed ∧
    t.work.books = s.work.books ∧
      ∃ vs, t.pending = s.pending ++ vs ∧ ∀ v ∈ vs, Neutral v := by
  simp only [applyUserFreeze, Tx.bind_ok, Tx.select_ok] at h
  obtain ⟨found, _, ⟨-, rfl⟩, h⟩ := h
  cases found with
  | none =>
    obtain ⟨-, rfl⟩ := (Tx.pure_ok ..).1 h
    exact ⟨rfl, rfl, [], by simp, by simp⟩
  | some _ =>
    simp only [Tx.bind_ok, Tx.add_ok, Tx.execute_ok, Tx.pure_ok, DB.updateApiKeys,
      DB.updateAccessSessions, DB.updateEmailTokens, DB.updateResetTokens, Option.some.injEq,
      Prod.mk.injEq] at h
    obtain ⟨_, _, rfl, _, _, ⟨_, ⟨rfl, -⟩, rfl⟩, _, _, ⟨_, ⟨rfl, -⟩, rfl⟩, _, _, ⟨_, ⟨rfl, -⟩, rfl⟩,
      _, _, ⟨_, ⟨rfl, -⟩, rfl⟩, -, rfl⟩ := h
    exact ⟨rfl, rfl, _, rfl, by simp [neutral_updateUsers]⟩

theorem quiet_applyUserFreeze (userId : Id) (now : Time) :
    Tx.Quiet (applyUserFreeze userId now) := by
  unfold applyUserFreeze
  refine Tx.quiet_bind (by simp) fun found => ?_
  cases found with
  | none => simp
  | some _ =>
    repeat refine Tx.quiet_bind (by simp) fun _ => ?_
    simp

theorem carries_rotateCredentials (userId : Id) (passwordHash : String) :
    Carries env (rotateCredentials userId passwordHash) := by
  unfold rotateCredentials
  refine carries_bind (carries_add (neutral_updateUsers _ _ _)) fun _ => ?_
  refine carries_bind (carries_execute (neutral_updateAccessSessions _ _ _)) fun _ => ?_
  refine carries_bind (carries_execute (neutral_updateApiKeys _ _ _)) fun _ => ?_
  exact carries_bind carries_commit fun _ => carries_pure _

theorem carries_consumeResetToken (tokenId : Id) (now : Time) :
    Carries env (consumeResetToken tokenId now) :=
  carries_execute (neutral_updateResetTokens _ _ _)

theorem carries_resetPassword (a : ResetArgs) : Carries env (resetPassword a) := by
  unfold resetPassword
  refine carries_bind (carries_select _) fun found => ?_
  split
  · exact carries_pure _
  · refine carries_bind (carries_select _) fun user => ?_
    cases user with
    | none =>
      exact carries_bind (carries_consumeResetToken ..) fun _ =>
        carries_bind carries_commit fun _ => carries_pure _
    | some _ =>
      refine carries_bind (carries_lift _) fun _ => carries_bind (carries_select _) fun again => ?_
      cases again with
      | none => exact carries_pure _
      | some record =>
        refine carries_bind (carries_consumeResetToken ..) fun changed => ?_
        exact carries_ite _ (fun _ => carries_bind carries_rollback fun _ => carries_pure _)
          fun _ => carries_rotateCredentials ..

/-! ## `update_account_status` -/

theorem carries_changeStatus (a : AccountStatusArgs) (user : User) :
    Carries env (changeStatus a user) := by
  unfold changeStatus
  refine carries_ite _ (fun _ => carries_ite _ (fun _ => carries_pure _) fun _ => ?_) fun _ => ?_
  · exact carries_bind (carries_applyUserFreeze ..) fun _ => carries_pure _
  · refine carries_bind (carries_raiseIf ..) fun _ => carries_bind (carries_raiseIf ..) fun _ => ?_
    refine carries_bind (carries_select _) fun _ => carries_bind (carries_raiseIf ..) fun _ => ?_
    exact carries_add (neutral_updateUsers _ _ _)

theorem carries_updateAccountStatus (a : AccountStatusArgs) :
    Carries env (updateAccountStatus a) := by
  unfold updateAccountStatus
  refine carries_bind (carries_select _) fun _ => carries_bind (carries_orRaise ..) fun user => ?_
  refine carries_bind (carries_changeStatus ..) fun _ => ?_
  exact carries_bind (carries_add (neutral_insertAction _)) fun _ => carries_commit

end Kunlun
