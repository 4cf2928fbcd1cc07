import Kunlun.Indexes
import Kunlun.Tokens.Stages

/-!
# Tokens are used once

A token leads to one success at most, whatever calls overlap, and a reset leaves no older session or
key. Of a user's reset tokens one at most is open. Of the verification tokens too, unless two calls
that issue one overlap: the second does not see the token that the first commits.
-/

namespace Kunlun.Tokens

variable {k k' : TokenKind} {d e m : DB} {i userId : Id} {locks : List RowLock}

/-! ## What commits do to the token tables -/

theorem get?_consume (k k' : TokenKind) (rows : List Id) (now : Time) (d : DB) (i : Id) :
    (k'.table (k.consume rows now d)).get? i =
      if k' = k then ((k.table d).get? i).map fun t => if t.id ∈ rows then
      { t with consumedAt := some now } else t
      else (k'.table d).get? i := by
  have hupdate (t : Table OneTimeToken OneTimeToken.id) :
      (t.update (fun t => t.id ∈ rows) fun t => { t with consumedAt := some now }).get? i =
        (t.get? i).map fun t => if t.id ∈ rows then { t with consumedAt := some now } else t := by
    rw [Table.get?_update]
    simp only [decide_eq_true_eq]
  cases k <;> cases k'
  · exact hupdate d.emailTokens
  · rfl
  · rfl
  · exact hupdate d.resetTokens

theorem get?_insert {t : OneTimeToken} (h : k.insert t d = some e) :
    (k.table d).get? t.id = none ∧
      ∀ k' i, (k'.table e).get? i = if k' = k ∧ t.id = i then some t else (k'.table d).get? i := by
  cases k with
  | email =>
    simp only [TokenKind.insert, DB.insertEmailToken, Option.bind_eq_some_iff] at h
    obtain ⟨u, hu, h⟩ := h
    split at h
    · obtain rfl := Option.some.inj h
      refine ⟨(Table.insert?_eq_some.1 hu).1, fun k' i => ?_⟩
      cases k' with
      | email => simpa [TokenKind.table] using Table.get?_insert hu i
      | reset =>
        rw [if_neg (not_and_of_not_left _ TokenKind.noConfusion)]
        rfl
    · cases h
  | reset =>
    simp only [TokenKind.insert, DB.insertResetToken, Option.bind_eq_some_iff] at h
    obtain ⟨u, hu, h⟩ := h
    split at h
    · obtain rfl := Option.some.inj h
      refine ⟨(Table.insert?_eq_some.1 hu).1, fun k' i => ?_⟩
      cases k' with
      | email =>
        rw [if_neg (not_and_of_not_left _ TokenKind.noConfusion)]
        rfl
      | reset => simpa [TokenKind.table] using Table.get?_insert hu i
    · cases h

/-- A row of a token table after a commit: as it was, or consumed under its lock. -/
def Spent (locks : List RowLock) (k : TokenKind) (i : Id) (o o' : Option OneTimeToken) : Prop :=
  o' = o ∨ .token k i ∈ locks ∧ ∃ t now, o = some t ∧ o' = some { t with consumedAt := some now }

/-- No token is issued, and those that are consumed are locked. -/
def Spends (locks : List RowLock) (d e : DB) : Prop :=
  ∀ k i, Spent locks k i ((k.table d).get? i) ((k.table e).get? i)

theorem spends_refl (locks : List RowLock) (d : DB) : Spends locks d d := fun _ _ => .inl rfl

theorem spends_of_table (h : ∀ k : TokenKind, k.table e = k.table d) : Spends locks d e :=
  fun k i => .inl (by rw [h k])

theorem Spends.trans (h : Spends locks d e) (h' : Spends locks e m) : Spends locks d m := by
  intro k i
  rcases h' k i with he | ⟨hlock, t, now, ht, he⟩
  · rw [he]
    exact h k i
  · rcases h k i with hd | ⟨-, t', now', ht', hd⟩
    · exact .inr ⟨hlock, t, now, hd ▸ ht, he⟩
    · obtain rfl := Option.some.inj (hd.symm.trans ht)
      exact .inr ⟨hlock, t', now, ht', he⟩

theorem spends_consume (rows : List Id) (now : Time) (d : DB) (h : ∀ i ∈ rows, .token k i ∈ locks) :
    Spends locks d (k.consume rows now d) := by
  intro k' i
  rw [get?_consume]
  split
  · rename_i hk
    subst hk
    cases ht : (k'.table d).get? i with
    | none => exact .inl rfl
    | some t =>
      by_cases hmem : t.id ∈ rows
      · refine .inr ⟨?_, t, now, rfl, by rw [Option.map_some, if_pos hmem]⟩
        rw [← Table.key_of_get? ht]
        exact h _ hmem
      · exact .inl (by rw [Option.map_some, if_neg hmem])
  · exact .inl rfl

/-- A commit of a session with the locks: it consumes, and issues under the lock of the user if
need be. -/
def Commits (locks : List RowLock) (d e : DB) : Prop :=
  ∃ m, Spends locks d m ∧ (e = m ∨ ∃ (k : TokenKind) (t : OneTimeToken),
    (∀ r ∈ k.guard t.userId, r ∈ locks) ∧ k.insert t m = some e)

theorem commits_of_spends (h : Spends locks d e) : Commits locks d e := ⟨e, h, .inl rfl⟩

theorem next_db {p : TokenStage} (h : p.commits = false) : (p.next d).2 = d := by
  cases p
  case superseded | retracted | verified | refused | rotated | frozen => cases h
  all_goals
    rw [TokenStage.next]
    repeat' split
    all_goals rfl

theorem next_cases (p : TokenStage) (d : DB) : Spends p.holds d (p.next d).2 ∨
    ∃ k userId a seen rows e, p = .superseded k userId a seen rows ∧
      k.insert (newToken a userId) (k.consume rows a.now d) = some e ∧
      p.next d = (.inl (.deliver k a), e) := by
  cases p with
  | superseded k userId a seen rows =>
    rw [TokenStage.next]
    split
    · exact .inl (spends_refl _ d)
    · rename_i e he
      exact .inr ⟨k, userId, a, seen, rows, e, rfl, he, rfl⟩
  | retracted k a rows =>
    exact .inl (spends_consume rows a.now d fun i hi => List.mem_map_of_mem hi)
  | verified record now =>
    refine .inl ((spends_consume [record.id] now d fun i hi => ?_).trans
      (spends_of_table fun k => by cases k <;> rfl))
    obtain rfl := List.mem_singleton.1 hi
    exact .tail _ (.head _)
  | refused record a user rows =>
    exact .inl (spends_consume rows a.now d fun i hi =>
      List.mem_append_right _ (List.mem_map_of_mem hi))
  | rotated record a passwordHash =>
    refine .inl ((spends_consume [record.id] a.now d fun i hi => ?_).trans
      (spends_of_table fun k => by cases k <;> rfl))
    obtain rfl := List.mem_singleton.1 hi
    exact .tail _ (.head _)
  | frozen userId now emails resets =>
    refine .inl (((spends_consume emails now d fun i hi => ?_).trans
      (spends_consume resets now _ fun i hi => ?_)).trans
        (spends_of_table fun k => by cases k <;> rfl))
    · exact List.mem_append_left _ (.tail _ (List.mem_map_of_mem hi))
    · exact List.mem_append_right _ (List.mem_map_of_mem hi)
  | _ =>
    rw [next_db rfl]
    exact .inl (spends_refl _ d)

theorem commits_next (p : TokenStage) (d : DB) : Commits p.holds d (p.next d).2 := by
  rcases next_cases p d with h | ⟨k, userId, a, seen, rows, e, rfl, he, hnext⟩
  · exact commits_of_spends h
  · rw [hnext]
    exact ⟨_, spends_consume rows a.now d fun i hi =>
      List.mem_append_right _ (List.mem_map_of_mem hi),
        .inr ⟨k, newToken a userId, fun r hr => List.mem_append_left _ hr, he⟩⟩

/-! ## What sessions rely on -/

theorem stillOpen_iff : stillOpen k d i ↔ ∃ t, (k.table d).get? i = some t ∧
    t.consumedAt = none := by
  unfold stillOpen
  cases (k.table d).get? i with
  | none => simp
  | some t => simp

theorem mem_openRows : i ∈ openRows k userId d ↔
    ∃ t, (k.table d).get? i = some t ∧ t.userId = userId ∧ t.consumedAt = none := by
  unfold openRows
  rw [List.mem_map]
  constructor
  · rintro ⟨t, ht, rfl⟩
    obtain ⟨hmem, hopen⟩ := List.mem_filter.1 ht
    rw [isOpenOf, Bool.and_eq_true, decide_eq_true_eq, Option.isNone_iff_eq_none] at hopen
    exact ⟨t, Table.get?_of_mem hmem, hopen⟩
  · rintro ⟨t, ht, huser, hopen⟩
    refine ⟨t, List.mem_filter.2 ⟨Table.mem_of_get? ht, ?_⟩, Table.key_of_get? ht⟩
    rw [isOpenOf, Bool.and_eq_true, decide_eq_true_eq, Option.isNone_iff_eq_none]
    exact ⟨huser, hopen⟩

theorem Commits.row (h : Commits locks d e) (k : TokenKind) (i : Id) :
    Spent locks k i ((k.table d).get? i) ((k.table e).get? i) ∨
      (k.table d).get? i = none ∧ ∃ t, (k.table e).get? i = some t ∧
      ∀ r ∈ k.guard t.userId, r ∈ locks := by
  obtain ⟨m, hspends, rfl | ⟨k', t, hguard, hinsert⟩⟩ := h
  · exact .inl (hspends k i)
  · obtain ⟨hnone, hget⟩ := get?_insert hinsert
    rw [hget]
    split
    · rename_i hk
      obtain ⟨rfl, rfl⟩ := hk
      rcases hspends k t.id with hsame | ⟨-, t', now, -, he⟩
      · exact .inr ⟨hsame.symm.trans hnone, t, rfl, hguard⟩
      · rw [hnone] at he
        cases he
    · exact .inl (hspends k i)

theorem Commits.there (h : Commits locks d e) (hi : ((k.table d).get? i).isSome) :
    ((k.table e).get? i).isSome := by
  rcases h.row k i with (hsame | ⟨-, t, now, -, he⟩) | ⟨hnone, -⟩
  · rwa [hsame]
  · rw [he]
    rfl
  · rw [hnone] at hi
    cases hi

theorem Commits.stillOpen (h : Commits locks d e) (hlock : .token k i ∉ locks)
    (hopen : stillOpen k d i) :
    stillOpen k e i := by
  rw [stillOpen_iff] at hopen ⊢
  obtain ⟨t, ht, hnone⟩ := hopen
  rcases h.row k i with (hsame | ⟨hmem, -⟩) | ⟨hd, -⟩
  · exact ⟨t, hsame.trans ht, hnone⟩
  · exact absurd hmem hlock
  · rw [ht] at hd
    cases hd

theorem Commits.stillOpen_of (h : Commits locks d e) (hi : ((k.table d).get? i).isSome)
    (hopen : Kunlun.stillOpen k e i) :
    Kunlun.stillOpen k d i := by
  rw [stillOpen_iff] at hopen ⊢
  obtain ⟨t, ht, hnone⟩ := hopen
  rcases h.row k i with (hsame | ⟨-, t', now, -, he⟩) | ⟨hd, -⟩
  · exact ⟨t, hsame.symm.trans ht, hnone⟩
  · obtain rfl := Option.some.inj (he.symm.trans ht)
    cases hnone
  · rw [hd] at hi
    cases hi

theorem Commits.openRows_of (h : Commits locks d e) (hguard : ¬ ∀ r ∈ k.guard userId, r ∈ locks)
    (hi : i ∈ openRows k userId e) : i ∈ openRows k userId d := by
  rw [mem_openRows] at hi ⊢
  obtain ⟨t, ht, huser, hopen⟩ := hi
  rcases h.row k i with (hsame | ⟨-, t', now, -, he⟩) | ⟨-, t', he, hlocks⟩
  · exact ⟨t, hsame.symm.trans ht, huser, hopen⟩
  · obtain rfl := Option.some.inj (he.symm.trans ht)
    cases hopen
  · obtain rfl := Option.some.inj (he.symm.trans ht)
    rw [huser] at hlocks
    exact absurd hlocks hguard

/-- The row of the token that was read. -/
def Named (k : TokenKind) (record : OneTimeToken) (d : DB) : Prop :=
  ∃ t, (k.table d).get? record.id = some t ∧ t.tokenDigest = record.tokenDigest ∧
    t.userId = record.userId

theorem Named.commits {record : OneTimeToken} (hn : Named k record d)
    (h : Commits locks d e) : Named k record e := by
  obtain ⟨t, ht, hdigest, huser⟩ := hn
  rcases h.row k record.id with (hsame | ⟨-, t', now, hd, he⟩) | ⟨hnone, -⟩
  · exact ⟨t, hsame.trans ht, hdigest, huser⟩
  · obtain rfl := Option.some.inj (ht.symm.trans hd)
    exact ⟨_, he, hdigest, huser⟩
  · rw [hnone] at ht
    cases ht

/-- The rows are there. Where the user is locked, they are all that are open. -/
structure Covers (k : TokenKind) (userId : Id) (seen : List Id) (d : DB) : Prop where
  there : ∀ i ∈ seen, ((k.table d).get? i).isSome
  all : k.guard userId ≠ [] → ∀ i ∈ openRows k userId d, i ∈ seen

theorem Covers.commits {seen : List Id} (hc : Covers k userId seen d) (h : Commits locks d e)
    (hlocks : ∀ r ∈ locks, r ∉ k.guard userId) : Covers k userId seen e := by
  refine ⟨fun i hi => h.there (hc.there i hi), fun hguard i hi =>
    hc.all hguard i (h.openRows_of ?_ hi)⟩
  obtain ⟨r, hr⟩ := List.exists_mem_of_ne_nil _ hguard
  exact fun hall => hlocks r (hall r hr) hr

/-- What holds when a session is at the stage. -/
def Before : TokenStage → DB → Prop
  | .superseding k userId _ seen, d => Covers k userId seen d
  | .superseded k userId _ seen rows, d =>
    Covers k userId seen d ∧ rows ⊆ seen ∧ ∀ i ∈ seen, stillOpen k d i → i ∈ rows
  | .verify record _, d => Named .email record d
  | .verifying record _, d => Named .email record d
  | .verified record _, d => Named .email record d ∧ stillOpen .email d record.id
  | .reset record _, d => Named .reset record d
  | .resetting record _ _, d => Named .reset record d
  | .rotate record _ _, d => Named .reset record d
  | .rotated record _ _, d => Named .reset record d ∧ stillOpen .reset d record.id
  | _, _ => True

theorem before_stable (q : TokenStage) (d e : DB) (locks : List RowLock) (hq : Before q d)
    (h : Commits locks d e)
    (hlocks : ∀ r ∈ locks, r ∉ q.holds) : Before q e := by
  cases q with
  | superseding k userId a seen => exact Covers.commits hq h hlocks
  | superseded k userId a seen rows =>
    obtain ⟨hcovers, hrows, hopen⟩ := hq
    refine ⟨hcovers.commits h fun r hr hmem => hlocks r hr (List.mem_append_left _ hmem), hrows,
      fun i hi hstill => ?_⟩
    exact hopen i hi (h.stillOpen_of (hcovers.there i hi) hstill)
  | verify record now => exact Named.commits hq h
  | verifying record now => exact Named.commits hq h
  | verified record now =>
    exact ⟨hq.1.commits h, h.stillOpen (fun hr => hlocks _ hr (.tail _ (.head _))) hq.2⟩
  | reset record a => exact Named.commits hq h
  | resetting record a user => exact Named.commits hq h
  | rotate record a passwordHash => exact Named.commits hq h
  | rotated record a passwordHash =>
    exact ⟨hq.1.commits h, h.stillOpen (fun hr => hlocks _ hr (.tail _ (.head _))) hq.2⟩
  | _ => trivial

theorem named_of_find {record : OneTimeToken} {p : OneTimeToken → Bool} {q : OneTimeToken → Bool}
    (h : ((k.table d).rows.find? p).filter q = some record) : Named k record d := by
  obtain ⟨hfound, -⟩ := Option.filter_eq_some_iff.1 h
  exact ⟨record, Table.get?_of_mem (List.mem_of_find?_eq_some hfound), rfl, rfl⟩

theorem before_call (c : TokenCall) (d : DB) (q : TokenStage)
    (hq : c.next d = .inl q) : Before q d := by
  cases c with
  | consumeEmailVerification digest now =>
    rw [TokenCall.next] at hq
    split at hq
    · cases hq
    · rename_i record hfound
      cases hq
      exact named_of_find hfound
  | resetPassword a =>
    rw [TokenCall.next] at hq
    split at hq
    · cases hq
    · rename_i record hfound
      cases hq
      exact named_of_find hfound
  | _ =>
    rw [TokenCall.next] at hq
    split at hq
    · cases hq
    · cases hq
      trivial

/-- Each statement leaves its session where the next one can start. -/
theorem before_next (p : TokenStage) (d : DB) (hp : Before p d) (q : TokenStage)
    (hq : (p.next d).1 = .inl q) :
    Before q (p.next d).2 := by
  cases p with
  | call c => exact before_call c d q hq
  | supersede k userId a =>
    cases hq
    refine ⟨fun i hi => ?_, fun _ i hi => hi⟩
    obtain ⟨t, ht, -⟩ := mem_openRows.1 hi
    show ((k.table d).get? i).isSome
    rw [ht]
    rfl
  | superseding k userId a seen =>
    cases hq
    exact ⟨hp, List.filter_subset_self _, fun i hi hopen => List.mem_filter.2 ⟨hi, hopen⟩⟩
  | verify record now =>
    rw [next_db rfl]
    rw [TokenStage.next] at hq
    split at hq
    · cases hq
    · cases hq
      exact hp
  | verifying record now =>
    rw [next_db rfl]
    rw [TokenStage.next] at hq
    split at hq
    · cases hq
    · split at hq
      · rename_i hopen
        cases hq
        exact ⟨hp, hopen⟩
      · cases hq
  | reset record a =>
    cases hq
    exact hp
  | resetting record a user =>
    rw [next_db rfl]
    rw [TokenStage.next] at hq
    split at hq
    · cases hq
      trivial
    · split at hq
      · cases hq
      · split at hq
        · cases hq
        · cases hq
          exact hp
  | rotate record a passwordHash =>
    rw [next_db rfl]
    rw [TokenStage.next] at hq
    split at hq
    · cases hq
    · rename_i t hfound
      cases hq
      obtain ⟨ht, hopen⟩ := Option.filter_eq_some_iff.1 hfound
      exact ⟨hp, stillOpen_iff.2 ⟨t, ht, (of_decide_eq_true hopen).1⟩⟩
  | requesting userId a | superseded k userId a seen rows | deliver k a =>
    rw [TokenStage.next] at hq
    split at hq <;> cases hq
    trivial
  | freeze userId now | freezing userId now seen | freezeMore userId now emails | freezingMore userId now emails seen =>
    cases hq
    trivial
  | _ => cases hq

def proof : Locking.Proof tokenCalls where
  before := Before
  guarantee := Commits
  own p d hp := ⟨commits_next p d, before_next p d hp⟩
  stable := before_stable

/-! ## Successes -/

/-- The token that the call is about. -/
def record : TokenStage → Option (TokenKind × OneTimeToken)
  | .verify record _ | .verifying record _ | .verified record _ => some (.email, record)
  | .reset record _ | .resetting record _ _ | .refused record _ _ _ | .rotate record _
    _ | .rotated record _ _ =>
    some (.reset, record)
  | _ => none

/-- The token of a call that is about to answer with success. -/
def consumed (p : TokenStage) (d : DB) : Option (TokenKind × OneTimeToken) :=
  if (p.next d).1.getRight? = some (.ok (.bool true)) then record p else none

theorem consumed_cases {p : TokenStage} {t : OneTimeToken} (h : consumed p d = some (k, t)) :
    (∃ now, k = .email ∧ p = .verified t now) ∨ ∃ a passwordHash, k = .reset ∧
    p = .rotated t a passwordHash := by
  unfold consumed at h
  split at h
  · rename_i htrue
    cases p with
    | verified record now =>
      cases h
      exact .inl ⟨now, rfl, rfl⟩
    | rotated record a passwordHash =>
      cases h
      exact .inr ⟨a, passwordHash, rfl, rfl⟩
    | verify | verifying | reset | resetting | refused | rotate =>
      rw [TokenStage.next] at htrue
      revert htrue
      repeat' split
      all_goals simp
    | _ => cases h
  · cases h

/-! ### Once -/

/-- The tables have their unique indexes on the digests. -/
def UniqueDigests (d : DB) : Prop :=
  ∀ k : TokenKind, ∀ t ∈ (k.table d).rows, ∀ t' ∈ (k.table d).rows,
    t.tokenDigest = t'.tokenDigest → t = t'

theorem Spends.digest (h : Spends locks d e) {t : OneTimeToken} (ht : (k.table e).get? i = some t) :
    ∃ t', (k.table d).get? i = some t' ∧ t'.tokenDigest = t.tokenDigest := by
  rcases h k i with hsame | ⟨-, t', now, hd, he⟩
  · exact ⟨t, hsame.symm.trans ht, rfl⟩
  · obtain rfl := Option.some.inj (he.symm.trans ht)
    exact ⟨t', hd, rfl⟩

theorem UniqueDigests.spends (hd : UniqueDigests d) (h : Spends locks d e) : UniqueDigests e := by
  intro k t ht t' ht' hsame
  obtain ⟨u, hu, hdigest⟩ := h.digest (Table.get?_of_mem ht)
  obtain ⟨u', hu', hdigest'⟩ := h.digest (Table.get?_of_mem ht')
  have huu := hd k u (Table.mem_of_get? hu) u' (Table.mem_of_get? hu')
    (hdigest.trans (hsame.trans hdigest'.symm))
  refine Table.eq_of_mem_of_key ht ht' ?_
  rw [← Table.key_of_get? hu, ← Table.key_of_get? hu', huu]

theorem unique_of_insert {t : OneTimeToken} (h : k.insert t d = some e) :
    unique (k.table e).rows fun t => some t.tokenDigest := by
  cases k
  all_goals
    simp only [TokenKind.insert, DB.insertEmailToken, DB.insertResetToken,
      Option.bind_eq_some_iff] at h
    obtain ⟨u, -, h⟩ := h
    split at h
    · cases h
      assumption
    · cases h

theorem UniqueDigests.insert {t : OneTimeToken} (hd : UniqueDigests d)
    (h : k.insert t d = some e) : UniqueDigests e := by
  intro k' x hx y hy hxy
  by_cases hk : k' = k
  · subst hk
    exact unique_injective (unique_of_insert h) hx hy hxy
  · have hmem (x : OneTimeToken) (hx : x ∈ (k'.table e).rows) : x ∈ (k'.table d).rows := by
      have hget := (get?_insert h).2 k' x.id
      rw [if_neg fun h => hk h.1, Table.get?_of_mem hx] at hget
      exact Table.mem_of_get? hget.symm
    exact hd k' x (hmem x hx) y (hmem y hy) hxy

theorem UniqueDigests.next (hd : UniqueDigests d) (p : TokenStage) :
    UniqueDigests (p.next d).2 := by
  rcases next_cases p d with h | ⟨k, userId, a, seen, rows, e, rfl, he, hnext⟩
  · exact hd.spends h
  · rw [hnext]
    have hspends : Spends (rows.map (.token k)) d (k.consume rows a.now d) :=
      spends_consume rows a.now d fun i hi => List.mem_map_of_mem hi
    exact (hd.spends hspends).insert he

/-- The token is consumed. -/
def Gone (k : TokenKind) (digest : String) (d : DB) : Prop :=
  ∃ i t, (k.table d).get? i = some t ∧ t.tokenDigest = digest ∧ t.consumedAt ≠ none

theorem Gone.commits {digest : String} (hg : Gone k digest d)
    (h : Commits locks d e) : Gone k digest e := by
  obtain ⟨i, t, ht, hdigest, hgone⟩ := hg
  rcases h.row k i with (hsame | ⟨-, t', now, hd, he⟩) | ⟨hnone, -⟩
  · exact ⟨i, t, hsame.trans ht, hdigest, hgone⟩
  · obtain rfl := Option.some.inj (ht.symm.trans hd)
    exact ⟨i, _, he, hdigest, Option.some_ne_none now⟩
  · rw [hnone] at ht
    cases ht

theorem gone_consume {t : OneTimeToken} (hn : Named k t d) (now : Time) :
    Gone k t.tokenDigest (k.consume [t.id] now d) := by
  obtain ⟨t', ht', hdigest, -⟩ := hn
  refine ⟨t.id, { t' with consumedAt := some now }, ?_, hdigest, Option.some_ne_none now⟩
  rw [get?_consume, if_pos rfl, ht', Option.map_some, if_pos]
  exact List.mem_singleton.2 (Table.key_of_get? ht')

theorem gone_of_table {digest : String} (h : k.table e = k.table d)
    (hg : Gone k digest d) : Gone k digest e := by
  unfold Gone
  rwa [h]

theorem consumed_gone {p : TokenStage} {t : OneTimeToken} (hp : Before p d)
    (h : consumed p d = some (k, t)) :
    Named k t d ∧ stillOpen k d t.id ∧ Gone k t.tokenDigest (p.next d).2 := by
  rcases consumed_cases h with ⟨now, rfl, rfl⟩ | ⟨a, passwordHash, rfl, rfl⟩
  · obtain ⟨hn, hopen⟩ := hp
    exact ⟨hn, hopen, gone_of_table rfl (gone_consume hn now)⟩
  · obtain ⟨hn, hopen⟩ := hp
    exact ⟨hn, hopen, gone_of_table rfl (gone_consume hn a.now)⟩

theorem not_gone {t : OneTimeToken} (hd : UniqueDigests d) (hn : Named k t d)
    (hopen : stillOpen k d t.id) :
    ¬ Gone k t.tokenDigest d := by
  rintro ⟨i, t', ht', hdigest', hgone⟩
  obtain ⟨u, hu, hdigest, -⟩ := hn
  obtain ⟨v, hv, hnone⟩ := stillOpen_iff.1 hopen
  obtain rfl := Option.some.inj (hu.symm.trans hv)
  rw [hd k t' (Table.mem_of_get? ht') u (Table.mem_of_get? hu)
    (hdigest'.trans hdigest.symm)] at hgone
  exact hgone hnone

theorem consumed_ends {p : TokenStage} {x : TokenKind × OneTimeToken} (h : consumed p d = some x) :
    (p.next d).1.getLeft? = none := by
  unfold consumed at h
  split at h
  · rename_i htrue
    rw [Sum.getRight?_eq_some_iff] at htrue
    rw [htrue]
    rfl
  · cases h

/-! ### One open token -/

theorem Spends.openRows_subset (h : Spends locks d e) (k : TokenKind) (userId : Id) :
    openRows k userId e ⊆ openRows k userId d := by
  intro i hi
  rw [mem_openRows] at hi ⊢
  obtain ⟨t, ht, huser, hopen⟩ := hi
  rcases h k i with hsame | ⟨-, t', now, -, he⟩
  · exact ⟨t, hsame.symm.trans ht, huser, hopen⟩
  · obtain rfl := Option.some.inj (he.symm.trans ht)
    cases hopen

theorem openRows_nodup (k : TokenKind) (userId : Id) (d : DB) : (openRows k userId d).Nodup :=
  (k.table d).unique.sublist (List.filter_sublist.map OneTimeToken.id)

theorem Spends.openRows_le (h : Spends locks d e) (k : TokenKind) (userId : Id) :
    (openRows k userId e).length ≤ (openRows k userId d).length :=
  (List.subperm_of_subset (openRows_nodup k userId e) (h.openRows_subset k userId)).length_le

theorem mem_openRows_consume {rows : List Id} {now : Time} :
    i ∈ openRows k' userId (k.consume rows now d) ↔
    i ∈ openRows k' userId d ∧ ¬ (k' = k ∧ i ∈ rows) := by
  rw [mem_openRows, mem_openRows, get?_consume]
  split
  · rename_i hk
    subst hk
    cases ht : (k'.table d).get? i with
    | none => simp
    | some t =>
      obtain rfl := Table.key_of_get? ht
      by_cases hmem : t.id ∈ rows
      · simp [hmem]
      · simp [hmem]
  · rename_i hk
    simp [hk]

theorem mem_openRows_insert {t : OneTimeToken} (h : k.insert t d = some e)
    (hopen : t.consumedAt = none) :
    i ∈ openRows k' userId e ↔ (k' = k ∧ userId = t.userId ∧ i = t.id) ∨
    i ∈ openRows k' userId d := by
  obtain ⟨hnone, hget⟩ := get?_insert h
  rw [mem_openRows, mem_openRows, hget]
  split
  · rename_i hk
    obtain ⟨rfl, rfl⟩ := hk
    rw [hnone]
    simp [hopen, eq_comm]
  · rename_i hk
    constructor
    · exact .inr
    · rintro (⟨rfl, -, rfl⟩ | h)
      · exact absurd ⟨rfl, rfl⟩ hk
      · exact h

theorem mem_openRows_issue {a : TokenArgs} {u : Id} {rows : List Id}
    (h : k.insert (newToken a u) (k.consume rows a.now d) = some e) :
    i ∈ openRows k' userId e ↔ (k' = k ∧ userId = u ∧ i = a.tokenId) ∨ i ∈ openRows k' userId d ∧
    ¬ (k' = k ∧ i ∈ rows) := by
  rw [mem_openRows_insert h rfl, mem_openRows_consume]
  rfl

section Issue

variable {a : TokenArgs} {u : Id} {rows : List Id}
  (h : k.insert (newToken a u) (k.consume rows a.now d) = some e)
include h

theorem issue_single (hall : ∀ i ∈ openRows k u d, i ∈ rows) : (openRows k u e).length ≤ 1 := by
  have hsubset : openRows k u e ⊆ [a.tokenId] := by
    intro i hi
    rcases (mem_openRows_issue h).1 hi with ⟨-, -, rfl⟩ | ⟨hopen, hnot⟩
    · exact .head _
    · exact absurd ⟨rfl, hall i hopen⟩ hnot
  exact (List.subperm_of_subset (openRows_nodup k u e) hsubset).length_le

theorem issue_other (hne : ¬ (k' = k ∧ userId = u)) : (openRows k' userId e).length ≤
    (openRows k' userId d).length := by
  have hsubset : openRows k' userId e ⊆ openRows k' userId d := by
    intro i hi
    rcases (mem_openRows_issue h).1 hi with ⟨hk, hu, -⟩ | ⟨hopen, -⟩
    · exact absurd ⟨hk, hu⟩ hne
    · exact hopen
  exact (List.subperm_of_subset (openRows_nodup k' userId e) hsubset).length_le

theorem issue_second (hopen : i ∈ openRows k u d) (hnot : i ∉ rows) :
    2 ≤ (openRows k u e).length := by
  have hne : i ≠ a.tokenId := by
    rintro rfl
    obtain ⟨t, ht, -⟩ := mem_openRows.1 hopen
    have hnone : (k.table (k.consume rows a.now d)).get? a.tokenId = none := (get?_insert h).1
    rw [get?_consume, if_pos rfl, ht] at hnone
    cases hnone
  have hnodup : [i, a.tokenId].Nodup := by simp [hne]
  have hsubset : [i, a.tokenId] ⊆ openRows k u e := by
    intro x hx
    rw [mem_openRows_issue h]
    rcases List.mem_pair.1 hx with rfl | rfl
    · exact .inr ⟨hopen, fun hr => hnot hr.2⟩
    · exact .inl ⟨rfl, rfl, rfl⟩
  exact (List.subperm_of_subset hnodup hsubset).length_le

end Issue

/-- An issue that is about to commit a verification token of the user has seen all that are open. -/
def SeesAll (userId : Id) : TokenStage → DB → Prop
  | .superseded .email u a seen rows, d =>
    u = userId → (TokenStage.next (.superseded .email u a seen rows) d).1.isLeft →
      ∀ i ∈ openRows .email userId d, i ∈ seen
  | _, _ => True

instance (userId : Id) (p : TokenStage) (d : DB) : Decidable (SeesAll userId p d) := by
  unfold SeesAll
  split <;> infer_instance

/-- One commit leaves one open token of the user, exactly if no open one has been overlooked. -/
theorem single_next {p : TokenStage} (hp : Before p d)
    (hd : ∀ k, (openRows k userId d).length ≤ 1) :
    (∀ k, (openRows k userId (p.next d).2).length ≤ 1) ↔ SeesAll userId p d := by
  by_cases hissue : ∃ k u a seen rows e, p = .superseded k u a seen rows ∧
    k.insert (newToken a u) (k.consume rows a.now d) = some e
  · obtain ⟨k, u, a, seen, rows, e, rfl, he⟩ := hissue
    obtain ⟨hcovers, hrows, hopen⟩ := hp
    have hnext : TokenStage.next (.superseded k u a seen rows) d = (.inl (.deliver k a), e) := by
      rw [TokenStage.next, he]
    have hseen (hall : ∀ i ∈ openRows k u d, i ∈ seen) : ∀ i ∈ openRows k u d, i ∈ rows := by
      intro i hi
      obtain ⟨t, ht, -, hnone⟩ := mem_openRows.1 hi
      exact hopen i (hall i hi) (stillOpen_iff.2 ⟨t, ht, hnone⟩)
    rw [hnext]
    by_cases hu : u = userId
    · subst hu
      have hkinds (hall : ∀ i ∈ openRows k u d, i ∈ seen) (k' : TokenKind) :
          (openRows k' u e).length ≤ 1 := by
        by_cases hk : k' = k
        · subst hk
          exact issue_single he (hseen hall)
        · exact (issue_other he fun h => hk h.1).trans (hd k')
      cases k with
      | reset => exact ⟨fun _ => trivial, fun _ => hkinds (hcovers.all (List.cons_ne_nil _ _))⟩
      | email =>
        constructor
        · intro h _ _ i hi
          by_contra hnot
          have htwo := issue_second he hi fun hr => hnot (hrows hr)
          have hone : (openRows .email u e).length ≤ 1 := h .email
          omega
        · exact fun h => hkinds (h rfl (by rw [hnext]; rfl))
    · constructor
      · intro _
        cases k with
        | reset => trivial
        | email => exact fun h => absurd h hu
      · exact fun _ k' => (issue_other he fun h => hu h.2.symm).trans (hd k')
  · have hspends : Spends p.holds d (p.next d).2 := by
      rcases next_cases p d with h | ⟨k, u, a, seen, rows, e, rfl, he, -⟩
      · exact h
      · exact absurd ⟨k, u, a, seen, rows, e, rfl, he⟩ hissue
    refine ⟨fun _ => ?_, fun _ k => (hspends.openRows_le k userId).trans (hd k)⟩
    cases p with
    | superseded k u a seen rows =>
      cases k with
      | reset => trivial
      | email =>
        intro _ hleft
        rw [TokenStage.next] at hleft
        split at hleft
        · cases hleft
        · rename_i e he
          exact absurd ⟨_, u, a, seen, rows, e, rfl, he⟩ hissue
    | _ => trivial

/-! ### Credentials -/

/-- No session and no key of the user is active. -/
structure Dead (userId : Id) (d : DB) : Prop where
  sessions : ∀ x ∈ d.accessSessions.rows, x.userId = userId → x.revoked
  keys : ∀ x ∈ d.apiKeys.rows, x.userId = userId → x.status = .revoked

theorem dead_rotateAll (userId : Id) (passwordHash : String) (d : DB) :
    Dead userId (rotateAll userId passwordHash d) := by
  constructor
  · intro x hx huser
    rw [rotateAll, Table.mem_update] at hx
    obtain ⟨y, hy, rfl⟩ := hx
    split at huser
    · rw [if_pos ‹_›]
    · rename_i hne
      exact absurd (decide_eq_true huser) hne
  · intro x hx huser
    rw [rotateAll, Table.mem_update] at hx
    obtain ⟨y, hy, rfl⟩ := hx
    split at huser
    · rw [if_pos ‹_›]
    · rename_i hne
      rw [if_neg hne]
      cases hstatus : y.status with
      | revoked => rfl
      | active => simp [huser, hstatus] at hne

theorem Dead.of_eq (hd : Dead userId d) (hs : e.accessSessions = d.accessSessions)
    (hk : e.apiKeys = d.apiKeys) :
    Dead userId e := ⟨hs ▸ hd.sessions, hk ▸ hd.keys⟩

theorem credentials_consume (k : TokenKind) (rows : List Id) (now : Time) (d : DB) :
    (k.consume rows now d).accessSessions = d.accessSessions ∧
    (k.consume rows now d).apiKeys = d.apiKeys := by
  cases k <;> exact ⟨rfl, rfl⟩

theorem Dead.freezeAll {u : Id} (hd : Dead userId d) : Dead userId (freezeAll u d) := by
  constructor
  · exact Table.forall_update hd.sessions fun x _ _ _ => rfl
  · exact Table.forall_update hd.keys fun x _ _ _ => rfl

theorem Dead.rotateAll {u : Id} {passwordHash : String} (hd : Dead userId d) :
    Dead userId (rotateAll u passwordHash d) := by
  constructor
  · exact Table.forall_update hd.sessions fun x _ _ _ => rfl
  · exact Table.forall_update hd.keys fun x _ _ _ => rfl

theorem Dead.consume (hd : Dead userId d) (k : TokenKind) (rows : List Id) (now : Time) :
    Dead userId (k.consume rows now d) :=
  hd.of_eq (credentials_consume k rows now d).1 (credentials_consume k rows now d).2

theorem Dead.insert {t : OneTimeToken} (hd : Dead userId d)
    (h : k.insert t d = some e) : Dead userId e := by
  cases k
  all_goals
    simp only [TokenKind.insert, DB.insertEmailToken, DB.insertResetToken,
      Option.bind_eq_some_iff] at h
    obtain ⟨u, -, h⟩ := h
    split at h
    · cases h
      exact hd.of_eq rfl rfl
    · cases h

theorem Dead.next (hd : Dead userId d) (p : TokenStage) : Dead userId (p.next d).2 := by
  cases p with
  | superseded k u a seen rows =>
    rw [TokenStage.next]
    split
    · exact hd
    · exact (hd.consume k rows a.now).insert ‹_›
  | retracted k a rows => exact hd.consume k rows a.now
  | verified record now => exact (hd.consume .email [record.id] now).of_eq rfl rfl
  | refused record a user rows => exact hd.consume .reset rows a.now
  | rotated record a passwordHash => exact (hd.consume .reset [record.id] a.now).rotateAll
  | frozen u now emails resets =>
    exact ((hd.consume .email emails now).consume .reset resets now).freezeAll
  | _ =>
    rw [next_db rfl]
    exact hd

theorem consumed_dead {p : TokenStage} {t : OneTimeToken} (h : consumed p d = some (.reset, t)) :
    Dead t.userId (p.next d).2 := by
  rcases consumed_cases h with ⟨now, hk, -⟩ | ⟨a, passwordHash, -, rfl⟩
  · cases hk
  · exact dead_rotateAll t.userId passwordHash _

/-! ## Runs -/

section Runs

variable {n : Nat} {s : Locking.State DB TokenStage n}

/-- What the step of a session consumes with success. -/
def consumption : Locking.Action n → Locking.State DB TokenStage n →
    Option (TokenKind × OneTimeToken)
  | .go i, s => (s.stage i).bind fun p => consumed p s.db
  | .abort _, _ => none

def consumes (k : TokenKind) (digest : String) (a : Locking.Action n)
    (s : Locking.State DB TokenStage n) : Bool :=
  (consumption a s).any fun x => decide (x.1 = k) && decide (x.2.tokenDigest = digest)

/-- A step of a session about which the stage says something. -/
def Allows (P : TokenStage → DB → Prop) : Locking.Action n → Locking.State DB TokenStage n → Prop
  | .go i, s => ∀ p ∈ s.stage i, P p s.db
  | .abort _, _ => True

instance (P : TokenStage → DB → Prop) [∀ p d, Decidable (P p d)] :
    (a : Locking.Action n) → (s : Locking.State DB TokenStage n) → Decidable (Allows P a s)
  | .go i, s => inferInstanceAs (Decidable (∀ p ∈ s.stage i, P p s.db))
  | .abort _, _ => isTrue trivial

/-- The calls, none of which has started. -/
def begin (d : DB) (calls : Fin n → TokenCall) : Locking.State DB TokenStage n :=
  Locking.start d fun i => .call (calls i)

theorem sound_begin (d : DB) (calls : Fin n → TokenCall) : Locking.Sound proof (begin d calls) :=
  Locking.sound_start (fun _ => rfl) fun _ => trivial

theorem consumption_step {a : Locking.Action n} {x : TokenKind × OneTimeToken}
    (h : consumption a s = some x) :
    ∃ i p, a = .go i ∧ s.stage i = some p ∧ consumed p s.db = some x ∧
      (tokenCalls.step a s).db = (p.next s.db).2 := by
  cases a with
  | abort i => cases h
  | go i =>
    obtain ⟨p, hp, hx⟩ := Option.bind_eq_some_iff.1 h
    refine ⟨i, p, rfl, hp, hx, ?_⟩
    have hends : tokenCalls.held (tokenCalls.next p s.db).1.getLeft? = [] := by
      show tokenCalls.held (p.next s.db).1.getLeft? = []
      rw [consumed_ends hx]
      rfl
    rw [Locking.step_free hp (Locking.free_nil hends)]
    rfl

/-- What one-time tokens promise to the user, along a run. -/
structure OneTime (userId : Id) (s : Locking.State DB TokenStage n)
    (actions : List (Locking.Action n)) : Prop where
  once : ∀ k digest, Run.count tokenCalls.step (consumes k digest) s actions ≤ 1
  single :
    ∀ xs, xs <+: actions → ∀ k, (openRows k userId (Run.after tokenCalls.step s xs).db).length ≤ 1
  rotated : ∀ xs a ys t, actions = xs ++ a :: ys →
    consumption a (Run.after tokenCalls.step s xs) = some (.reset, t) →
    Dead t.userId (Run.after tokenCalls.step s actions).db

theorem consumes_iff {k : TokenKind} {digest : String} {a : Locking.Action n} :
    consumes k digest a s ↔ ∃ t, consumption a s = some (k, t) ∧ t.tokenDigest = digest := by
  unfold consumes
  rw [Option.any_eq_true]
  constructor
  · rintro ⟨⟨k', t⟩, hx, h⟩
    rw [Bool.and_eq_true, decide_eq_true_eq, decide_eq_true_eq] at h
    obtain ⟨rfl, hdigest⟩ := h
    exact ⟨t, hx, hdigest⟩
  · rintro ⟨t, hx, hdigest⟩
    refine ⟨(k, t), hx, ?_⟩
    rw [Bool.and_eq_true, decide_eq_true_eq, decide_eq_true_eq]
    exact ⟨rfl, hdigest⟩

theorem count_consumes (hs : Locking.Sound proof s) (hd : UniqueDigests s.db)
    (k : TokenKind) (digest : String)
    (actions : List (Locking.Action n)) :
    Run.count tokenCalls.step (consumes k digest) s actions ≤ 1 := by
  have hkeep (s : Locking.State DB TokenStage n) (a : Locking.Action n)
      (h : Locking.Sound proof s ∧ UniqueDigests s.db) (_ : True) :
      Locking.Sound proof (tokenCalls.step a s) ∧ UniqueDigests (tokenCalls.step a s).db :=
    ⟨h.1.step a, Locking.keeps_step (I := UniqueDigests) (fun p _ hd => hd.next p) a h.2⟩
  refine Run.count_le_one (Q := fun s => Gone k digest s.db) hkeep ?spends ?once ⟨hs, hd⟩
    (Locking.along_true tokenCalls.step s actions)
  case spends =>
    intro s a h _ hc
    obtain ⟨t, hx, rfl⟩ := consumes_iff.1 hc
    obtain ⟨i, p, rfl, hp, hx, hstep⟩ := consumption_step hx
    rw [hstep]
    exact (consumed_gone (h.1.before i p hp) hx).2.2
  case once =>
    intro s a h _ hgone
    constructor
    · rw [← Bool.not_eq_true]
      intro hc
      obtain ⟨t, hx, rfl⟩ := consumes_iff.1 hc
      obtain ⟨i, p, rfl, hp, hx, -⟩ := consumption_step hx
      obtain ⟨hn, hopen, -⟩ := consumed_gone (h.1.before i p hp) hx
      exact not_gone h.2 hn hopen hgone
    · rcases Locking.step_cases (L := tokenCalls) a s with
        ⟨i, p, rfl, hp, -, hstep⟩ | hstep | ⟨i, hstep⟩
      · rw [hstep]
        exact hgone.commits (commits_next p s.db)
      · rwa [hstep]
      · rwa [hstep]

theorem rotated_dead {xs ys : List (Locking.Action n)} {a : Locking.Action n} {t : OneTimeToken}
    (h : consumption a (Run.after tokenCalls.step s xs) = some (.reset, t)) :
    Dead t.userId (Run.after tokenCalls.step s (xs ++ a :: ys)).db := by
  rw [Run.after_append, Run.after_cons]
  apply Locking.keeps_after (I := Dead t.userId) fun p d hd => Dead.next hd p
  obtain ⟨i, p, rfl, -, hx, hstep⟩ := consumption_step h
  rw [hstep]
  exact consumed_dead hx

theorem sees_or_unlocked (userId : Id) (p : TokenStage) (d : DB) :
    SeesAll userId p d ∨ tokenCalls.held (p.next d).1.getLeft? = [] := by
  cases p with
  | superseded k u a seen rows =>
    right
    rw [TokenStage.next]
    split
    · rfl
    · rfl
  | _ => exact .inl trivial

theorem single_step {userId : Id} (a : Locking.Action n) (hs : Locking.Sound proof s)
    (hd : ∀ k, (openRows k userId s.db).length ≤ 1) :
    (∀ k, (openRows k userId (tokenCalls.step a s).db).length ≤ 1) ↔
    Allows (SeesAll userId) a s := by
  cases a with
  | abort i => exact ⟨fun _ => trivial, fun _ => hd⟩
  | go i =>
    cases hp : s.stage i with
    | none =>
      rw [Locking.step_ended hp]
      refine ⟨fun _ p hp' => ?_, fun _ => hd⟩
      rw [hp] at hp'
      cases hp'
    | some p =>
      have hallows : Allows (SeesAll userId) (.go i) s ↔ SeesAll userId p s.db := by
        show (∀ p ∈ s.stage i, SeesAll userId p s.db) ↔ _
        rw [hp]
        simp
      rw [hallows]
      by_cases hfree : tokenCalls.Free i (tokenCalls.held (tokenCalls.next p s.db).1.getLeft?) s
      · rw [Locking.step_free hp hfree]
        exact single_next (hs.before i p hp) hd
      · rw [Locking.step_blocked hp hfree]
        refine ⟨fun _ => ?_, fun _ => hd⟩
        rcases sees_or_unlocked userId p s.db with hsees | hlocks
        · exact hsees
        · exact absurd (Locking.free_nil hlocks) hfree

/-- Tokens are one-time along a run exactly if no issue overlooks a verification token of the
user. -/
theorem oneTime_iff (d : DB) (calls : Fin n → TokenCall) (userId : Id)
    (actions : List (Locking.Action n))
    (hdigests : UniqueDigests d) (hd : ∀ k, (openRows k userId d).length ≤ 1) :
    OneTime userId (begin d calls) actions ↔ Run.Along tokenCalls.step (Allows (SeesAll userId))
      (begin d calls) actions := by
  have hs := sound_begin d calls
  have hsingle : (∀ xs, xs <+: actions →
      ∀ k, (openRows k userId (Run.after tokenCalls.step (begin d calls) xs).db).length ≤ 1) ↔
      Run.Along tokenCalls.step (Allows (SeesAll userId)) (begin d calls) actions :=
    Run.always_iff (I := Locking.Sound proof)
      (P := fun s : Locking.State DB TokenStage n => ∀ k, (openRows k userId s.db).length ≤ 1)
      (fun _ a hs => hs.step a) (fun _ a hs hd => single_step a hs hd) hs hd
  constructor
  · exact fun h => hsingle.1 h.single
  · intro h
    refine ⟨fun k digest => count_consumes hs hdigests k digest actions, hsingle.2 h, ?_⟩
    rintro xs a ys t rfl hx
    exact rotated_dead hx

end Runs

/-- An account that waits for its address to be verified. -/
def signup : DB := { DB.empty with
    users := ⟨[⟨"u", "u@example.com", "", .pendingEmail, none⟩], by decide⟩ }

/-- Two verification tokens are issued, and the second is used. -/
def twoIssues : Fin 3 → TokenCall
  | 0 => .issueEmailVerification "u" ⟨"t1", "digest1", 0, 10, true⟩
  | 1 => .issueEmailVerification "u" ⟨"t2", "digest2", 1, 10, true⟩
  | 2 => .consumeEmailVerification "digest2" 2

theorem uniqueDigests_signup : UniqueDigests signup := by
  intro k t ht
  cases k <;> cases ht

theorem openRows_signup (k : TokenKind) : (openRows k "u" signup).length ≤
    1 := by cases k <;> decide

/-- One session after the other. -/
def inTurn : List (Locking.Action 3) :=
  [.go 0, .go 0, .go 0, .go 0, .go 0, .go 1, .go 1, .go 1, .go 1, .go 1, .go 2, .go 2, .go 2, .go 2]

theorem oneTime_inTurn : OneTime "u" (begin signup twoIssues) inTurn :=
  (oneTime_iff signup twoIssues "u" inTurn uniqueDigests_signup openRows_signup).2
    (by decide +kernel)

/-- The second `UPDATE` runs before the first token is committed. -/
def overlapping : List (Locking.Action 3) :=
  [.go 0, .go 0, .go 1, .go 1, .go 0, .go 0, .go 1, .go 1]

theorem overlapping_issues_two_open :
    ¬ ∀ (n : Nat) (d : DB) (calls : Fin n → TokenCall) (userId : Id)
    (actions : List (Locking.Action n)), UniqueDigests d → (∀ k, (openRows k userId d).length ≤ 1) →
      OneTime userId (begin d calls) actions := by
  intro h
  have hone := (h 3 signup twoIssues "u" overlapping uniqueDigests_signup openRows_signup).single _
    (List.prefix_refl _) .email
  exact absurd hone (by decide +kernel)

end Kunlun.Tokens
