import Kunlun.Statements

/-!
# The wallet journal (`services/ledger.py`)
-/

namespace Kunlun

/-- The legs of a journal that are written: the zero ones are dropped. -/
def normalized (entries : List (Account × Int)) : List (Account × Int) :=
  entries.filter fun p => p.2 ≠ 0

def journal (userId : Id) (kind : LedgerKind) (reference idempotencyKey : String)
    (entries : List (Account × Int)) (h : ((normalized entries).map (·.2)).sum = 0) :
    LedgerTransaction where
  userId := userId
  kind := kind
  reference := reference
  idempotencyKey := idempotencyKey
  entries := (normalized entries).map fun p => ⟨userId, p.1, p.2⟩
  owned := by
    intro e he
    obtain ⟨p, -, rfl⟩ := List.mem_map.1 he
    rfl
  nonzero := by
    intro e he
    obtain ⟨p, hp, rfl⟩ := List.mem_map.1 he
    simpa using (List.mem_filter.1 hp).2
  balanced := by simpa [Function.comp_def] using h

/-- The flush writes the header, and the entries follow with the next one. They are one row
here, since nothing reads the journal in between. -/
def postTransaction (userId : Id) (kind : LedgerKind) (reference idempotencyKey : String)
    (entries : List (Account × Int)) : Service Unit :=
  if h : 2 ≤ (normalized entries).length ∧ ((normalized entries).map (·.2)).sum = 0 then do
    Tx.add (DB.insertLedger (journal userId kind reference idempotencyKey entries h.2))
    Tx.flush
  else Tx.raise (.runtimeError "账本分录不平衡")

/-! ## What a journal moves -/

/-- The sum of the legs on one account. -/
def legs (a : Account) (entries : List (Account × Int)) : Int :=
  (entries.map fun p => if p.1 = a then p.2 else 0).sum

@[simp]
theorem legs_nil (a : Account) : legs a [] = 0 := rfl

@[simp]
theorem legs_cons (a : Account) (p : Account × Int) (entries : List (Account × Int)) :
    legs a (p :: entries) = (if p.1 = a then p.2 else 0) + legs a entries := by
  simp [legs]

@[simp]
theorem legs_append (a : Account) (xs ys : List (Account × Int)) :
    legs a (xs ++ ys) = legs a xs + legs a ys := by
  simp [legs]

/-- The sum of a journal's entries on one account. -/
def LedgerTransaction.total (t : LedgerTransaction) (a : Account) : Int :=
  (t.entries.map fun e => if e.account = a then e.amountMicrousd else 0).sum

theorem legs_normalized (a : Account) (entries : List (Account × Int)) :
    legs a (normalized entries) = legs a entries := by
  induction entries with
  | nil => rfl
  | cons p entries ih =>
    by_cases hp : p.2 = 0
    · simp_all [normalized]
    · simp_all [normalized]

@[simp]
theorem total_journal (userId : Id) (kind : LedgerKind) (reference key : String)
    (entries : List (Account × Int)) (h) (a : Account) :
    (journal userId kind reference key entries h).total a = legs a entries := by
  rw [← legs_normalized]
  simp [LedgerTransaction.total, journal, legs, Function.comp_def]

theorem sum_normalized (entries : List (Account × Int)) :
    ((normalized entries).map (·.2)).sum = (entries.map (·.2)).sum := by
  induction entries with
  | nil => rfl
  | cons p entries ih =>
    by_cases hp : p.2 = 0
    · simp_all [normalized]
    · simp_all [normalized]

theorem two_le_normalized {entries : List (Account × Int)} {p q : Account × Int} (hp : p ∈ entries)
    (hq : q ∈ entries) (hne : p ≠ q) (hp0 : p.2 ≠ 0) (hq0 : q.2 ≠ 0) :
    2 ≤ (normalized entries).length := by
  have hpn : p ∈ normalized entries := List.mem_filter.2 ⟨hp, by simpa using hp0⟩
  have hqn : q ∈ normalized entries := List.mem_filter.2 ⟨hq, by simpa using hq0⟩
  match hl : normalized entries, hpn, hqn with
  | [x], hpn, hqn =>
    rw [List.mem_singleton] at hpn hqn
    exact absurd (hpn.trans hqn.symm) hne
  | _ :: _ :: _, _, _ => simp

/-! ## What posting does -/

theorem postTransaction_ok (userId : Id) (kind : LedgerKind) (reference key : String)
    (entries : List (Account × Int)) (s t : Session DB) (u : Unit) :
    postTransaction userId kind reference key entries s = (.ok u, t) ↔
      ∃ h : 2 ≤ (normalized entries).length ∧ ((normalized entries).map (·.2)).sum = 0, ∃ d₁ d₂,
        Tx.applyAll s.pending s.work = some d₁ ∧
        DB.insertLedger (journal userId kind reference key entries h.2) d₁ = some d₂ ∧
        t = ⟨s.committed, d₂, []⟩ := by
  unfold postTransaction
  split
  · rename_i h
    simp only [Tx.bind_ok, Tx.add_ok, Tx.flush_ok, exists_eq_left, exists_const, Tx.applyAll_append,
      Tx.applyAll_cons, Tx.applyAll_nil, Option.some.injEq]
    constructor
    · rintro ⟨d₂, ⟨d₁, h1, _, h2, rfl⟩, rfl⟩; exact ⟨h, d₁, _, h1, h2, rfl⟩
    · rintro ⟨_, d₁, d₂, h1, h2, rfl⟩; exact ⟨d₂, ⟨d₁, h1, _, h2, rfl⟩, rfl⟩
  · rename_i h
    simp [h]

theorem quiet_postTransaction (userId : Id) (kind : LedgerKind) (reference key : String)
    (entries : List (Account × Int)) :
    Tx.Quiet (postTransaction userId kind reference key entries) := by
  unfold postTransaction
  split
  · exact Tx.quiet_bind (Tx.quiet_add _) fun _ => Tx.quiet_flush
  · exact Tx.quiet_raise _

end Kunlun
