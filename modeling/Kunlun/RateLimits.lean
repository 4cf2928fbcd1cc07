import Kunlun.Lib.Run
import Kunlun.Models
import Mathlib.Algebra.BigOperators.Group.List.Basic

/-!
# Rate limits (`auth.py`)

A call is counted by its counters, one after the other. For each it selects the row of the
window, inserts the row if there is none, and otherwise adds one below the limit. Each
statement commits, and the statements of several calls interleave.
-/

namespace Kunlun

/-- The next statement on a counter. -/
inductive LimitPhase where
  | select | insert | update | refused
  deriving DecidableEq

/-- A call, with the counters that have counted it and the ones that are left. -/
structure LimitCall (K : Type) where
  limit : Nat
  countedBy : List K
  left : List K
  phase : LimitPhase
  deriving DecidableEq

structure LimitState (K : Type) where
  /-- The column `count` by the columns of the unique constraint. -/
  counters : K → Option Nat
  calls : List (LimitCall K)

def LimitCall.on {K : Type} (limit : Nat) (subjects : List K) : LimitCall K :=
  ⟨limit, [], subjects, .select⟩

/-- `_enforce_rate_limit`. -/
def enforceRateLimit (limit : Nat) (apiKeyId : Id) (windowEpoch : Nat) : LimitCall (Id × Nat) :=
  .on limit [(apiKeyId, windowEpoch)]

structure AuthLimitArgs where
  limit : Nat
  action : String
  host : String
  /-- `subject.casefold()`. -/
  account : String
  windowEpoch : Nat

def AuthLimitArgs.subject (tokenDigest : String → String) (a : AuthLimitArgs)
    (rawSubject : String) :
    String × String × Nat :=
  (tokenDigest rawSubject, a.action, a.windowEpoch)

def enforceAuthRateLimit (tokenDigest : String → String) (a : AuthLimitArgs) :
    LimitCall (String × String × Nat) :=
  .on a.limit (["ip:" ++ a.host, "account:" ++ a.account].map (a.subject tokenDigest))

namespace LimitCall

variable {K : Type}

/-- The call has returned. -/
def passed (c : LimitCall K) : Bool := c.left.isEmpty

/-- The call has raised 429. -/
def refused (c : LimitCall K) : Bool := c.phase = .refused

/-- The call has returned, and the counter has counted it. -/
def passedBy [DecidableEq K] (k : K) (c : LimitCall K) : Bool :=
  c.passed && decide (k ∈ c.countedBy)

def countOn (c : LimitCall K) (k : K) (rest : List K) : LimitCall K :=
  ⟨c.limit, c.countedBy ++ [k], rest, .select⟩

variable [DecidableEq K]

/-- One statement of a call. -/
def advance (counters : K → Option Nat) (c : LimitCall K) : (K → Option Nat) × LimitCall K :=
  match c.left, c.phase with
  | [], _ | _, .refused => (counters, c)
  | k :: _, .select =>
    (counters, { c with phase := if (counters k).isSome then .update else .insert })
  | k :: rest, .insert =>
    match counters k with
    | none => (Function.update counters k (some 1), c.countOn k rest)
    -- the unique constraint, after which the call goes on to the update
    | some _ => (counters, { c with phase := .update })
  | k :: rest, .update =>
    match counters k with
    | some n =>
      if n < c.limit then (Function.update counters k (some (n + 1)), c.countOn k rest)
      else (counters, { c with phase := .refused })
    | none => (counters, { c with phase := .refused })

end LimitCall

namespace LimitState

variable {K : Type}

def start (calls : List (LimitCall K)) : LimitState K := ⟨fun _ => none, calls⟩

variable [DecidableEq K]

/-- The call at `i` takes its next statement. -/
def step (i : Nat) (s : LimitState K) : LimitState K :=
  match s.calls[i]? with
  | none => s
  | some c =>
    let (counters, c') := c.advance s.counters
    ⟨counters, s.calls.set i c'⟩

end LimitState

/-! ## One statement -/

namespace LimitCall

variable {K : Type} [DecidableEq K] {counters : K → Option Nat} {c : LimitCall K}

theorem advance_cases (counters : K → Option Nat) (c : LimitCall K) :
    (∃ k rest, c.left = k :: rest ∧ (c.phase = .insert ∧ counters k = none ∨
        c.phase = .update ∧ ∃ n, counters k = some n ∧ n < c.limit) ∧
      c.advance counters = (Function.update counters k (some ((counters k).getD 0 + 1)),
        c.countOn k rest)) ∨
    ∃ phase, c.advance counters = (counters, { c with phase := phase }) ∧
      ((c.left = [] ∨ c.phase = .refused) ∧ phase = c.phase ∨ ∃ k rest, c.left = k :: rest ∧
        (c.phase = .select ∧ phase = .insert ∨
        (c.phase = .select ∨ c.phase = .insert) ∧ phase = .update ∧ (counters k).isSome ∨
        c.phase = .update ∧ phase = .refused ∧ ∀ n, counters k = some n → c.limit ≤ n)) := by
  obtain ⟨limit, countedBy, left, phase⟩ := c
  cases left with
  | nil => exact .inr ⟨phase, rfl, .inl ⟨.inl rfl, rfl⟩⟩
  | cons k rest =>
    cases phase with
    | refused => exact .inr ⟨.refused, rfl, .inl ⟨.inr rfl, rfl⟩⟩
    | select =>
      refine .inr ⟨_, rfl, .inr ⟨k, rest, rfl, ?_⟩⟩
      cases h : counters k with
      | none => simp
      | some n => simp
    | insert =>
      cases h : counters k with
      | none => exact .inl ⟨k, rest, rfl, .inl ⟨rfl, h⟩, by simp [advance, h]⟩
      | some n => exact .inr ⟨.update, by simp [advance, h], .inr ⟨k, rest, rfl, by simp [h]⟩⟩
    | update =>
      cases h : counters k with
      | none => exact .inr ⟨.refused, by simp [advance, h], .inr ⟨k, rest, rfl, by simp [h]⟩⟩
      | some n =>
        by_cases hn : n < limit
        · exact .inl ⟨k, rest, rfl, .inr ⟨rfl, n, h, hn⟩, by simp [advance, h, hn]⟩
        · exact .inr ⟨.refused, by simp [advance, h, hn], .inr ⟨k, rest, rfl, by simp [h]; omega⟩⟩

theorem advance_fixed (counters : K → Option Nat) (c : LimitCall K) :
    (c.advance counters).2.limit = c.limit ∧
    (c.advance counters).2.countedBy ++ (c.advance counters).2.left = c.countedBy ++ c.left := by
  rcases advance_cases counters c with ⟨k, rest, hleft, -, heq⟩ | ⟨phase, heq, -⟩
  · simp [heq, countOn, hleft]
  · simp [heq]

theorem advance_grows (counters : K → Option Nat) (c : LimitCall K) (k : K) :
    (counters k).getD 0 ≤ ((c.advance counters).1 k).getD 0 ∧
    ((counters k).isSome → ((c.advance counters).1 k).isSome) := by
  rcases advance_cases counters c with ⟨j, rest, -, -, heq⟩ | ⟨phase, heq, -⟩
  · by_cases hk : k = j
    · subst hk
      simp [heq]
    · simp [heq, hk]
  · simp [heq]

theorem advance_counts (counters : K → Option Nat) (c : LimitCall K) (k : K) :
    ((c.advance counters).1 k).getD 0 + c.countedBy.count k =
      (counters k).getD 0 + (c.advance counters).2.countedBy.count k := by
  rcases advance_cases counters c with ⟨j, rest, -, -, heq⟩ | ⟨phase, heq, -⟩
  · by_cases hk : k = j
    · subst hk
      simp [heq, countOn]
      omega
    · simp [heq, countOn, hk, Ne.symm hk]
  · simp [heq]

theorem advance_le {k : K} {limit : Nat} (hpos : 1 ≤ limit) (hk : k ∈ c.left → c.limit ≤ limit)
    (h : (counters k).getD 0 ≤ limit) : ((c.advance counters).1 k).getD 0 ≤ limit := by
  rcases advance_cases counters c with ⟨j, rest, hleft, hphase, heq⟩ | ⟨phase, heq, -⟩
  · by_cases hj : k = j
    · subst hj
      simp only [heq, Function.update_self, Option.getD_some]
      rcases hphase with ⟨-, hnone⟩ | ⟨-, n, hn, hlt⟩
      · simpa [hnone] using hpos
      · have := hk (by simp [hleft])
        simp only [hn, Option.getD_some]
        omega
    · simpa [heq, hj] using h
  · simpa [heq] using h

/-- A call that waits for an update has a row to update, and one that is refused has met its
limit. -/
structure Sound (counters : K → Option Nat) (c : LimitCall K) : Prop where
  row : c.phase = .update → ∀ k rest, c.left = k :: rest → (counters k).isSome
  full : c.phase = .refused → ∃ k rest, c.left = k :: rest ∧ c.limit ≤ (counters k).getD 0

omit [DecidableEq K] in
theorem Sound.grow {counters' : K → Option Nat} (h : c.Sound counters)
    (hgrow : ∀ k, (counters k).getD 0 ≤ (counters' k).getD 0 ∧
      ((counters k).isSome → (counters' k).isSome)) :
    c.Sound counters' := by
  refine ⟨fun hp k rest hl => (hgrow k).2 (h.row hp k rest hl), fun hp => ?_⟩
  obtain ⟨k, rest, hl, hle⟩ := h.full hp
  exact ⟨k, rest, hl, hle.trans (hgrow k).1⟩

theorem Sound.advance (h : c.Sound counters) :
    (c.advance counters).2.Sound (c.advance counters).1 := by
  rcases advance_cases counters c with ⟨j, rest, -, -, heq⟩ | ⟨phase, heq, hcase⟩
  · rw [heq]
    exact ⟨nofun, nofun⟩
  · rw [heq]
    rcases hcase with ⟨-, rfl⟩ | ⟨j, rest, hleft, hcase⟩
    · exact h
    · refine ⟨fun hp k r hl => ?_, fun hp => ⟨j, rest, hleft, ?_⟩⟩
      · obtain ⟨rfl, rfl⟩ := List.cons.inj (hleft.symm.trans hl)
        rcases hcase with ⟨-, rfl⟩ | ⟨-, -, hsome⟩ | ⟨-, rfl, -⟩
        · cases hp
        · exact hsome
        · cases hp
      · rcases hcase with ⟨-, rfl⟩ | ⟨-, rfl, -⟩ | ⟨hup, -, hfull⟩
        · cases hp
        · cases hp
        · obtain ⟨n, hn⟩ := Option.isSome_iff_exists.1 (h.row hup j rest hleft)
          simpa [hn] using hfull n hn

end LimitCall

/-! ## Runs -/

namespace LimitState

variable {K : Type} [DecidableEq K] {s : LimitState K}

/-- How often the counter has counted a call. -/
def counted (s : LimitState K) (k : K) : Nat := (s.calls.map fun c => c.countedBy.count k).sum

structure Sound (s : LimitState K) : Prop where
  tally : ∀ k, (s.counters k).getD 0 = s.counted k
  calls : ∀ c ∈ s.calls, c.Sound s.counters

theorem step_cases (i : Nat) (s : LimitState K) : s.step i = s ∨ ∃ l c r,
    s.calls = l ++ c :: r ∧ l.length = i ∧
    s.step i = ⟨(c.advance s.counters).1, l ++ (c.advance s.counters).2 :: r⟩ := by
  unfold step
  cases h : s.calls[i]? with
  | none => exact .inl rfl
  | some c =>
    obtain ⟨hi, rfl⟩ := List.getElem?_eq_some_iff.1 h
    refine .inr ⟨s.calls.take i, s.calls[i], s.calls.drop (i + 1), ?_, ?_, ?_⟩
    · rw [List.getElem_cons_drop, List.take_append_drop]
    · exact List.length_take_of_le hi.le
    · simp [List.set_eq_take_append_cons_drop, hi]

theorem Sound.start (calls : List (LimitCall K))
    (h : ∀ c ∈ calls, c.countedBy = [] ∧ c.phase = .select) : (start calls).Sound := by
  refine ⟨fun k => ?_, fun c hc => ?_⟩
  · symm
    rw [LimitState.start, counted, Option.getD_none, List.sum_eq_zero_iff]
    intro n hn
    obtain ⟨c, hc, rfl⟩ := List.mem_map.1 hn
    simp [(h c hc).1]
  · have hp := (h c hc).2
    exact ⟨by simp [hp], by simp [hp]⟩

theorem Sound.step (h : s.Sound) (i : Nat) : (s.step i).Sound := by
  rcases step_cases i s with heq | ⟨l, c, r, hcalls, -, heq⟩
  · rwa [heq]
  have hmem (x : LimitCall K) (hx : x ∈ l ∨ x ∈ r) : x ∈ s.calls := by
    rcases hx with hx | hx <;> simp [hcalls, hx]
  rw [heq]
  constructor
  · intro k
    have htally := h.tally k
    have hcount := c.advance_counts s.counters k
    simp only [counted, hcalls, List.map_append, List.map_cons, List.sum_append,
      List.sum_cons] at htally ⊢
    omega
  · intro x hx
    rcases List.mem_append.1 hx with hx | hx
    · exact (h.calls x (hmem x (.inl hx))).grow (c.advance_grows s.counters)
    · rcases List.mem_cons.1 hx with rfl | hx
      · exact (h.calls c (by simp [hcalls])).advance
      · exact (h.calls x (hmem x (.inr hx))).grow (c.advance_grows s.counters)

theorem sound_run {calls : List (LimitCall K)}
    (h : ∀ c ∈ calls, c.countedBy = [] ∧ c.phase = .select)
    (schedule : List Nat) : (Run.after step (start calls) schedule).Sound :=
  have keep (s : LimitState K) (i : Nat) (hs : s.Sound) (_ : True) : (s.step i).Sound := hs.step i
  Run.invariant keep (Sound.start calls h) (Run.along_of_forall _ fun _ _ _ => trivial)

/-- The limits of the calls, and the counters they are on. -/
def terms (s : LimitState K) : List (Nat × List K) := s.calls.map fun c =>
    (c.limit, c.countedBy ++ c.left)

theorem terms_step (i : Nat) (s : LimitState K) : (s.step i).terms = s.terms := by
  rcases step_cases i s with heq | ⟨l, c, r, hcalls, -, heq⟩
  · rw [heq]
  · obtain ⟨h1, h2⟩ := c.advance_fixed s.counters
    simp [heq, terms, hcalls, h1, h2]

theorem terms_run (s : LimitState K) (schedule : List Nat) :
    (Run.after step s schedule).terms = s.terms := by
  induction schedule generalizing s with
  | nil => rfl
  | cons i rest ih => exact (ih (s.step i)).trans (terms_step i s)

/-- No call on the counter has a higher limit. -/
def Below (k : K) (limit : Nat) (s : LimitState K) : Prop :=
  (s.counters k).getD 0 ≤ limit ∧ ∀ x ∈ s.terms, k ∈ x.2 → x.1 ≤ limit

theorem Below.step {k : K} {limit : Nat} (hpos : 1 ≤ limit) (h : s.Below k limit) (i : Nat) :
    (s.step i).Below k limit := by
  refine ⟨?_, by rw [terms_step]; exact h.2⟩
  rcases step_cases i s with heq | ⟨l, c, r, hcalls, -, heq⟩
  · rw [heq]
    exact h.1
  · rw [heq]
    refine LimitCall.advance_le hpos (fun hk => ?_) h.1
    exact h.2 _ (List.mem_map_of_mem (hcalls ▸ List.mem_append_right l (.head r)))
      (List.mem_append_right _ hk)

theorem below_run {k : K} {limit : Nat} (hpos : 1 ≤ limit) {s : LimitState K} (h : s.Below k limit)
    (schedule : List Nat) : (Run.after LimitState.step s schedule).Below k limit :=
  have keep (s : LimitState K) (i : Nat) (hs : s.Below k limit) (_ : True) :
  (s.step i).Below k limit :=
    hs.step hpos i
  Run.invariant keep h (Run.along_of_forall _ fun _ _ _ => trivial)

end LimitState

/-! ## Turns -/

namespace LimitCall

variable {K : Type}

/-- How many statements the call may still take. -/
def turnsLeft (c : LimitCall K) : Nat :=
  match c.phase with
  | .select => 3 * c.left.length
  | .insert => 3 * c.left.length - 1
  | .update => 3 * c.left.length - 2
  | .refused => 0

theorem ended_of_turnsLeft {c : LimitCall K} (h : c.turnsLeft = 0) : c.passed ∨ c.refused := by
  obtain ⟨limit, countedBy, left, phase⟩ := c
  cases left with
  | nil => exact .inl rfl
  | cons k rest => cases phase <;> simp_all [turnsLeft, refused] <;> omega

theorem advance_turnsLeft [DecidableEq K] (counters : K → Option Nat) (c : LimitCall K) :
    (c.advance counters).2.turnsLeft ≤ c.turnsLeft - 1 := by
  rcases advance_cases counters c with ⟨k, rest, hleft, hphase, heq⟩ | ⟨phase, heq, hcase⟩
  · rcases hphase with ⟨hp, -⟩ | ⟨hp, -⟩ <;> simp [heq, turnsLeft, countOn, hp, hleft] <;> omega
  · rcases hcase with ⟨hend | hend, rfl⟩ | ⟨k, rest, hleft, hcase⟩
    · cases hp : c.phase <;> simp [heq, turnsLeft, hend, hp]
    · simp [heq, turnsLeft, hend]
    · rcases hcase with ⟨hp, rfl⟩ | ⟨hp | hp, rfl, -⟩ | ⟨hp, rfl, -⟩ <;> simp [heq, turnsLeft,
        hp, hleft] <;> omega

end LimitCall

theorem LimitState.turns_run {K : Type} [DecidableEq K] (s : LimitState K)
    (schedule : List Nat) {i : Nat}
    {c : LimitCall K} (h : s.calls[i]? = some c) :
    ∃ c', (Run.after step s schedule).calls[i]? = some c' ∧
      c'.turnsLeft ≤ c.turnsLeft - schedule.count i := by
  induction schedule generalizing s c with
  | nil => exact ⟨c, h, le_rfl⟩
  | cons j rest ih =>
    by_cases hj : j = i
    · subst hj
      have hstep : (s.step j).calls[j]? = some (c.advance s.counters).2 := by
        obtain ⟨hlt, rfl⟩ := List.getElem?_eq_some_iff.1 h
        simp [step, hlt]
      obtain ⟨c', hc', hle⟩ := ih (s.step j) hstep
      have := c.advance_turnsLeft s.counters
      refine ⟨c', hc', ?_⟩
      rw [List.count_cons_self]
      omega
    · have hstep : (s.step j).calls[i]? = some c := by
        unfold step
        cases hc : s.calls[j]? with
        | none => exact h
        | some x => simpa [hj] using h
      obtain ⟨c', hc', hle⟩ := ih (s.step j) hstep
      exact ⟨c', hc', by rwa [List.count_cons_of_ne hj]⟩

/-! ## Limits -/

section Limits

variable {K : Type} [DecidableEq K] {s : LimitState K}

theorem LimitState.Sound.passed_le (h : s.Sound) (k : K) :
    s.calls.countP (LimitCall.passedBy k) ≤ (s.counters k).getD 0 := by
  rw [h.tally, LimitState.counted]
  induction s.calls with
  | nil => exact Nat.zero_le _
  | cons c calls ih =>
    rw [List.countP_cons, List.map_cons, List.sum_cons]
    split
    · rename_i hc
      have hpos : 0 < c.countedBy.count k := List.count_pos_iff.2 (by simp_all [LimitCall.passedBy])
      omega
    · omega

theorem LimitState.Sound.passed_eq {k : K} (h : s.Sound)
    (hone : ∀ c ∈ s.calls, c.countedBy ++ c.left = [k]) :
    (s.counters k).getD 0 = s.calls.countP LimitCall.passed := by
  rw [h.tally, LimitState.counted]
  have hcount : ∀ c ∈ s.calls, c.countedBy.count k = if c.passed then 1 else 0 := by
    intro c hc
    have hsubj := hone c hc
    unfold LimitCall.passed
    rcases List.append_eq_singleton_iff.1 hsubj with ⟨h1, h2⟩ | ⟨h1, h2⟩
    · simp [h1, h2]
    · simp [h1, h2]
  rw [List.map_congr_left hcount]
  induction s.calls with
  | nil => rfl
  | cons c calls ih =>
    rw [List.map_cons, List.sum_cons, ih, List.countP_cons, add_comm]

theorem LimitState.Sound.ended (h : s.Sound) (hall : ∀ c ∈ s.calls, c.passed ∨ c.refused) :
    s.calls.countP LimitCall.passed + s.calls.countP LimitCall.refused = s.calls.length := by
  have hnot : ∀ c ∈ s.calls, c.refused = !c.passed := by
    intro c hc
    cases href : c.refused with
    | false => simpa [href] using hall c hc
    | true =>
      obtain ⟨k, rest, hleft, -⟩ := (h.calls c hc).full (by simpa [LimitCall.refused] using href)
      simp [LimitCall.passed, hleft]
  have hcongr : s.calls.countP LimitCall.refused = s.calls.countP fun c => ¬ c.passed :=
    List.countP_congr fun c hc => by simp [hnot c hc]
  rw [hcongr, ← List.length_eq_countP_add_countP]

end Limits

/-- `n` calls of one key in one window. -/
def keyCalls (limit n : Nat) (apiKeyId : Id) (windowEpoch : Nat) : LimitState (Id × Nat) :=
  .start (List.replicate n (enforceRateLimit limit apiKeyId windowEpoch))

def authCalls (tokenDigest : String → String) (calls : List AuthLimitArgs) :
    LimitState (String × String × Nat) :=
  .start (calls.map (enforceAuthRateLimit tokenDigest))

theorem keyCalls_terms {limit n : Nat} {apiKeyId : Id} {windowEpoch : Nat} {schedule : List Nat}
    {c : LimitCall (Id × Nat)}
    (hc : c ∈ (Run.after LimitState.step (keyCalls limit n apiKeyId windowEpoch) schedule).calls) :
    c.limit = limit ∧ c.countedBy ++ c.left = [(apiKeyId, windowEpoch)] := by
  have hmem := List.mem_map_of_mem (f := fun c : LimitCall (Id × Nat) =>
    (c.limit, c.countedBy ++ c.left)) hc
  have hterms := LimitState.terms_run (keyCalls limit n apiKeyId windowEpoch) schedule
  unfold LimitState.terms at hterms
  rw [hterms] at hmem
  obtain ⟨c₀, hc₀, heq⟩ := List.mem_map.1 hmem
  obtain ⟨h1, h2⟩ := Prod.mk.inj heq
  obtain rfl := List.eq_of_mem_replicate hc₀
  exact ⟨h1.symm, h2.symm⟩

theorem keyCalls_exact {limit n : Nat} (hlimit : 1 ≤ limit) (apiKeyId : Id) (windowEpoch : Nat)
    (schedule : List Nat)
    {s : LimitState (Id × Nat)}
    (hs : s = Run.after LimitState.step (keyCalls limit n apiKeyId windowEpoch) schedule)
    (hend : ∀ c ∈ s.calls, c.passed ∨ c.refused) :
    s.calls.countP LimitCall.passed = min n limit ∧
    s.calls.countP LimitCall.refused = n - min n limit ∧
    (s.counters (apiKeyId, windowEpoch)).getD 0 = min n limit := by
  have hsound : s.Sound := hs ▸ LimitState.sound_run (fun c hc => by
    obtain rfl := List.eq_of_mem_replicate hc
    exact ⟨rfl, rfl⟩) schedule
  have hterms (c : LimitCall (Id × Nat)) (hc : c ∈ s.calls) := keyCalls_terms (hs ▸ hc)
  have hlength : s.calls.length = n := by
    have := congrArg List.length
      (LimitState.terms_run (keyCalls limit n apiKeyId windowEpoch) schedule)
    rw [← hs] at this
    simpa [LimitState.terms, keyCalls, LimitState.start] using this
  have hbelow : (s.counters (apiKeyId, windowEpoch)).getD 0 ≤ limit := by
    rw [hs]
    refine (LimitState.below_run hlimit ⟨Nat.zero_le _, fun x hx _ => ?_⟩ schedule).1
    obtain ⟨c, hc, rfl⟩ := List.mem_map.1 hx
    obtain rfl := List.eq_of_mem_replicate hc
    exact le_rfl
  have hcount := hsound.passed_eq fun c hc => (hterms c hc).2
  have hsum := hsound.ended hend
  rw [hlength] at hsum
  by_cases hfull : ∃ c ∈ s.calls, c.refused
  · -- a call that is refused has met the limit
    obtain ⟨c, hc, href⟩ := hfull
    obtain ⟨k, rest, hleft, hle⟩ :=
      (hsound.calls c hc).full (by simpa [LimitCall.refused] using href)
    obtain ⟨hl, hsubj⟩ := hterms c hc
    have hk : k = (apiKeyId, windowEpoch) := by
      have : k ∈ c.countedBy ++ c.left := by simp [hleft]
      simpa [hsubj] using this
    rw [hk, hl] at hle
    omega
  · have hzero : s.calls.countP LimitCall.refused = 0 := by
      rw [List.countP_eq_zero]
      intro c hc href
      exact hfull ⟨c, hc, href⟩
    omega

theorem authCalls_both {tokenDigest : String → String} {calls : List AuthLimitArgs}
    {schedule : List Nat} {i : Nat}
    {a : AuthLimitArgs} {c : LimitCall (String × String × Nat)} (ha : calls[i]? = some a)
    (hc : (Run.after LimitState.step (authCalls tokenDigest calls) schedule).calls[i]? = some c)
    (hpass : c.passed) :
    c.countedBy = [a.subject tokenDigest ("ip:" ++ a.host),
      a.subject tokenDigest ("account:" ++ a.account)] := by
  have hterms := congrArg (·[i]?) (LimitState.terms_run (authCalls tokenDigest calls) schedule)
  simp only [LimitState.terms, List.getElem?_map, hc] at hterms
  simp only [authCalls, LimitState.start, List.getElem?_map, ha, Option.map_some, Option.some.injEq,
    Prod.mk.injEq] at hterms
  have hleft : c.left = [] := by simpa [LimitCall.passed] using hpass
  simpa [hleft, enforceAuthRateLimit, LimitCall.on] using hterms.2

theorem authCalls_limited {limit : Nat} (hlimit : 1 ≤ limit) (tokenDigest : String → String)
    (calls : List AuthLimitArgs) (schedule : List Nat) {k : String × String × Nat}
    (hk : ∀ a ∈ calls, a.action = k.2.1 → a.limit = limit) {s : LimitState (String × String × Nat)}
    (hs : s = Run.after LimitState.step (authCalls tokenDigest calls) schedule) :
    s.calls.countP (LimitCall.passedBy k) ≤ limit := by
  have hsound : s.Sound := hs ▸ LimitState.sound_run (fun c hc => by
    obtain ⟨a, -, rfl⟩ := List.mem_map.1 hc
    exact ⟨rfl, rfl⟩) schedule
  refine (hsound.passed_le k).trans ?_
  rw [hs]
  refine (LimitState.below_run hlimit ⟨Nat.zero_le _, fun x hx hmem => ?_⟩ schedule).1
  obtain ⟨c, hc, rfl⟩ := List.mem_map.1 hx
  obtain ⟨a, ha, rfl⟩ := List.mem_map.1 hc
  refine (hk a ha ?_).le
  simp only [enforceAuthRateLimit, LimitCall.on, List.nil_append, List.map_cons, List.map_nil,
    List.mem_cons, List.not_mem_nil, or_false] at hmem
  rcases hmem with rfl | rfl <;> rfl

/-- Limits hold under every schedule of the statements. -/
theorem limited {limit : Nat} (hlimit : 1 ≤ limit) :
    (∀ (n : Nat) (apiKeyId : Id) (windowEpoch : Nat) (schedule : List Nat) (s : LimitState (Id × Nat)),
      s = Run.after LimitState.step (keyCalls limit n apiKeyId windowEpoch) schedule →
      ((∀ i < n, 3 ≤ schedule.count i) → ∀ c ∈ s.calls, c.passed ∨ c.refused) ∧
      ((∀ c ∈ s.calls, c.passed ∨ c.refused) →
        s.calls.countP LimitCall.passed = min n limit ∧
        s.calls.countP LimitCall.refused = n - min n limit ∧
        (s.counters (apiKeyId, windowEpoch)).getD 0 = min n limit)) ∧
    ∀ (tokenDigest : String → String) (calls : List AuthLimitArgs) (schedule : List Nat)
      (s : LimitState (String × String × Nat)),
      s = Run.after LimitState.step (authCalls tokenDigest calls) schedule →
      (∀ k : String × String × Nat, (∀ a ∈ calls, a.action = k.2.1 → a.limit = limit) →
        s.calls.countP (LimitCall.passedBy k) ≤ limit) ∧
      ∀ (i : Nat) (a : AuthLimitArgs) (c : LimitCall (String × String × Nat)), calls[i]? = some a →
        s.calls[i]? = some c → c.passed →
        c.countedBy = [a.subject tokenDigest ("ip:" ++ a.host),
          a.subject tokenDigest ("account:" ++ a.account)] := by
  refine ⟨fun n apiKeyId windowEpoch schedule s hs => ⟨fun hturns c hc => ?_, fun hend => ?_⟩,
    fun tokenDigest calls schedule s hs => ⟨fun k hk => ?_, fun i a c ha hc hpass => ?_⟩⟩
  · obtain ⟨i, hi, rfl⟩ := List.getElem_of_mem hc
    have hlength := congrArg List.length
      (LimitState.terms_run (keyCalls limit n apiKeyId windowEpoch) schedule)
    simp only [LimitState.terms, List.length_map, ← hs] at hlength
    have hn : i < n := by simpa [hlength, keyCalls, LimitState.start] using hi
    have hstart : (keyCalls limit n apiKeyId windowEpoch).calls[i]? =
        some (enforceRateLimit limit apiKeyId windowEpoch) := by
      simp [keyCalls, LimitState.start, hn]
    obtain ⟨c', hc', hle⟩ := LimitState.turns_run _ schedule hstart
    rw [← hs, List.getElem?_eq_getElem hi] at hc'
    obtain rfl := Option.some.inj hc'
    refine LimitCall.ended_of_turnsLeft ?_
    have h3 : (enforceRateLimit limit apiKeyId windowEpoch).turnsLeft = 3 := rfl
    have := hturns i hn
    omega
  · exact keyCalls_exact hlimit apiKeyId windowEpoch schedule hs hend
  · exact authCalls_limited hlimit tokenDigest calls schedule hk hs
  · exact authCalls_both ha (hs ▸ hc) hpass

/-- Two calls race for the one place of a window, and both see no row. -/
theorem limited_once : ((Run.after LimitState.step (keyCalls 1 2 "k" 0)
    [0, 1, 0, 1, 1, 0]).calls.countP LimitCall.passed) = 1 :=
  (((limited (by decide)).1 2 "k" 0 [0, 1, 0, 1, 1, 0] _ rfl).2 (by decide)).1

end Kunlun
