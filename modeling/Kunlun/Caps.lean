import Kunlun.Accounting

/-!
# Monthly caps

A budget is replaced by one that carries what it has spent. So the active budget of a month has
spent what all the requests of the month were charged, whichever budget they came under.
-/

namespace Kunlun

/-! ## Months -/

/-- The user and the start of the period. -/
def Budget.month (x : Budget) : Id × Time := (x.userId, x.periodStart)

/-- The start of the period of the budget that the request was admitted under. -/
def periodOf (budgets : Table Budget Budget.id) (r : ModelRequest) : Option Time :=
  (r.budgetId.bind budgets.get?).map Budget.periodStart

/-- What the request was charged, if it is one of the user, admitted under a budget of the
period. -/
def chargedIn (budgets : Table Budget Budget.id) (userId : Id) (start : Time)
    (r : ModelRequest) : Int :=
  if r.userId = userId ∧ periodOf budgets r = some start then r.chargedMicrousd else 0

section Periods

variable {budgets budgets' : Table Budget Budget.id}

theorem chargedIn_onBudget (budgetId : Option Id) (f : Budget → Budget) (hf : ∀ x, (f x).id = x.id)
    (hperiod : ∀ x, (f x).periodStart = x.periodStart) :
    chargedIn (onBudget budgets budgetId f hf) = chargedIn budgets := by
  have hperiodOf : periodOf (onBudget budgets budgetId f hf) = periodOf budgets := by
    funext r
    cases budgetId with
    | none => rfl
    | some i =>
      cases hr : r.budgetId with
      | none => simp [periodOf, hr]
      | some k =>
        simp only [periodOf, hr, Option.bind_some]
        exact Table.map_get?_update hf fun x _ _ => hperiod x
  funext userId start r
  simp only [chargedIn, hperiodOf]

theorem chargedIn_insert {x : Budget} (hx : budgets.insert? x = some budgets') {r : ModelRequest}
    (hr : ∀ i ∈ r.budgetId, (budgets.get? i).isSome) (userId : Id) (start : Time) :
    chargedIn budgets' userId start r = chargedIn budgets userId start r := by
  have hperiod : periodOf budgets' r = periodOf budgets r := by
    cases hi : r.budgetId with
    | none => simp [periodOf, hi]
    | some i =>
      obtain ⟨y, hy⟩ := Option.isSome_iff_exists.1 (hr i hi)
      simp only [periodOf, hi, Option.bind_some, hy, Table.get?_insert_of_some hx hy]
  simp only [chargedIn, hperiod]

theorem sum_chargedIn_insert {requests : Table ModelRequest ModelRequest.id} {x : Budget}
    (hx : budgets.insert? x = some budgets')
    (hof : ∀ r ∈ requests.rows, ∀ i ∈ r.budgetId, (budgets.get? i).isSome)
    (userId : Id) (start : Time) :
    requests.sum (chargedIn budgets' userId start) = requests.sum
      (chargedIn budgets userId start) :=
  congrArg List.sum (List.map_congr_left fun r hr => chargedIn_insert hx (hof r hr) userId start)

theorem chargedIn_edit {r r' : ModelRequest} (edit : RequestEdit r r')
    (userId : Id) (start : Time) :
    chargedIn budgets userId start r' =
      if r.userId = userId ∧ periodOf budgets r = some start then r'.chargedMicrousd else 0 := by
  rw [chargedIn, edit.userId, periodOf, edit.budgetId, ← periodOf]

end Periods

/-! ## One active budget for each month -/

structure Chained (budgets : Table Budget Budget.id) : Prop where
  single : ∀ x ∈ budgets.rows, ∀ y ∈ budgets.rows, x.month = y.month → x.status = .active →
    y.status = .active → x = y
  current : ∀ x ∈ budgets.rows, ∃ y ∈ budgets.rows, y.month = x.month ∧ y.status = .active

section Chained

variable {budgets budgets' : Table Budget Budget.id}

theorem chained_onBudget (h : Chained budgets) {budgetId : Option Id} {f : Budget → Budget}
    (hf : ∀ x, (f x).id = x.id)
    (hsame : ∀ x, (f x).month = x.month ∧ (f x).status = x.status) :
    Chained (onBudget budgets budgetId f hf) := by
  cases budgetId with
  | none => exact h
  | some i =>
    have hrows (x' : Budget) : x' ∈ (onBudget budgets (some i) f hf).rows ↔
        ∃ x ∈ budgets.rows, (if decide (x.id = i) then f x else x) = x' := by
      rw [onBudget, Table.modify, Table.mem_update]
    have hwrite (x : Budget) : (if decide (x.id = i) then f x else x).month = x.month ∧
        (if decide (x.id = i) then f x else x).status = x.status := by
      split
      · exact hsame x
      · exact ⟨rfl, rfl⟩
    refine ⟨fun x' hx' y' hy' hmonth hxs hys => ?_, fun x' hx' => ?_⟩
    · obtain ⟨x, hx, rfl⟩ := (hrows x').1 hx'
      obtain ⟨y, hy, rfl⟩ := (hrows y').1 hy'
      rw [(hwrite x).1, (hwrite y).1] at hmonth
      rw [(hwrite x).2] at hxs
      rw [(hwrite y).2] at hys
      rw [h.single x hx y hy hmonth hxs hys]
    · obtain ⟨x, hx, rfl⟩ := (hrows x').1 hx'
      obtain ⟨y, hy, hmonth, hys⟩ := h.current x hx
      refine ⟨_, (hrows _).2 ⟨y, hy, rfl⟩, ?_, ?_⟩
      · rw [(hwrite x).1, (hwrite y).1, hmonth]
      · rw [(hwrite y).2, hys]

theorem chained_open (h : Chained budgets) {x : Budget} (hx : budgets.insert? x = some budgets')
    (hnew : ∀ y ∈ budgets.rows, y.month ≠ x.month)
    (hstatus : x.status = .active) : Chained budgets' := by
  refine ⟨fun y hy z hz hmonth hys hzs => ?_, fun y hy => ?_⟩
  · rcases (Table.mem_insert hx).1 hy with
      hy | rfl <;> rcases (Table.mem_insert hx).1 hz with hz | rfl
    · exact h.single y hy z hz hmonth hys hzs
    · exact absurd hmonth (hnew y hy)
    · exact absurd hmonth.symm (hnew z hz)
    · rfl
  · rcases (Table.mem_insert hx).1 hy with hy | rfl
    · obtain ⟨z, hz, hz'⟩ := h.current y hy
      exact ⟨z, (Table.mem_insert hx).2 (.inl hz), hz'⟩
    · exact ⟨y, hy, rfl, hstatus⟩

theorem chained_replace (h : Chained budgets) {old x : Budget}
    (hold : budgets.get? old.id = some old)
    (hactive : old.status = .active)
    (hx : (budgets.modify old.id fun y => { y with status := .superseded }).insert? x =
      some budgets')
    (hmonth : x.month = old.month) (hstatus : x.status = .active) : Chained budgets' := by
  have hretired (f : Budget → Budget) (hf : ∀ y, (f y).id = y.id) (y : Budget) :
      y ∈ (budgets.modify old.id f hf).rows ↔ y = f old ∨ y ∈ budgets.rows ∧ y.id ≠ old.id :=
    Table.mem_modify hf hold
  have hother (y : Budget) (hy : y ∈ budgets.rows) (hne : y.id ≠ old.id)
    (hys : y.status = .active) :
      y.month ≠ old.month := by
    intro hym
    rw [h.single y hy old (Table.mem_of_get? hold) hym hys hactive] at hne
    exact hne rfl
  refine ⟨fun y hy z hz hyz hys hzs => ?_, fun y hy => ?_⟩
  · rcases (Table.mem_insert hx).1 hy with
      hy | rfl <;> rcases (Table.mem_insert hx).1 hz with hz | rfl
    · rcases (hretired _ _ y).1 hy with rfl | ⟨hy, hyne⟩
      · cases hys
      · rcases (hretired _ _ z).1 hz with rfl | ⟨hz, -⟩
        · cases hzs
        · exact h.single y hy z hz hyz hys hzs
    · rcases (hretired _ _ y).1 hy with rfl | ⟨hy, hyne⟩
      · cases hys
      · exact absurd (hyz.trans hmonth) (hother y hy hyne hys)
    · rcases (hretired _ _ z).1 hz with rfl | ⟨hz, hzne⟩
      · cases hzs
      · exact absurd (hyz.symm.trans hmonth) (hother z hz hzne hzs)
    · rfl
  · have hnew := (Table.mem_insert hx).2 (.inr rfl)
    rcases (Table.mem_insert hx).1 hy with hy | rfl
    · rcases (hretired _ _ y).1 hy with rfl | ⟨hy, hyne⟩
      · exact ⟨x, hnew, hmonth, hstatus⟩
      · obtain ⟨z, hz, hzm, hzs⟩ := h.current y hy
        by_cases hzid : z.id = old.id
        · obtain rfl := Table.eq_of_mem_of_key hz (Table.mem_of_get? hold) hzid
          exact ⟨x, hnew, hmonth.trans hzm, hstatus⟩
        · exact ⟨z, (Table.mem_insert hx).2 (.inl ((hretired _ _ z).2 (.inr ⟨hz, hzid⟩))), hzm, hzs⟩
    · exact ⟨y, hy, rfl, hstatus⟩

end Chained

/-! ## Spent in a month -/

theorem owner_onBudget {budgets : Table Budget Budget.id} (budgetId : Option Id)
    (f : Budget → Budget)
    (hf : ∀ x, (f x).id = x.id) (huser : ∀ x, (f x).userId = x.userId) {userId i : Id}
    (hi : ∃ x, budgets.get? i = some x ∧ x.userId = userId) :
    ∃ x, (onBudget budgets budgetId f hf).get? i = some x ∧ x.userId = userId := by
  obtain ⟨x, hx, hxu⟩ := hi
  cases budgetId with
  | none => exact ⟨x, hx, hxu⟩
  | some k =>
    have hget := Table.get?_modify budgets k i f hf
    rw [hx] at hget
    by_cases hik : i = k
    · rw [if_pos hik] at hget
      exact ⟨f x, hget, (huser x).trans hxu⟩
    · rw [if_neg hik] at hget
      exact ⟨x, hget, hxu⟩

structure Books.Capped (b : Books) : Prop where
  chained : Chained b.budgets
  idle : ∀ x ∈ b.budgets.rows, x.status = .superseded → x.reservedMicrousd ≤ 0
  spent : ∀ x ∈ b.budgets.rows, x.status = .active →
    x.spentMicrousd = b.requests.sum (chargedIn b.budgets x.userId x.periodStart)
  owner : ∀ r ∈ b.requests.rows, ∀ i ∈ r.budgetId, ∃ x, b.budgets.get? i = some x ∧
    x.userId = r.userId

namespace Books.Capped

variable {b : Books} (h : b.Capped)

include h

theorem budgetOf {r : ModelRequest} (hr : r ∈ b.requests.rows) :
    ∀ i ∈ r.budgetId, (b.budgets.get? i).isSome := by
  intro i hi
  obtain ⟨x, hx, -⟩ := h.owner r hr i hi
  simp [hx]

theorem sum_eq_zero {userId : Id} {start : Time}
    (hnone : ∀ y ∈ b.budgets.rows, y.month ≠ (userId, start)) :
    b.requests.sum (chargedIn b.budgets userId start) = 0 := by
  refine Table.sum_eq_zero _ _ fun r hr => if_neg ?_
  rintro ⟨huser, hperiod⟩
  obtain ⟨x, hx, hstart⟩ := Option.map_eq_some_iff.1 hperiod
  obtain ⟨i, hi, hx⟩ := Option.bind_eq_some_iff.1 hx
  obtain ⟨y, hy, howner⟩ := h.owner r hr i hi
  obtain rfl := Option.some.inj (hx.symm.trans hy)
  exact hnone x (Table.mem_of_get? hx) (Prod.ext (howner.trans huser) hstart)

end Books.Capped

theorem Move.capped {env : Env} {b b' : Books} (m : Move env b b') (henv : env.callers)
    (hs : b.Sound) (hh : b.Holds)
    (h : b.Capped) : b'.Capped := by
  obtain ⟨hchained, hidle, hspent, howner⟩ := h
  have h : b.Capped := ⟨hchained, hidle, hspent, howner⟩
  cases m with
  | hold r w j drawn positive status charged wallet covered budget posts post insert key =>
    rename_i requests
    have howned {userId i : Id} (hi : ∃ x, b.budgets.get? i = some x ∧ x.userId = userId) :=
      owner_onBudget r.budgetId
        (fun x => { x with reservedMicrousd := x.reservedMicrousd + r.reservedMicrousd })
        (fun _ => rfl) (fun _ => rfl) hi
    have hzero (u : Id) (s : Time) : chargedIn b.budgets u s r = 0 := by
      unfold chargedIn
      split
      · exact charged
      · rfl
    refine ⟨chained_onBudget hchained _ fun _ => ⟨rfl, rfl⟩, ?_, ?_, ?_⟩
    · refine forall_onBudget hidle fun i hi => ?_
      obtain ⟨x, hx, -, hactive, -⟩ := budget i hi
      exact ⟨x, hx, fun hsuper => by simp [hactive] at hsuper⟩
    · dsimp only
      rw [chargedIn_onBudget _ (fun x =>
        { x with reservedMicrousd := x.reservedMicrousd + r.reservedMicrousd })
        (fun _ => rfl) fun _ => rfl]
      have hsum (u : Id) (s : Time) :
          requests.sum (chargedIn b.budgets u s) = b.requests.sum (chargedIn b.budgets u s) := by
        rw [Table.sum_insert _ insert, hzero, add_zero]
      have hall : ∀ x ∈ b.budgets.rows, x.status = .active →
          x.spentMicrousd = requests.sum (chargedIn b.budgets x.userId x.periodStart) := by
        intro x hx hactive
        rw [hsum]
        exact hspent x hx hactive
      refine forall_onBudget hall fun i hi => ?_
      obtain ⟨x, hx, -⟩ := budget i hi
      exact ⟨x, hx, hall x (Table.mem_of_get? hx)⟩
    · refine Table.forall_insert insert (fun x hx i hi => howned (howner x hx i hi)) fun i hi => ?_
      obtain ⟨x, hx, huser, -⟩ := budget i hi
      exact howned ⟨x, hx, huser⟩
  | finish r f hf w charged j kind risk found edit fits charges caller wallet held budget =>
    have hr := Table.mem_of_get? found
    have hpos := hs.positive r hr
    have hzero := (hh.charged r hr).outstanding (caller henv).outstanding
    have hcharge : (f r).chargedMicrousd = charged := by omega
    have hsum (u : Id) (s : Time) : (b.requests.modify r.id f hf).sum (chargedIn b.budgets u s) =
        b.requests.sum (chargedIn b.budgets u s) +
          if r.userId = u ∧ periodOf b.budgets r = some s then charged else 0 := by
      rw [Table.sum_modify _ _ _ found, chargedIn_edit edit, hcharge, chargedIn, hzero,
        ite_self, sub_zero]
    have hedit : ∀ x ∈ (b.requests.modify r.id f hf).rows, ∀ i ∈ x.budgetId, ∃ y,
      b.budgets.get? i = some y ∧
        y.userId = x.userId := Table.forall_modify found howner
          (by rw [edit.budgetId, edit.userId]; exact howner r hr)
    have howned {userId i : Id} (hi : ∃ x, b.budgets.get? i = some x ∧ x.userId = userId) :=
      owner_onBudget r.budgetId (fun x => { x with
        reservedMicrousd := x.reservedMicrousd - r.reservedMicrousd
        spentMicrousd := x.spentMicrousd + charged }) (fun _ => rfl) (fun _ => rfl) hi
    refine ⟨chained_onBudget hchained _ fun _ => ⟨rfl, rfl⟩, ?_, ?_, fun x hx i hi =>
      howned (hedit x hx i hi)⟩
    · refine forall_onBudget hidle fun i hi => ?_
      obtain ⟨x, hx, hheld⟩ := budget i hi
      refine ⟨x, hx, fun hsuper => ?_⟩
      have hnothing := hidle x (Table.mem_of_get? hx) hsuper
      dsimp only
      omega
    · dsimp only
      rw [chargedIn_onBudget _ (fun x => { x with
        reservedMicrousd := x.reservedMicrousd - r.reservedMicrousd
        spentMicrousd := x.spentMicrousd + charged }) (fun _ => rfl) fun _ => rfl]
      cases hi : r.budgetId with
      | none =>
        intro x hx hactive
        rw [hsum, if_neg (by simp [periodOf, hi]), add_zero]
        exact hspent x hx hactive
      | some i =>
        obtain ⟨y, hy, hheld⟩ := budget i hi
        have hmem := Table.mem_of_get? hy
        have hperiod : periodOf b.budgets r = some y.periodStart := by simp [periodOf, hi, hy]
        obtain ⟨y', hy', howned⟩ := howner r hr i hi
        obtain rfl := Option.some.inj (hy.symm.trans hy')
        -- A budget with a hold is not superseded.
        have hactive : y.status = .active := by
          cases hstatus : y.status with
          | active => rfl
          | superseded =>
            have hnothing := hidle y hmem hstatus
            omega
        intro x hx hxs
        rcases (Table.mem_modify _ hy).1 hx with rfl | ⟨hx, hne⟩
        · rw [hsum, if_pos ⟨howned.symm, hperiod⟩]
          exact congrArg (· + charged) (hspent y hmem hactive)
        · rw [hsum, if_neg, add_zero]
          · exact hspent x hx hxs
          · rintro ⟨huser, hstart⟩
            have hmonth : x.month = y.month :=
              Prod.ext (huser.symm.trans howned.symm) (Option.some.inj (hstart.symm.trans hperiod))
            rw [hchained.single x hx y hmem hmonth hxs hactive] at hne
            exact hne (Table.key_of_get? hy)
  | suspend p f hf edit =>
    refine ⟨hchained, hidle, fun x hx hactive => ?_, ?_⟩
    · rw [Table.sum_update_of_eq]
      · exact hspent x hx hactive
      · intro r hr hp
        obtain ⟨hedit, hcharge, -⟩ := edit r hr hp
        rw [chargedIn_edit hedit, hcharge, chargedIn]
    · refine Table.forall_update howner fun r hr hp => ?_
      rw [(edit r hr hp).1.budgetId, (edit r hr hp).1.userId]
      exact howner r hr
  | openBudget x status reserved spent positive first insert =>
    have hnew : ∀ y ∈ b.budgets.rows, y.month ≠ x.month := by
      intro y hy hmonth
      obtain ⟨z, hz, hzm, hzs⟩ := hchained.current y hy
      obtain ⟨huser, hperiod⟩ := Prod.mk.inj (hzm.trans hmonth)
      exact first z hz huser hperiod hzs
    refine ⟨chained_open hchained insert hnew status, ?_, ?_, ?_⟩
    · exact Table.forall_insert insert hidle fun hsuper => by simp [status] at hsuper
    · refine Table.forall_insert insert (fun y hy hys => ?_) fun _ => ?_
      · rw [sum_chargedIn_insert insert fun r hr => h.budgetOf hr]
        exact hspent y hy hys
      · rw [sum_chargedIn_insert insert fun r hr => h.budgetOf hr, h.sum_eq_zero hnew, spent]
    · intro r hr i hi
      obtain ⟨y, hy, huser⟩ := howner r hr i hi
      exact ⟨y, Table.get?_insert_of_some insert hy, huser⟩
  | replaceBudget old x found active idle owner period status reserved spent within insert =>
    have hmem := Table.mem_of_get? found
    have hof : ∀ r ∈ b.requests.rows, ∀ i ∈ r.budgetId,
        ((b.budgets.modify old.id fun y => { y with status := .superseded }).get? i).isSome := by
      intro r hr i hi
      rw [Table.isSome_get?_modify]
      exact h.budgetOf hr i hi
    have hsum (u : Id) (s : Time) := sum_chargedIn_insert insert hof u s
    have hretired : chargedIn (b.budgets.modify old.id fun y => { y with status := .superseded }) =
        chargedIn b.budgets :=
      chargedIn_onBudget (some old.id) (fun y => { y with status := .superseded })
        (fun _ => rfl) fun _ => rfl
    rw [hretired] at hsum
    refine ⟨chained_replace hchained found active insert (Prod.ext owner period) status, ?_, ?_,
      fun r hr i hi => ?_⟩
    · refine Table.forall_insert insert (Table.forall_modify found hidle fun _ =>
        idle) fun hsuper => ?_
      simp [status] at hsuper
    · refine Table.forall_insert insert (Table.forall_modify found ?_ fun hsuper => ?_) fun _ => ?_
      · intro y hy hys
        rw [hsum]
        exact hspent y hy hys
      · cases hsuper
      · rw [hsum, spent, owner, period]
        exact hspent old hmem active
    · obtain ⟨y, hy, huser⟩ := owner_onBudget (some old.id)
          (fun y => { y with status := .superseded }) (fun _ => rfl)
        (fun _ => rfl) (howner r hr i hi)
      exact ⟨y, Table.get?_insert_of_some insert hy, huser⟩
  | _ => exact ⟨hchained, hidle, hspent, howner⟩

theorem Move.superseded {env : Env} {b b' : Books} (m : Move env b b') (hs : b.Sound) (h : b.Capped)
    {i : Id} {x : Budget}
    (hx : b.budgets.get? i = some x) (hstatus : x.status = .superseded) :
    b'.budgets.get? i = some x := by
  have hother {budgetId : Option Id} {f : Budget → Budget} {hf : ∀ y, (f y).id = y.id}
      (hactive : ∀ k ∈ budgetId, ∃ y, b.budgets.get? k = some y ∧ y.status ≠ .superseded) :
      (onBudget b.budgets budgetId f hf).get? i = some x := by
    cases budgetId with
    | none => exact hx
    | some k =>
      obtain ⟨y, hy, hne⟩ := hactive k rfl
      refine (Table.get?_modify b.budgets k i f hf).trans ?_
      rw [if_neg, hx]
      rintro rfl
      obtain rfl := Option.some.inj (hx.symm.trans hy)
      exact hne hstatus
  cases m with
  | hold r w j drawn positive status charged wallet covered budget =>
    refine hother fun k hk => ?_
    obtain ⟨y, hy, -, hactive, -⟩ := budget k hk
    exact ⟨y, hy, by simp [hactive]⟩
  | finish r f hf w charged j kind risk found edit fits charges caller wallet held budget =>
    refine hother fun k hk => ?_
    obtain ⟨y, hy, hheld⟩ := budget k hk
    refine ⟨y, hy, fun hsuper => ?_⟩
    have hpos := hs.positive r (Table.mem_of_get? found)
    have hnothing := h.idle y (Table.mem_of_get? hy) hsuper
    omega
  | openBudget y status reserved spent positive first insert =>
    exact Table.get?_insert_of_some insert hx
  | replaceBudget old y found active idle owner period status reserved spent within insert =>
    have hactive : ∀ k ∈ some old.id, ∃ z, b.budgets.get? k = some z ∧ z.status ≠ .superseded := by
      rintro k ⟨⟩
      exact ⟨old, found, by simp [active]⟩
    exact Table.get?_insert_of_some insert (hother hactive)
  | _ => exact hx

theorem Moves.capped {env : Env} {b b' : Books} (m : Moves env b b') (henv : env.callers)
    (hs : b.Sound) (hh : b.Holds)
    (h : b.Capped) : b'.Capped := by
  induction m with
  | refl => exact h
  | tail ms m ih => exact m.capped henv (Moves.sound ms hs) (Moves.holds ms henv hs hh) ih

theorem Moves.superseded {env : Env} {b b' : Books} (m : Moves env b b')
    (henv : env.callers) (hs : b.Sound)
    (hh : b.Holds) (h : b.Capped) {i : Id} {x : Budget} (hx : b.budgets.get? i = some x)
    (hstatus : x.status = .superseded) : b'.budgets.get? i = some x := by
  induction m with
  | refl => exact hx
  | tail ms m ih => exact m.superseded (Moves.sound ms hs) (Moves.capped ms henv hs hh h) ih hstatus

/-! ## Runs -/

theorem DB.Opened.capped {d : DB} (h : d.Opened) : d.books.Capped where
  chained := ⟨forall_nil h.budgets _, forall_nil h.budgets _⟩
  idle := forall_nil h.budgets _
  spent := forall_nil h.budgets _
  owner := forall_nil h.requests _

/-- The charges of the requests of a user that were admitted under the budgets of a period. -/
def DB.chargedIn (d : DB) (userId : Id) (start : Time) : Int :=
  d.requests.sum (Kunlun.chargedIn d.budgets userId start)

/-- Each user has at most one active budget for a period. It has spent what the requests of the
period were charged, within its limit, and a superseded budget holds nothing. -/
structure DB.MonthsCapped (d : DB) : Prop where
  single : ∀ x ∈ d.budgets.rows, ∀ y ∈ d.budgets.rows, x.userId = y.userId →
    x.periodStart = y.periodStart →
    x.status = .active → y.status = .active → x = y
  spent : ∀ x ∈ d.budgets.rows, x.status = .active →
    x.spentMicrousd = d.chargedIn x.userId x.periodStart
  within : ∀ x ∈ d.budgets.rows, x.status = .active →
    d.chargedIn x.userId x.periodStart ≤ x.limitMicrousd
  idle : ∀ x ∈ d.budgets.rows, x.status = .superseded → x.reservedMicrousd ≤ 0

/-- In every run months are capped, and a superseded budget stays as it is. -/
theorem months_capped {d : DB} (h : d.Opened) {ops : List Op} (hops : ∀ op ∈ ops, op.ByCaller) :
    (Run.after exec d ops).MonthsCapped ∧
      ∀ x ∈ (Run.after exec d ops).budgets.rows, x.status = .superseded → ∀ more : List Op,
        (∀ op ∈ more, op.ByCaller) →
        (Run.after exec (Run.after exec d ops) more).budgets.get? x.id = some x := by
  have moves {d : DB} {ops : List Op} (hops : ∀ op ∈ ops, op.ByCaller) :
      Moves .callerRun d.books (Run.after exec d ops).books := after_moves .callerRun trivial
    (Run.along_of_forall d fun op hop _ =>
      ⟨fun _ => hops op hop, fun _ _ => trivial, fun _ _ => trivial⟩)
  have hsound := sound_after h ops
  have hholds := holds_after h hops
  have hcapped := Moves.capped (moves hops) trivial h.sound h.holds h.capped
  have hspent : ∀ x ∈ (Run.after exec d ops).budgets.rows, x.status = .active →
      x.spentMicrousd = (Run.after exec d ops).chargedIn x.userId x.periodStart := hcapped.spent
  refine ⟨⟨?_, hspent, fun x hx hactive => ?_, hcapped.idle⟩, fun x hx hsuper more hmore => ?_⟩
  · intro x hx y hy huser hperiod
    exact hcapped.chained.single x hx y hy (Prod.ext huser hperiod)
  · have hreserved : 0 ≤ x.reservedMicrousd := by
      rw [hholds.budget x hx]
      refine Table.sum_nonneg _ _ fun r hr => ?_
      have hpos := hsound.positive r hr
      unfold heldUnder
      split <;> omega
    have hwithin := hholds.within x hx
    rw [← hspent x hx hactive]
    omega
  · exact Moves.superseded (moves hmore) trivial hsound hholds hcapped (Table.get?_of_mem hx) hsuper

/-- The request of `chat` is settled, and the budget replaced. -/
def replaced : List Op := chat ++ [
  .settleModelRequest ⟨"r", settlementResponse "m" 10 10, "provider", 0, false, none, none, some 5,
    [.reserved], Json.dumps⟩,
  .createBudget "u" 60000 "c" 0 1]

theorem months_capped_replaced :
    (30 : Int) = (Run.after exec shop replaced).chargedIn "u" 0 ∧
      (Run.after exec (Run.after exec shop replaced) [.createBudget "u" 70000 "d" 0 2]).budgets.get?
        "b" =
        some ⟨"b", "u", 50000, 0, 30, .superseded, 0, 31 * day, 0⟩ := by
  have hops : ∀ op ∈ replaced,
      op.ByCaller := by simp [replaced, chat, Op.ByCaller, RequestStatus.outstanding]
  obtain ⟨hmonths, hstays⟩ := months_capped opened_shop hops
  exact ⟨hmonths.spent ⟨"c", "u", 60000, 0, 30, .active, 0, 31 * day, 1⟩ (by decide +kernel) rfl,
    hstays ⟨"b", "u", 50000, 0, 30, .superseded, 0, 31 * day, 0⟩ (by decide +kernel) rfl
      [.createBudget "u" 70000 "d" 0 2] (by simp [Op.ByCaller])⟩

end Kunlun
