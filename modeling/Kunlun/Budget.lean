import Kunlun.Ledger

/-!
# Calendar-month budgets (`services/budget.py`)
-/

namespace Kunlun

/-! ## Months -/

def day : Time := 86400 * second

/-- Days from the epoch to the first day of a month of the Gregorian calendar. -/
def daysFromCivil (year month : Int) : Int :=
  -- Years run from March to February, so that the leap day comes last.
  let y := if month ≤ 2 then year - 1 else year
  let m := if month ≤ 2 then month + 9 else month - 3
  let era := y / 400
  let yoe := y % 400
  era * 146097 + (yoe * 365 + yoe / 4 - yoe / 100 + (153 * m + 2) / 5) - 719468

/-- The year and the month of a day. -/
def civilFromDays (days : Int) : Int × Int :=
  let z := days + 719468
  let era := z / 146097
  let doe := z % 146097
  let yoe := (doe - doe / 1460 + doe / 36524 - doe / 146096) / 365
  let doy := doe - (365 * yoe + yoe / 4 - yoe / 100)
  let mp := (5 * doy + 2) / 153
  let month := if mp < 10 then mp + 3 else mp - 9
  (yoe + era * 400 + (if month ≤ 2 then 1 else 0), month)

def monthBounds (now : Time) : Time × Time :=
  let (year, month) := civilFromDays (now / day)
  (daysFromCivil year month * day,
    (if month = 12 then daysFromCivil (year + 1) 1 else daysFromCivil year (month + 1)) * day)

/-- `2024-02-29 12:00` lies in the month from `2024-02-01` to `2024-03-01`. -/
example : monthBounds (19782 * day + day / 2) = (19754 * day, 19783 * day) := by decide

/-! ## Budgets -/

/-- `ORDER BY created_at DESC`, the first row. -/
def newest (budgets : List Budget) : Option Budget := Table.firstDesc Budget.createdAt budgets

def currentBudget (userId : Id) (start : Time) (d : DB) : Option Budget :=
  newest (d.budgets.rows.filter fun b => b.userId = userId ∧ b.status = .active ∧
    b.periodStart = start)

def activeBudget (userId : Id) (now : Time) (d : DB) : Option Budget :=
  newest (d.budgets.rows.filter fun b =>
    b.userId = userId ∧ b.status = .active ∧ b.periodStart ≤ now ∧ now < b.periodEnd)

def newBudget (budgetId userId : Id) (amount carriedSpend : Int)
    (now createdAt : Time) : Budget where
  id := budgetId
  userId := userId
  limitMicrousd := amount
  reservedMicrousd := 0
  spentMicrousd := carriedSpend
  status := .active
  periodStart := (monthBounds now).1
  periodEnd := (monthBounds now).2
  createdAt := createdAt

def createBudget (userId : Id) (amount : Int) (budgetId : Id) (now createdAt : Time) :
    Service Budget := do
  Tx.raiseIf (amount ≤ 0) (.budget "预算必须大于 0" 422)
  -- The no-op update locks the wallet row.
  let locked ← Tx.execute (DB.updateWallets (fun w => w.userId = userId)
    (fun w => w) DB.userId_locked)
  Tx.rollbackIf (locked ≠ 1) (.budget "钱包不存在" 409)
  let current ← Tx.select (currentBudget userId (monthBounds now).1)
  match current with
  | none => do
    Tx.add (DB.insertBudget (newBudget budgetId userId amount 0 now createdAt))
    Tx.commit
    return newBudget budgetId userId amount 0 now createdAt
  | some current => do
    Tx.rollbackIf (0 < current.reservedMicrousd) (.budget "仍有模型请求待结算，暂不能替换预算" 409)
    Tx.rollbackIf (amount < current.spentMicrousd) (.budget "新预算不能低于本月已发生支出" 409)
    Tx.add (DB.flushing (DB.updateBudgets (fun b => b.id = current.id) fun b =>
      { b with status := .superseded }))
    Tx.add (DB.insertBudget (newBudget budgetId userId amount current.spentMicrousd now createdAt))
    Tx.commit
    return newBudget budgetId userId amount current.spentMicrousd now createdAt

theorem currentBudget_some {userId : Id} {start : Time} {d : DB} {b : Budget}
    (h : currentBudget userId start d = some b) :
    b ∈ d.budgets.rows ∧ b.userId = userId ∧ b.status = .active ∧ b.periodStart = start := by
  have := Table.mem_of_firstDesc h
  simpa using this

theorem currentBudget_none {userId : Id} {start : Time} {d : DB}
    (h : currentBudget userId start d = none) :
    ∀ b ∈ d.budgets.rows, b.userId = userId → b.periodStart = start → b.status ≠ .active := by
  intro b hb huser hstart hactive
  have := Table.firstDesc_eq_none.1 h
  simp only [List.filter_eq_nil_iff, decide_eq_true_eq] at this
  exact this b hb ⟨huser, hactive, hstart⟩

end Kunlun
