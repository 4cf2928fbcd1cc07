import Kunlun.Json
import Kunlun.Lib.Decimal
import Mathlib.Data.List.Lex
import Mathlib.Data.Prod.Lex

/-!
# Metrics (`observability.py`)

A counter is a float under a name and its labels, and a scrape prints all of them as text. Which
characters are blank or alphanumeric is Python's to say.
-/

namespace Kunlun.Metrics

structure Library where
  isAlnum : Nat → Bool
  isSpace : Nat → Bool
  /-- `sum` of floats. -/
  sum : List ℚ → ℚ

structure ValueError where
  message : String
  deriving DecidableEq

structure Series where
  name : PyStr
  labels : List (PyStr × PyStr)
  deriving DecidableEq

/-- Python orders pairs by their first parts. -/
def Series.key (s : Series) : PyStr ×ₗ List (PyStr ×ₗ PyStr) := toLex (s.name, s.labels.map toLex)

/-- `labels.items()`, each value as `str` writes it unless it is `None`. -/
abbrev Labels := List (PyStr × Option PyStr)

/-! ## Names and labels -/

section Names

variable (L : Library)

def strip (s : PyStr) : PyStr := (s.dropWhile L.isSpace).rdropWhile L.isSpace

/-- `s.split()` -/
def split (s : PyStr) : List PyStr := (s.splitOnP L.isSpace).filter (· ≠ [])

def safeMetricLabel (value : Option PyStr) : PyStr :=
  ([32].intercalate (split L (value.getD []))).take 128

/-- `c.isalnum() or c == "_"` -/
def isNameChar (c : Nat) : Bool := L.isAlnum c || c = 95

/-- A text of at most `limit` characters, all of them of a name. -/
def nameOf (limit : Nat) (message : String) (s : PyStr) : Except ValueError PyStr :=
  let text := strip L s
  if text = [] ∨ limit < text.length ∨ ¬ text.all (isNameChar L) then .error ⟨message⟩ else .ok text

def metricName : PyStr → Except ValueError PyStr := nameOf L 128 "invalid metric name"

def labelName : PyStr → Except ValueError PyStr := nameOf L 64 "invalid metric label"

/-- `_labels` -/
def labelsOf (labels : Labels) : Except ValueError (List (PyStr × PyStr)) :=
  if 8 < labels.length then .error ⟨"too many metric labels"⟩
  else (labels.mergeSort fun p q => decide (p.1 ≤ q.1)).mapM fun p => do
    let label ← labelName L p.1
    return (label, safeMetricLabel L p.2)

def seriesOf (name : PyStr) (labels : Labels) : Except ValueError Series := do
  let name ← metricName L name
  let labels ← labelsOf L labels
  return ⟨name, labels⟩

end Names

/-! ## The registry -/

structure Registry where
  counters : List (Series × ℚ)
  observations : List (Series × List ℚ)

def Registry.fresh : Registry := ⟨[], []⟩

section Dictionary

variable {α : Type}

/-- `m[k] = f(m[k])` in a `defaultdict`. -/
def upsert (m : List (Series × α)) (k : Series) (default : α) (f : α → α) : List (Series × α) :=
  if k ∈ m.map Prod.fst then m.map fun p => if p.1 = k then (k, f p.2) else p
  else m ++ [(k, f default)]

end Dictionary

section Calls

variable (L : Library)

/-- The sum is a float, as both of its terms are. -/
def inc (r : Registry) (name : PyStr) (value : ℚ) (labels : Labels) :
    Except ValueError Registry := do
  if value < 0 then throw ⟨"counter increment must be non-negative"⟩
  let series ← seriesOf L name labels
  return { r with counters := upsert r.counters series 0 fun v =>
    Binary64.round (v + Binary64.round value) }

def observe (r : Registry) (name : PyStr) (value : ℚ) (labels : Labels) :
    Except ValueError Registry := do
  let series ← seriesOf L name labels
  return { r with observations := upsert r.observations series [] fun values =>
    if values.length < 10000 then values ++ [Binary64.round value] else values }

end Calls

/-! ## The text -/

/-- `s.replace(c, t)` -/
def replace (c : Nat) (t s : PyStr) : PyStr := s.flatMap fun x => if x = c then t else [x]

def escape (value : PyStr) : PyStr :=
  replace 10 [32] (replace 34 [92, 34] (replace 92 [92, 92] value))

def formatLabel (label : PyStr × PyStr) : PyStr := label.1 ++ py "=\"" ++ escape label.2 ++ py "\""

def formatLabels (labels : List (PyStr × PyStr)) : PyStr :=
  if labels = [] then [] else py "\x7b" ++ (py ",").intercalate
    (labels.map formatLabel) ++ py "\x7d"

def sortedItems {α : Type} (m : List (Series × α)) : List (Series × α) := m.mergeSort fun p q =>
    decide (p.1.key ≤ q.1.key)

def counterLine (p : Series × ℚ) : PyStr :=
  p.1.name ++ formatLabels p.1.labels ++ py " " ++ Decimal.format p.2

def observationLines (L : Library) (p : Series × List ℚ) : List PyStr :=
  if p.2 = [] then []
  else [p.1.name ++ py "_count" ++ formatLabels p.1.labels ++ py " " ++ py (toString p.2.length),
    p.1.name ++ py "_sum" ++ formatLabels p.1.labels ++ py " " ++ Decimal.formatSigned (L.sum p.2)]

def scrape (L : Library) (r : Registry) : PyStr :=
  let lines := (sortedItems r.counters).map counterLine ++ (sortedItems r.observations).flatMap
    (observationLines L)
  (py "\n").intercalate lines ++ if lines = [] then [] else py "\n"

/-! ## A run of increments -/

structure IncCall where
  name : PyStr
  value : Nat
  labels : Labels

section Runs

variable (L : Library)

/-- A call that raises leaves the registry as it is. -/
def apply (r : Registry) (c : IncCall) : Registry :=
  ((inc L r c.name c.value c.labels).toOption).getD r

def run (calls : List IncCall) : Registry := calls.foldl (apply L) .fresh

def IncCall.series? (c : IncCall) : Option Series := (seriesOf L c.name c.labels).toOption

/-- What has been added to the series. -/
def total (calls : List IncCall) (s : Series) : Nat :=
  ((calls.filter fun c => decide (c.series? L = some s)).map IncCall.value).sum

/-- The series that some call has counted. -/
def counted (calls : List IncCall) : List Series := (calls.filterMap (IncCall.series? L)).dedup

end Runs

end Kunlun.Metrics
