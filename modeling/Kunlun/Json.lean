import Mathlib.Tactic.Common

/-!
# Python values read from JSON

Text is a list of code points, because `json.loads` accepts lone surrogates, which no
`Char` is. A dictionary lists its items, and its keys differ.
-/

namespace Kunlun

abbrev PyStr := List Nat

/-- Texts are compared code point by code point. -/
instance lawfulBEq_text : LawfulBEq PyStr := inferInstance

/-- A string literal of the source. -/
def py (s : String) : PyStr := s.toList.map Char.toNat

/-- A float is the text that `json.dumps` writes for it. -/
inductive Json where
  | null
  | bool (b : Bool)
  | int (n : Int)
  | float (repr : PyStr)
  | str (s : PyStr)
  | arr (items : List Json)
  | obj (items : List (PyStr × Json))

namespace Json

def get? : Json → PyStr → Option Json
  | .obj items, k => (items.find? fun p => p.1 = k).map (·.2)
  | _, _ => none

/-- `isinstance(x, int)`, which is true of the two truth values as well. -/
def asInt? : Json → Option Int
  | .int n => some n
  | .bool b => some (if b then 1 else 0)
  | _ => none

def isObj : Json → Bool
  | .obj _ => true
  | _ => false

/-- Python's truth of a value. -/
def truthy : Json → Bool
  | .null => false
  | .bool b => b
  | .int n => n ≠ 0
  | .float r => r ≠ py "0.0" ∧ r ≠ py "-0.0"
  | .str s => s ≠ []
  | .arr items => items.isEmpty = false
  | .obj items => items.isEmpty = false

/-! ## `json.dumps(value, ensure_ascii=False, separators=(",", ":"))` -/

def hexDigit (n : Nat) : Nat := if n < 10 then 48 + n else 87 + n

def escapeChar (c : Nat) : PyStr :=
  if c = 34 then py "\\\""
  else if c = 92 then py "\\\\"
  else if c = 10 then py "\\n"
  else if c = 13 then py "\\r"
  else if c = 9 then py "\\t"
  else if c = 12 then py "\\f"
  else if c = 8 then py "\\b"
  else if c < 32 then py "\\u00" ++ [hexDigit (c / 16), hexDigit (c % 16)]
  else [c]

def quote (s : PyStr) : PyStr := [34] ++ s.flatMap escapeChar ++ [34]

mutual

def dumps : Json → PyStr
  | .null => py "null"
  | .bool b => py (if b then "true" else "false")
  | .int n => py (toString n)
  | .float r => r
  | .str s => quote s
  | .arr items => py "[" ++ dumpsItems items ++ py "]"
  | .obj items => py "\x7b" ++ dumpsPairs items ++ py "\x7d"

def dumpsItems : List Json → PyStr
  | [] => []
  | [x] => dumps x
  | x :: y :: xs => dumps x ++ py "," ++ dumpsItems (y :: xs)

def dumpsPairs : List (PyStr × Json) → PyStr
  | [] => []
  | [p] => quote p.1 ++ py ":" ++ dumps p.2
  | p :: q :: ps => quote p.1 ++ py ":" ++ dumps p.2 ++ py "," ++ dumpsPairs (q :: ps)

end

end Json

/-- The length of the UTF-8 text, or `UnicodeEncodeError` on a lone surrogate. -/
def utf8Length? : PyStr → Option Nat
  | [] => some 0
  | c :: cs =>
    if 0xD800 ≤ c ∧ c ≤ 0xDFFF then none
    else (utf8Length? cs).map
      (· + (if c < 0x80 then 1 else if c < 0x800 then 2 else if c < 0x10000 then 3 else 4))

end Kunlun
