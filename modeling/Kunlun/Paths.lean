import Kunlun.LivePayments
import Kunlun.Lib.Unicode

/-!
# Routes open to the public (`vercel.py`)

What the filter makes of a path before it compares it: it is decoded until it no longer
changes, and its dot segments are resolved.
-/

namespace Kunlun.Paths

open LivePayments

/-! ## `urllib.parse.unquote` -/

def hexValue (c : Nat) : Option Nat :=
  if 48 ≤ c ∧ c ≤ 57 then some (c - 48)
  else if 65 ≤ c ∧ c ≤ 70 then some (c - 55)
  else if 97 ≤ c ∧ c ≤ 102 then some (c - 87)
  else none

/-- Two hexadecimal digits after a percent sign stand for an octet. -/
def unquoteToBytes : PyStr → Octets
  | [] => []
  | 37 :: a :: b :: rest =>
    match hexValue a, hexValue b with
    | some x, some y => (16 * x + y) :: unquoteToBytes rest
    | _, _ => 37 :: unquoteToBytes (a :: b :: rest)
  | c :: rest => c :: unquoteToBytes rest

def isSurrogate (c : Nat) : Bool := 0xD800 ≤ c && c ≤ 0xDFFF

/-- `octets.decode("utf-8", "strict")` -/
def decodeUtf8 (octets : Octets) : Option PyStr := (Unicode.utf8 octets).filter fun s =>
    s.all fun c => !isSurrogate c

/-- Each run of ASCII is decoded by itself. `run` is what has been read of it. -/
def unquoteRuns (run : PyStr) : PyStr → Option PyStr
  | [] => decodeUtf8 (unquoteToBytes run)
  | c :: rest =>
    if c < 128 then unquoteRuns (run ++ [c]) rest
    else do
      let decoded ← decodeUtf8 (unquoteToBytes run)
      let others ← unquoteRuns [] rest
      return decoded ++ c :: others

/-- `unquote(value, errors="strict")` -/
def unquote (value : PyStr) : Option PyStr := if 37 ∈ value then
    unquoteRuns [] value else some value

/-! ## `_canonical_path` -/

def decodeAscii? (octets : Octets) : Option PyStr := if octets.all (· < 128) then
    some octets else none

/-- A path that `count` rounds of decoding bring to rest. -/
def decodeStable : Nat → PyStr → Option PyStr
  | 0, _ => none
  | count + 1, value => do
    let decoded ← unquote value
    if decoded = value then return value else decodeStable count decoded

/-- One turn of the loop over the segments. -/
def pushSegment (segments : List PyStr) (segment : PyStr) : List PyStr :=
  if segment = [] ∨ segment = py "." then segments
  else if segment = py ".." then segments.dropLast
  else segments ++ [segment]

def replaceBackslash (c : Nat) : Nat := if c = 92 then 47 else c

def segmentsOf (value : PyStr) : List PyStr :=
  ((value.map replaceBackslash).splitOn 47).foldl pushSegment []

def asText : Octets ⊕ PyStr → Option PyStr
  | .inl octets => decodeAscii? octets
  | .inr text => some text

section Filter

variable (casefold : PyStr → PyStr)

def canonicalPath (rawPath : Octets ⊕ PyStr) : Option PyStr := do
  let text ← asText rawPath
  let value ← decodeStable 8 text
  if value.any (· < 32) then none
  else return py "/" ++ casefold ((py "/").intercalate (segmentsOf value))

def publicRouteAllowed (rawPath : Octets ⊕ PyStr) : Bool :=
  match canonicalPath casefold rawPath with
  | none => false
  | some path =>
    if path = py "/metrics" ∨ (py "/metrics/").isPrefixOf path then false
    else decide (path ≠ py "/ops") && !(py "/ops/").isPrefixOf path

end Filter

end Kunlun.Paths
