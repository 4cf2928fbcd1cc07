import Kunlun.Json
import Kunlun.Lib.Base64

/-!
# API keys (`security.py`)

The id of a new key is a random text without its `-` and `_`, so its length is random too. The
parser wants four characters of it.
-/

namespace Kunlun

/-- What `secrets.token_bytes` gives. -/
structure RandomBytes (n : Nat) where
  octets : List UInt8
  size : octets.length = n

/-- The six-bit groups of the bytes. -/
def RandomBytes.groups {n : Nat} (bytes : RandomBytes n) : List Nat :=
  Base64.sextets (bytes.octets.map UInt8.toNat)

/-- `secrets.token_urlsafe` -/
def tokenUrlsafe {n : Nat} (bytes : RandomBytes n) : PyStr :=
  Base64.encode (bytes.octets.map UInt8.toNat)

structure ParsedApiKey where
  keyId : PyStr
  secret : PyStr
  deriving DecidableEq

/-- The raw key, and the parts of it that `create_key` stores. -/
def issueApiKey (idBytes : RandomBytes 9) (secretBytes : RandomBytes 32) : PyStr × ParsedApiKey :=
  let keyId := ((tokenUrlsafe idBytes).filter (· ≠ 45)).filter (· ≠ 95)
  let secret := tokenUrlsafe secretBytes
  (py "gw_" ++ keyId ++ py "." ++ secret, ⟨keyId, secret⟩)

/-- `s.split(".", 1)` -/
def splitDot (s : PyStr) : PyStr × PyStr := (s.takeWhile (· ≠ 46), (s.dropWhile (· ≠ 46)).drop 1)

def parseApiKey (raw : PyStr) : Option ParsedApiKey :=
  if ¬ (20 ≤ raw.length ∧ raw.length ≤ 256) ∨ ¬ py "gw_" <+: raw ∨ 46 ∉ raw then none
  else
    let (keyId, secret) := splitDot (raw.drop 3)
    if ¬ (4 ≤ keyId.length ∧ keyId.length ≤ 32) ∨
      ¬ (32 ≤ secret.length ∧ secret.length ≤ 128) then none
    else some ⟨keyId, secret⟩

theorem splitDot_append {s t : PyStr} (hs : 46 ∉ s) : splitDot (s ++ py "." ++ t) = (s, t) := by
  have hs : ∀ c ∈ s, decide (c ≠ 46) = true := fun c hc => decide_eq_true fun h => hs (h ▸ hc)
  have hdot : py "." = [46] := by decide
  rw [splitDot, hdot, List.append_assoc, List.takeWhile_append_of_pos hs,
    List.dropWhile_append_of_pos hs]
  simp

theorem length_tokenUrlsafe {n : Nat} (bytes : RandomBytes n) :
    (tokenUrlsafe bytes).length = (4 * n + 2) / 3 := by
  rw [tokenUrlsafe, Base64.length_encode, List.length_map, bytes.size]

section Issued

variable (idBytes : RandomBytes 9) (secretBytes : RandomBytes 32)

/-- What is left of the id are the characters of the groups below 62. -/
theorem length_keyId : (issueApiKey idBytes secretBytes).2.keyId.length =
    idBytes.groups.countP (· < 62) := by
  simp only [issueApiKey, tokenUrlsafe, Base64.encode, RandomBytes.groups,
    List.filter_filter, List.filter_map, List.length_map, ← List.countP_eq_length_filter]
  refine List.countP_congr fun n _ => ?_
  have h := Base64.digit_alphanumeric_iff n
  simp only [Function.comp_apply, Bool.and_eq_true, decide_eq_true_eq]
  rw [and_comm]
  exact h

theorem length_keyId_le : (issueApiKey idBytes secretBytes).2.keyId.length ≤ 12 := by
  calc (issueApiKey idBytes secretBytes).2.keyId.length
    _ ≤ ((tokenUrlsafe idBytes).filter (· ≠ 45)).length := List.length_filter_le ..
    _ ≤ (tokenUrlsafe idBytes).length := List.length_filter_le ..
    _ = 12 := length_tokenUrlsafe idBytes

theorem keyId_no_dot : 46 ∉ (issueApiKey idBytes secretBytes).2.keyId := by
  intro h
  have hmem := List.mem_of_mem_filter (List.mem_of_mem_filter h)
  have hdigit := Base64.isDigit_of_mem hmem
  unfold Base64.IsDigit at hdigit
  omega

/-- A key that is issued is parsed into its parts exactly if four of the twelve groups of its id
are letters or numbers. -/
theorem issued_parses_iff : parseApiKey (issueApiKey idBytes secretBytes).1 =
    some (issueApiKey idBytes secretBytes).2 ↔
    4 ≤ idBytes.groups.countP (· < 62) := by
  have hid := length_keyId_le idBytes secretBytes
  have hdot := keyId_no_dot idBytes secretBytes
  have hsecret : (issueApiKey idBytes secretBytes).2.secret.length = 43 :=
    length_tokenUrlsafe secretBytes
  rw [← length_keyId idBytes secretBytes]
  generalize hissued : issueApiKey idBytes secretBytes = issued at *
  obtain ⟨raw, keyId, secret⟩ := issued
  dsimp only at hid hdot hsecret ⊢
  have hraw : raw = py "gw_" ++ keyId ++ py "." ++ secret := by
    simp only [issueApiKey, Prod.mk.injEq, ParsedApiKey.mk.injEq] at hissued
    obtain ⟨hraw, rfl, rfl⟩ := hissued
    exact hraw.symm
  have hsplit : splitDot (raw.drop 3) = (keyId, secret) := by
    have hdrop : raw.drop 3 = keyId ++ py "." ++ secret := by
      rw [hraw, List.append_assoc, List.append_assoc, List.append_assoc]
      rfl
    rw [hdrop]
    exact splitDot_append hdot
  have hlength : raw.length = 3 + keyId.length + 1 + secret.length := by
    rw [hraw]
    simp only [List.length_append]
    rfl
  have hform : ¬ (¬ (20 ≤ raw.length ∧ raw.length ≤ 256) ∨ ¬ py "gw_" <+: raw ∨ 46 ∉ raw) := by
    rw [not_or, not_or, not_not, not_not, not_not]
    refine ⟨by omega, ?_, ?_⟩
    · rw [hraw, List.append_assoc, List.append_assoc]
      exact List.prefix_append ..
    · rw [hraw]
      simp [show py "." = [46] from by decide]
  rw [parseApiKey, if_neg hform, hsplit]
  dsimp only
  split_ifs with hshort
  · refine iff_of_false nofun fun h => ?_
    omega
  · refine iff_of_true rfl ?_
    omega

end Issued

/-! ## An id without letters -/

def blankBytes : RandomBytes 9 := ⟨List.replicate 9 255, rfl⟩

def zeroBytes : RandomBytes 32 := ⟨List.replicate 32 0, rfl⟩

/-- The id is twelve times `_`, of which nothing is left. -/
theorem blank_id_not_parsed : ¬ ∀ (idBytes : RandomBytes 9) (secretBytes : RandomBytes 32),
    parseApiKey (issueApiKey idBytes secretBytes).1 = some (issueApiKey idBytes secretBytes).2 := by
  intro h
  exact absurd (h blankBytes zeroBytes) (by decide +kernel)

end Kunlun
