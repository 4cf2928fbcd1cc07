import Kunlun.OpsTokens

/-!
# Minted tokens are read back (`services/ops_tokens.py`)

`ensure_ascii` makes twelve characters of one at worst, and base64 four of three. The longest
token that can be minted still fits.
-/

namespace Kunlun.OpsTokens

/-! ## Text in ASCII -/

def IsAscii (s : PyStr) : Prop := ∀ c ∈ s, c < 128

theorem ascii_hexFour (n : Nat) : IsAscii (hexFour n) := by
  intro c hc
  obtain ⟨m, -, rfl⟩ := List.mem_map.1 hc
  unfold Json.hexDigit
  split_ifs <;> omega

theorem ascii_asciiChar (c : Nat) : IsAscii (asciiChar c) := by
  have hslash : ∀ c ∈ py "\\u", c < 128 := by decide
  unfold asciiChar
  split_ifs with h1 h2
  · intro x hx
    rw [List.mem_singleton.1 hx]
    omega
  · exact List.forall_mem_append.2 ⟨hslash, ascii_hexFour _⟩
  · exact List.forall_mem_append.2
      ⟨List.forall_mem_append.2 ⟨List.forall_mem_append.2 ⟨hslash, ascii_hexFour _⟩, hslash⟩,
        ascii_hexFour _⟩

theorem ascii_dumpsAscii (v : Json) : IsAscii v.dumpsAscii := by
  intro c hc
  obtain ⟨x, -, hc⟩ := List.mem_flatMap.1 hc
  exact ascii_asciiChar x c hc

theorem utf8?_ascii {s : PyStr} (h : IsAscii s) : utf8? s = some (s.map Nat.toUInt8) := by
  induction s with
  | nil => rfl
  | cons c s ih =>
    have hc : c < 128 := h c List.mem_cons_self
    have hvalid : c.isValidChar := .inl (by omega)
    rw [utf8?, if_pos hvalid, ih fun x hx => h x (List.mem_cons_of_mem _ hx), utf8Bytes,
      if_pos (by omega)]
    rfl

theorem ascii_b64encode (value : Bytes) : IsAscii (b64encode value) := by
  intro c hc
  have h := Base64.isDigit_of_mem hc
  unfold Base64.IsDigit at h
  omega

theorem b64encode_no_dot (value : Bytes) : 46 ∉ b64encode value := by
  intro hc
  have h := Base64.isDigit_of_mem hc
  unfold Base64.IsDigit at h
  omega

theorem length_b64encode (value : Bytes) :
    (b64encode value).length = (4 * value.length + 2) / 3 := by
  rw [b64encode, Base64.length_encode, List.length_map]

theorem b64decode_b64encode (value : Bytes) : b64decode (b64encode value) = .ok value := by
  have hoctets : ∀ x ∈ value.map UInt8.toNat, x < 256 := by
    intro x hx
    obtain ⟨b, -, rfl⟩ := List.mem_map.1 hx
    exact b.toNat_lt
  have hback : (value.map UInt8.toNat).map Nat.toUInt8 = value := by
    rw [List.map_map]
    exact List.map_id'' (fun b => UInt8.ofNat_toNat) value
  rw [b64decode, b64encode, Base64.decode_encode hoctets]
  exact congrArg Except.ok hback

/-! ## Lengths -/

/-- What `json.dumps` makes of a text that it has escaped. -/
def asciiText (s : PyStr) : PyStr := s.flatMap asciiChar

@[simp]
theorem asciiText_append (s t : PyStr) : asciiText (s ++ t) = asciiText s ++ asciiText t :=
  List.flatMap_append

theorem asciiText_eq {s : PyStr} (h : ∀ c ∈ s, c < 127) : asciiText s = s := by
  induction s with
  | nil => rfl
  | cons c s ih =>
    have hc : asciiChar c = [c] := if_pos (h c List.mem_cons_self)
    rw [asciiText, List.flatMap_cons, hc]
    exact congrArg (c :: ·) (ih fun x hx => h x (List.mem_cons_of_mem _ hx))

theorem length_asciiChar_le (c : Nat) : (asciiChar c).length ≤ 12 := by
  unfold asciiChar
  split_ifs
  · simp
  · simp [hexFour, py]
  · simp [hexFour, py]

theorem length_escaped_le (c : Nat) : (asciiText (Json.escapeChar c)).length ≤ 12 := by
  unfold Json.escapeChar
  split_ifs with h1 h2 h3 h4 h5 h6 h7 h8
  all_goals try decide
  · have hhead : (asciiText (py "\\u00")).length = 4 := by decide
    rw [asciiText_append, List.length_append, hhead, asciiText_eq (s := [_, _])]
    · exact Nat.le_add_left 6 6
    · simp only [List.mem_cons, List.not_mem_nil, or_false, forall_eq_or_imp,
        forall_eq, Json.hexDigit]
      split_ifs <;> omega
  · simpa [asciiText] using length_asciiChar_le c

theorem length_quoted_le (s : PyStr) : (asciiText (Json.quote s)).length ≤ 12 * s.length + 2 := by
  have hbody : (asciiText (s.flatMap Json.escapeChar)).length ≤ 12 * s.length := by
    induction s with
    | nil => exact le_rfl
    | cons c s ih =>
      have hc := length_escaped_le c
      rw [List.flatMap_cons, asciiText_append, List.length_append, List.length_cons]
      omega
  have hmark : (asciiText [34]).length = 1 := by decide
  rw [Json.quote, asciiText_append, asciiText_append, List.length_append, List.length_append, hmark]
  omega

theorem printable_repr (n : Nat) : ∀ c ∈ py n.repr, c < 127 := by
  intro c hc
  obtain ⟨x, hx, rfl⟩ := List.mem_map.1 hc
  rw [Nat.toList_repr] at hx
  have hdigit := Nat.isDigit_of_mem_toDigits (by decide) (by decide) hx
  simp only [Char.isDigit, Bool.and_eq_true, decide_eq_true_eq] at hdigit
  have h := hdigit.2
  rw [UInt32.le_iff_toNat_le] at h
  exact Nat.lt_of_le_of_lt h (by decide)

theorem length_repr_le {n : Nat} (h : n < 10 ^ 19) : (py n.repr).length ≤ 19 := by
  rw [py, List.length_map]
  exact (Nat.length_repr_le_iff (by decide)).2 h

theorem length_int_le {n : Int} (h : n.natAbs < 10 ^ 19) :
    (asciiText (py (toString n))).length ≤ 20 := by
  rw [Int.toString_eq_repr]
  cases n with
  | ofNat m =>
    rw [Int.repr, asciiText_eq (printable_repr m)]
    have hm := length_repr_le (n := m) h
    omega
  | negSucc m =>
    have hm := length_repr_le (n := m + 1) h
    have hsplit : py ("-" ++ (m + 1).repr) = py "-" ++ py (m + 1).repr := by simp [py]
    have hsign : asciiText (py "-") = py "-" := by decide
    show (asciiText (py ("-" ++ (m + 1).repr))).length ≤ 20
    rw [hsplit, asciiText_append, asciiText_eq (printable_repr _), hsign, List.length_append]
    have hone : (py "-").length = 1 := by decide
    omega

theorem length_items_le (items : List Json) : (asciiText (Json.dumpsItems items)).length ≤
    (items.map fun x => (asciiText x.dumps).length + 1).sum := by
  induction items with
  | nil => exact le_rfl
  | cons x items ih =>
    cases items with
    | nil => simp [Json.dumpsItems]
    | cons y items =>
      have hcomma : (asciiText (py ",")).length = 1 := by decide
      rw [Json.dumpsItems, asciiText_append, asciiText_append, List.length_append,
        List.length_append, hcomma, List.map_cons, List.sum_cons]
      omega

theorem length_scopes_le {scopes : Finset PyStr} (h : scopes ⊆ allowedScopes) :
    (asciiText (Json.dumpsItems (scopes.sort.map .str))).length ≤ 150 := by
  have hsum : ((scopes.sort.map Json.str).map fun x => (asciiText x.dumps).length + 1).sum =
      ∑ s ∈ scopes, ((asciiText (Json.quote s)).length + 1) := by
    rw [List.map_map, Finset.sum, ← Finset.sort_eq scopes (· ≤ ·),
      Multiset.map_coe, Multiset.sum_coe]
    rfl
  calc (asciiText (Json.dumpsItems (scopes.sort.map .str))).length
    _ ≤ ((scopes.sort.map Json.str).map fun x => (asciiText x.dumps).length + 1).sum :=
    length_items_le _
    _ = ∑ s ∈ scopes, ((asciiText (Json.quote s)).length + 1) := hsum
    _ ≤ ∑ s ∈ allowedScopes, ((asciiText (Json.quote s)).length + 1) :=
    Finset.sum_le_sum_of_subset h
    _ ≤ 150 := by decide +kernel

namespace MintArgs

/-- What a caller may ask for. -/
structure Valid (a : MintArgs) : Prop where
  named : 1 ≤ a.subject.length
  short : a.subject.length ≤ 200
  some : a.scopes.Nonempty
  allowed : a.scopes ⊆ allowedScopes
  lasting : 30 ≤ a.ttlSeconds
  brief : a.ttlSeconds ≤ 900

variable {a : MintArgs}

theorem length_payload_le (h : a.Valid) (htime : a.now.natAbs ≤ 2 ^ 63) :
    a.payload.dumpsAscii.length ≤ 2960 := by
  have hexp : (asciiText (py (toString (a.now + a.ttlSeconds)))).length ≤ 20 := by
    refine length_int_le ?_
    have hlasting := h.lasting
    have hbrief := h.brief
    omega
  have hiat : (asciiText (py (toString a.now))).length ≤ 20 := length_int_le (by omega)
  have hjti := length_quoted_le (tokenUrlsafe a.random)
  rw [length_tokenUrlsafe] at hjti
  have hscopes := length_scopes_le h.allowed
  have hsub := length_quoted_le a.subject
  have hshort := h.short
  have hdumps : a.payload.dumpsAscii = asciiText
    (py "\x7b" ++ (Json.quote (py "aud") ++ py ":" ++ Json.quote audience ++ py "," ++
      (Json.quote (py "exp") ++ py ":" ++ py (toString (a.now + a.ttlSeconds)) ++ py "," ++
      (Json.quote (py "iat") ++ py ":" ++ py (toString a.now) ++ py "," ++
      (Json.quote (py "jti") ++ py ":" ++ Json.quote (tokenUrlsafe a.random) ++ py "," ++
      (Json.quote (py "scp") ++ py ":" ++
        (py "[" ++ Json.dumpsItems (a.scopes.sort.map .str) ++ py "]") ++ py "," ++
      (Json.quote (py "sub") ++ py ":" ++ Json.quote a.subject)))))) ++ py "\x7d") := by
    rfl
  have hkey : ∀ k ∈ [py "aud", py "exp", py "iat", py "jti", py "scp", py "sub"],
      (asciiText (Json.quote k)).length = 5 := by
    decide +kernel
  have hmark : ∀ k ∈ [py "\x7b", py "\x7d", py ":", py ",", py "[", py "]"],
      (asciiText k).length = 1 := by decide +kernel
  simp only [List.mem_cons, List.not_mem_nil, or_false, forall_eq_or_imp, forall_eq] at hkey hmark
  obtain ⟨k1, k2, k3, k4, k5, k6⟩ := hkey
  obtain ⟨m1, m2, m3, m4, m5, m6⟩ := hmark
  have haud : (asciiText (Json.quote audience)).length = 20 := by decide +kernel
  rw [hdumps]
  simp only [asciiText_append, List.length_append]
  omega

/-! ## The claims are read back -/

theorem textsOf?_texts (texts : List PyStr) : textsOf? (.arr (texts.map .str)) = some texts := by
  unfold textsOf?
  induction texts with
  | nil => rfl
  | cons t texts ih =>
    dsimp only at ih ⊢
    rw [List.map_cons, List.mapM_cons, ih]
    rfl

theorem nonemptyText?_eq {s : PyStr} (h : s ≠ []) : nonemptyText? (.str s) = some s := by
  rw [nonemptyText?, textOf?, Option.filter_some, if_pos (decide_eq_true h)]

def claims (a : MintArgs) : OperatorClaims :=
  ⟨a.subject, a.scopes, a.now, a.now + a.ttlSeconds, tokenUrlsafe a.random⟩

theorem readClaims_payload (h : a.Valid) : readClaims a.payload = .ok a.claims := by
  have haud : a.payload.get? (py "aud") = some (.str audience) := rfl
  have hsub : a.payload.get? (py "sub") = some (.str a.subject) := rfl
  have hscp : a.payload.get? (py "scp") = some (.arr (a.scopes.sort.map .str)) := rfl
  have hiat : a.payload.get? (py "iat") = some (.int a.now) := rfl
  have hexp : a.payload.get? (py "exp") = some (.int (a.now + a.ttlSeconds)) := rfl
  have hjti : a.payload.get? (py "jti") = some (.str (tokenUrlsafe a.random)) := rfl
  have hsubject : a.subject ≠ [] := List.ne_nil_of_length_pos h.named
  have htoken : tokenUrlsafe a.random ≠ [] :=
    List.ne_nil_of_length_pos (by rw [length_tokenUrlsafe]; decide)
  have hclaims : claimsOf? a.payload = some a.claims := by
    simp only [claimsOf?, hsub, hscp, hiat, hexp, hjti, Option.bind_some, nonemptyText?_eq hsubject,
      nonemptyText?_eq htoken, textsOf?_texts, Json.asInt?, Option.bind_eq_bind, Option.pure_def,
      Finset.sort_toFinset]
    rfl
  rw [readClaims, haud, hclaims]
  exact if_neg (not_not.2 rfl)

theorem checkClaims_iff (h : a.Valid) {requiredScope : PyStr} {v : Int} {c : OperatorClaims} :
    checkClaims a.claims requiredScope v = .ok c ↔
      (requiredScope ∈ a.scopes ∧ a.now - 30 ≤ v ∧ v < a.now + a.ttlSeconds) ∧ c = a.claims := by
  have hallowed := h.allowed
  have hlasting := h.lasting
  have hbrief := h.brief
  have hscopes : a.claims.scopes = a.scopes := rfl
  have hissued : a.claims.issuedAt = a.now := rfl
  have hexpires : a.claims.expiresAt = a.now + a.ttlSeconds := rfl
  unfold checkClaims
  rw [hscopes, hissued, hexpires]
  split_ifs with hscope htime hexpired
  · refine iff_of_false nofun fun hc => ?_
    exact hscope.elim (fun hnot => hnot hallowed) fun hnot => hnot hc.1.1
  · refine iff_of_false nofun fun hc => ?_
    omega
  · refine iff_of_false nofun fun hc => ?_
    omega
  · have hmem : requiredScope ∈ a.scopes := by
      by_contra hnot
      exact hscope (.inr hnot)
    rw [Except.ok.injEq, eq_comm]
    exact ⟨fun hc => ⟨⟨hmem, by omega, by omega⟩, hc⟩, And.right⟩

end MintArgs

/-! ## Verification of what was minted -/

theorem splitToken_eq {encoded signature : PyStr} (hencoded : 46 ∉ encoded)
    (hsignature : 46 ∉ signature) :
    splitToken (signingInput encoded ++ py "." ++ signature) = .ok (encoded, signature) := by
  have hjoin : signingInput encoded ++ py "." ++ signature = [46].intercalate
      [py "ops1", encoded, signature] := by
    have hhead : py "ops1." = py "ops1" ++ [46] := by decide
    have hdot : py "." = [46] := by decide
    rw [signingInput, hhead, hdot]
    simp [List.intercalate, List.intersperse]
  have hhead : 46 ∉ py "ops1" := by decide
  have hparts : (signingInput encoded ++ py "." ++ signature).splitOn 46 =
      [py "ops1", encoded, signature] := by
    rw [hjoin]
    refine List.splitOn_intercalate 46 (fun part hpart => ?_) (by simp)
    simp only [List.mem_cons, List.not_mem_nil, or_false] at hpart
    rcases hpart with rfl | rfl | rfl
    · exact hhead
    · exact hencoded
    · exact hsignature
  rw [splitToken, hparts]
  exact if_pos rfl

/-- `json.loads` reads back what `json.dumps` wrote. -/
def Library.RoundTrips (L : Library) (v : Json) : Prop := ∀ text, utf8? v.dumpsAscii = some text →
    L.loads text = .ok v

def payloadBytes (a : MintArgs) : Bytes := a.payload.dumpsAscii.map Nat.toUInt8

def mintedSignature (L : Library) (key : Bytes) (a : MintArgs) : Digest :=
  L.hmacSha256 key ((signingInput (b64encode (payloadBytes a))).map Nat.toUInt8)

def mintedToken (L : Library) (key : Bytes) (a : MintArgs) : PyStr :=
  signingInput (b64encode (payloadBytes a)) ++ py "." ++ b64encode (mintedSignature L key a).octets

section Minted

variable {L : Library} {key : Bytes} {secret : PyStr} {a : MintArgs}

theorem ascii_signingInput (value : Bytes) : IsAscii (signingInput (b64encode value)) :=
  ascii_signingInput_iff.2 (ascii_b64encode value)

theorem mint_eq (hkey : validateSecret secret = .ok key) (h : a.Valid) :
    mintOperatorToken L secret a = .ok (mintedToken L key a) := by
  have hsubject : ¬ (a.subject = [] ∨ 200 < a.subject.length) := by
    have hnamed := h.named
    have hshort := h.short
    rintro (hnil | hlong)
    · rw [hnil] at hnamed
      exact absurd hnamed (by decide)
    · omega
  have hscopes : ¬ (a.scopes = ∅ ∨ ¬ a.scopes ⊆ allowedScopes) := by
    rw [not_or, not_not]
    exact ⟨h.some.ne_empty, h.allowed⟩
  have httl : ¬ (a.ttlSeconds < 30 ∨ 900 < a.ttlSeconds) := by
    have hlasting := h.lasting
    have hbrief := h.brief
    omega
  unfold mintOperatorToken
  refine except_bind_ok.2 ⟨key, hkey, ?_⟩
  rw [if_neg hsubject, if_neg hscopes, if_neg httl]
  refine except_bind_ok.2 ⟨payloadBytes a, orEncodeError_ok.2 (utf8?_ascii (ascii_dumpsAscii _)),
    ?_⟩
  exact except_bind_ok.2 ⟨_, orEncodeError_ok.2 (encodeAscii?_eq (ascii_signingInput _)), rfl⟩

theorem length_minted (h : a.Valid) (htime : a.now.natAbs ≤ 2 ^ 63) :
    (mintedToken L key a).length ≤ 4096 := by
  have hpayload := MintArgs.length_payload_le h htime
  have hdigest := (mintedSignature L key a).size
  have hhead : (py "ops1.").length = 5 := by decide
  have hdot : (py ".").length = 1 := by decide
  simp only [mintedToken, signingInput, payloadBytes, List.length_append, length_b64encode,
    List.length_map, hhead, hdot, hdigest]
  omega

theorem verify_minted_iff (hkey : validateSecret secret = .ok key) (h : a.Valid)
    (htime : a.now.natAbs ≤ 2 ^ 63)
    (hjson : L.RoundTrips a.payload) {requiredScope : PyStr} {v : Int} {c : OperatorClaims} :
    verifyOperatorToken L (mintedToken L key a) secret requiredScope v = .ok c ↔
      (requiredScope ∈ a.scopes ∧ a.now - 30 ≤ v ∧ v < a.now + a.ttlSeconds) ∧ c = a.claims := by
  have hlength : ¬ ¬ (1 ≤ (mintedToken L key a).length ∧ (mintedToken L key a).length ≤ 4096) := by
    refine not_not.2 ⟨?_, length_minted h htime⟩
    rw [mintedToken, signingInput, List.append_assoc, List.append_assoc, List.length_append]
    exact Nat.le_add_right_of_le (by decide)
  have hload : loadPayload L (b64encode (payloadBytes a)) = .ok a.payload := by
    unfold loadPayload
    have hpayload : L.loads (payloadBytes a) = .ok a.payload :=
      hjson _ (utf8?_ascii (ascii_dumpsAscii _))
    rw [except_bind_eq (b64decode_b64encode _), hpayload]
  rw [← MintArgs.checkClaims_iff h]
  unfold verifyOperatorToken
  rw [except_bind_eq hkey, if_neg hlength]
  by_cases hscope : requiredScope ∈ allowedScopes
  · have hsplit : splitToken (mintedToken L key a) =
        .ok (b64encode (payloadBytes a), b64encode (mintedSignature L key a).octets) :=
      splitToken_eq (b64encode_no_dot _) (b64encode_no_dot _)
    have hsigned := orEncodeError_ok.2 (encodeAscii?_eq (ascii_signingInput (payloadBytes a)))
    have hsame : ¬ (mintedSignature L key a).octets ≠ (mintedSignature L key a).octets :=
      not_not.2 rfl
    dsimp only
    rw [if_neg (not_not.2 hscope), except_bind_eq hsplit]
    dsimp only
    rw [except_bind_eq hsigned, except_bind_eq (b64decode_b64encode _)]
    rw [← mintedSignature, if_neg hsame, except_bind_eq hload,
      except_bind_eq (MintArgs.readClaims_payload h)]
  · rw [if_pos hscope]
    refine iff_of_false (fun h => by cases h) fun hchecked => ?_
    exact hscope (h.allowed ((MintArgs.checkClaims_iff h).1 hchecked).1.1)

/-- A minted token is within the limit, and is verified exactly for a scope that it has and at a
time in its window, with the claims that were asked for. The clock counts nanoseconds in 64 bits,
so it shows no second beyond `htime`. -/
theorem minted_token_verifies_iff (hkey : validateSecret secret = .ok key) (h : a.Valid)
    (htime : a.now.natAbs ≤ 2 ^ 63)
    (hjson : L.RoundTrips a.payload) : ∃ token, mintOperatorToken L secret a = .ok token ∧
    token.length ≤ 4096 ∧
      ∀ requiredScope v,
        ((∃ c, verifyOperatorToken L token secret requiredScope v = .ok c) ↔
          requiredScope ∈ a.scopes ∧ a.now - 30 ≤ v ∧ v < a.now + a.ttlSeconds) ∧
        ∀ c, verifyOperatorToken L token secret requiredScope v = .ok c →
          c.subject = a.subject ∧ c.scopes = a.scopes ∧ c.issuedAt = a.now ∧
          c.expiresAt = a.now + a.ttlSeconds := by
  refine ⟨mintedToken L key a, mint_eq hkey h, length_minted h htime, fun requiredScope v => ?_⟩
  simp only [verify_minted_iff hkey h htime hjson]
  refine ⟨⟨fun ⟨_, hc, _⟩ => hc, fun hc => ⟨_, hc, rfl⟩⟩, ?_⟩
  rintro c ⟨-, rfl⟩
  exact ⟨rfl, rfl, rfl, rfl⟩

end Minted

def probeArgs : MintArgs where
  subject := py "probe"
  scopes := {py "metrics:read"}
  ttlSeconds := 30
  now := 1700000000
  random := ⟨List.replicate 18 0, rfl⟩

/-- It loads the one payload. -/
def probeLibrary : Library := ⟨fun _ _ => zeroDigest, fun _ => .ok probeArgs.payload⟩

theorem probe_token_verifies : ∃ token, mintOperatorToken probeLibrary plainSecret
    probeArgs = .ok token ∧
    token.length ≤ 4096 ∧ ∀ requiredScope v,
      ((∃ c, verifyOperatorToken probeLibrary token plainSecret requiredScope v = .ok c) ↔
        requiredScope ∈ probeArgs.scopes ∧ probeArgs.now - 30 ≤ v ∧
        v < probeArgs.now + probeArgs.ttlSeconds) ∧
      ∀ c, verifyOperatorToken probeLibrary token plainSecret requiredScope v = .ok c →
        c.subject = probeArgs.subject ∧ c.scopes = probeArgs.scopes ∧ c.issuedAt = probeArgs.now ∧
          c.expiresAt = probeArgs.now + probeArgs.ttlSeconds :=
  have hkey : validateSecret plainSecret = .ok (List.replicate 32 97) := by decide
  have hvalid : probeArgs.Valid :=
  ⟨by decide, by decide, by decide, by decide, by decide, by decide⟩
  minted_token_verifies_iff hkey hvalid (by decide) fun _ _ => rfl

end Kunlun.OpsTokens
