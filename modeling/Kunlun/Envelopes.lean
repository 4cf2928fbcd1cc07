import Kunlun.ApiKeys
import Kunlun.Failures
import Kunlun.Lib.Unicode

/-!
# The signed envelope (`services/live_payments.py`)

A nonce may hold the dot that ends it, so the signed text alone does not say where the body
begins. The first octet of a JSON object does, in every encoding that `json.loads` detects.
-/

namespace Kunlun.LivePayments

/-! ## `json.loads` of octets -/

inductive Encoding where
  | utf8
  | utf8Sig
  | utf16
  | utf16Of (order : Unicode.Order)
  | utf32
  | utf32Of (order : Unicode.Order)

/-- `json.detect_encoding` -/
def detectEncoding (b : Octets) : Encoding :=
  if [0x00, 0x00, 0xFE, 0xFF] <+: b ∨ [0xFF, 0xFE, 0x00, 0x00] <+: b then .utf32
  else if [0xFE, 0xFF] <+: b ∨ [0xFF, 0xFE] <+: b then .utf16
  else if [0xEF, 0xBB, 0xBF] <+: b then .utf8Sig
  else match b with
    | 0 :: b1 :: _ :: _ :: _ => if b1 = 0 then .utf32Of .big else .utf16Of .big
    | _ :: 0 :: b2 :: b3 :: _ => if b2 = 0 ∧ b3 = 0 then .utf32Of .little else .utf16Of .little
    | [0, _] => .utf16Of .big
    | [_, 0] => .utf16Of .little
    | _ => .utf8

/-- `b.decode(encoding, "surrogatepass")`: of the encodings with a mark, the mark says the order. -/
def decode (encoding : Encoding) (b : Octets) : Option PyStr :=
  match encoding with
  | .utf8 => Unicode.utf8 b
  | .utf8Sig => Unicode.utf8 (b.drop 3)
  | .utf16 => Unicode.utf16 (if b.head? = some 0xFE then .big else .little) (b.drop 2)
  | .utf16Of order => Unicode.utf16 order b
  | .utf32 => Unicode.utf32 (if b.head? = some 0 then .big else .little) (b.drop 4)
  | .utf32Of order => Unicode.utf32 order b

/-- The parts of a `JSONDecoder`, each for the text behind what announces it. -/
structure Decoder where
  parseString : PyStr → Option (PyStr × PyStr)
  parseObject : PyStr → Option (List (PyStr × Json) × PyStr)
  parseArray : PyStr → Option (List Json × PyStr)
  /-- `int` or `float` of what `NUMBER_RE` matches. -/
  parseNumber : PyStr → Option ((Int ⊕ PyStr) × PyStr)

def isWhitespace (c : Nat) : Bool := c = 32 || c = 9 || c = 10 || c = 13

def numberJson : Int ⊕ PyStr → Json
  | .inl n => .int n
  | .inr r => .float r

/-- A name that JSON has a value for. -/
def constants : List (PyStr × Json) :=
  [(py "null", .null), (py "true", .bool true), (py "false", .bool false),
    (py "NaN", .float (py "NaN")), (py "Infinity", .float (py "Infinity")),
    (py "-Infinity", .float (py "-Infinity"))]

variable (D : Decoder)

/-- `scan_once`: the first character says what follows. -/
def scanOnce (s : PyStr) : Option (Json × PyStr) :=
  match s with
  | [] => none
  | 34 :: rest => (D.parseString rest).map fun p => (.str p.1, p.2)
  | 123 :: rest => (D.parseObject rest).map fun p => (.obj p.1, p.2)
  | 91 :: rest => (D.parseArray rest).map fun p => (.arr p.1, p.2)
  | _ =>
    match D.parseNumber s with
    | some (n, rest) => some (numberJson n, rest)
    | none => (constants.find? fun p => p.1 <+: s).map fun p => (p.2, s.drop p.1.length)

/-- `JSONDecoder().decode(s)` -/
def decodeText (s : PyStr) : Option Json := do
  let (v, rest) ← scanOnce D (s.dropWhile isWhitespace)
  if rest.dropWhile isWhitespace = [] then some v else none

def jsonLoads (b : Octets) : Option Json := (decode (detectEncoding b) b).bind (decodeText D)

/-! ## The first octet of an object -/

theorem decodeText_obj {s : PyStr} {items : List (PyStr × Json)}
    (h : decodeText D s = some (.obj items)) {c : Nat}
    (hc : s.head? = some c) : isWhitespace c ∨ c = 123 := by
  obtain ⟨rest, rfl⟩ : ∃ rest, s = c :: rest := by
    cases s with
    | nil => cases hc
    | cons x rest => exact ⟨rest, by rw [Option.some.inj hc]⟩
  by_contra hnot
  rw [not_or] at hnot
  obtain ⟨hblank, hbrace⟩ := hnot
  unfold decodeText at h
  rw [List.dropWhile_cons_of_neg hblank] at h
  obtain ⟨⟨v, tail⟩, hscan, h⟩ := Option.bind_eq_some_iff.1 h
  dsimp only at h
  split_ifs at h
  obtain rfl := Option.some.inj h
  unfold scanOnce at hscan
  split at hscan
  · cases hscan
  · obtain ⟨p, -, heq⟩ := Option.map_eq_some_iff.1 hscan
    cases heq
  · rename_i heq
    exact hbrace (List.cons.inj heq).1
  · obtain ⟨p, -, heq⟩ := Option.map_eq_some_iff.1 hscan
    cases heq
  · split at hscan
    · rename_i n rest' _
      have heq := congrArg Prod.fst (Option.some.inj hscan)
      cases n <;> cases heq
    · obtain ⟨p, hp, heq⟩ := Option.map_eq_some_iff.1 hscan
      have hmem := List.mem_of_find?_eq_some hp
      have hv := congrArg Prod.fst heq
      simp only [constants, List.mem_cons, List.not_mem_nil, or_false] at hmem
      rcases hmem with rfl | rfl | rfl | rfl | rfl | rfl <;> cases hv

theorem head?_decode {c : Nat} {rest text : Octets} (hpos : c ≠ 0) (hc : c < 0x80)
    (h : decode (detectEncoding (c :: rest)) (c :: rest) = some text) : text.head? = some c := by
  have hmark (m : Nat) (marks : Octets) (hm : c ≠ m) : ¬ m :: marks <+: c :: rest := by
    rw [List.cons_prefix_cons]
    exact fun h => hm h.1.symm
  unfold detectEncoding at h
  rw [if_neg (not_or.2 ⟨hmark _ _ hpos, hmark _ _ (by omega)⟩),
    if_neg (not_or.2 ⟨hmark _ _ (by omega), hmark _ _ (by omega)⟩),
    if_neg (hmark _ _ (by omega))] at h
  split at h
  · rename_i heq
    exact absurd (List.cons.inj heq).1 hpos
  · rename_i heq
    obtain ⟨rfl, rfl⟩ := List.cons.inj heq
    split_ifs at h with hzero
    · obtain ⟨rfl, rfl⟩ := hzero
      exact Unicode.head?_utf32_little h
    · exact Unicode.head?_utf16_little (by omega) h
  · rename_i heq
    exact absurd (List.cons.inj heq).1 hpos
  · rename_i heq
    obtain ⟨rfl, rfl⟩ := List.cons.inj heq
    exact Unicode.head?_utf16_little (by omega) h
  · exact Unicode.head?_utf8 hc h

/-- The body of a webhook does not begin with what a nonce may hold. -/
theorem head_jsonLoads {b : Octets} {items : List (PyStr × Json)}
    (h : jsonLoads D b = some (.obj items)) :
    ∀ c ∈ b.head?, ¬ isIdChar c := by
  intro c hc hid
  obtain ⟨rest, rfl⟩ : ∃ rest, b = c :: rest := by
    cases b with
    | nil => cases hc
    | cons x rest => exact ⟨rest, by rw [Option.some.inj hc]⟩
  simp only [isIdChar, isAlnum, isDigit, isUpper, Bool.or_eq_true, Bool.and_eq_true,
    decide_eq_true_eq] at hid
  obtain ⟨text, htext, h⟩ := Option.bind_eq_some_iff.1 h
  have hfirst := decodeText_obj D h (head?_decode (by omega) (by omega) htext)
  simp only [isWhitespace, Bool.or_eq_true, decide_eq_true_eq] at hfirst
  omega

/-! ## The parts of the signed text -/

/-- Where the parts before the separator are of one kind with it, and those behind do not begin
so, the whole has one reading. -/
theorem split_unique {p : Nat → Bool} {sep : Nat} (hsep : p sep) {xs ys as bs : List Nat}
    (hxs : ∀ c ∈ xs, p c)
    (hys : ∀ c ∈ ys, p c) (has : ∀ c ∈ as.head?, ¬ p c) (hbs : ∀ c ∈ bs.head?, ¬ p c)
    (h : xs ++ sep :: as = ys ++ sep :: bs) : xs = ys ∧ as = bs := by
  have hrun {zs cs : List Nat} (hzs : ∀ c ∈ zs, p c) (hcs : ∀ c ∈ cs.head?, ¬ p c) :
      (zs ++ sep :: cs).takeWhile p = zs ++ [sep] := by
    have hall : ∀ c ∈ zs ++ [sep], p c := by
      intro c hc
      rcases List.mem_append.1 hc with hc | hc
      · exact hzs c hc
      · rw [List.mem_singleton.1 hc]
        exact hsep
    have hrest : cs.takeWhile p = [] := by
      cases cs with
      | nil => rfl
      | cons c cs => exact List.takeWhile_cons_of_neg (hcs c rfl)
    have hjoin : zs ++ sep :: cs = (zs ++ [sep]) ++ cs := by simp
    rw [hjoin, List.takeWhile_append_of_pos hall, hrest, List.append_nil]
  have hheads : xs ++ [sep] = ys ++ [sep] := by
    rw [← hrun hxs has, h, hrun hys hbs]
  obtain rfl := List.append_cancel_right hheads
  exact ⟨rfl, (List.cons.inj (List.append_cancel_left h)).2⟩

theorem timestamp_digits {s : PyStr} (h : isTimestamp s) : ∀ c ∈ s, c ≠ 46 := by
  simp only [isTimestamp, isDigit, Bool.and_eq_true, List.all_eq_true, decide_eq_true_eq] at h
  intro c hc
  have hdigit := h.2 c hc
  omega

theorem id_chars {s : PyStr} (h : isId s) : ∀ c ∈ s, isIdChar c := by
  cases s with
  | nil => cases h
  | cons x s =>
    simp only [isId, Bool.and_eq_true, List.all_eq_true] at h
    intro c hc
    rcases List.mem_cons.1 hc with rfl | hc
    · simp [isIdChar, h.1.1]
    · exact h.2 c hc

theorem parts_unique {t t' n n' : PyStr} {body body' : Octets} (ht : isTimestamp t)
    (ht' : isTimestamp t')
    (hn : isId n) (hn' : isId n') (hbody : ∀ c ∈ body.head?, ¬ isIdChar c)
    (hbody' : ∀ c ∈ body'.head?, ¬ isIdChar c)
    (h : t ++ [46] ++ n ++ [46] ++ body = t' ++ [46] ++ n' ++ [46] ++ body') : t = t' ∧
    n = n' ∧ body = body' := by
  have hsplit {t n : PyStr} {body : Octets} (ht : isTimestamp t) :
      splitDot (t ++ [46] ++ n ++ [46] ++ body) = (t, n ++ 46 :: body) := by
    have hdot : [46] = py "." := by decide
    have hjoin : t ++ [46] ++ n ++ [46] ++ body = t ++ [46] ++ (n ++ 46 :: body) := by simp
    rw [hjoin, hdot]
    exact splitDot_append fun hmem => timestamp_digits ht 46 hmem rfl
  have hparts : (t, n ++ 46 :: body) = (t', n' ++ 46 :: body') := by
    rw [← hsplit ht, h, hsplit ht']
  obtain ⟨rfl, hrest⟩ := Prod.mk.inj hparts
  obtain ⟨rfl, rfl⟩ := split_unique (by decide) (id_chars hn) (id_chars hn') hbody hbody' hrest
  exact ⟨rfl, rfl, rfl⟩

section Accepted

variable {L : Library} {b : Bridge} {seen : Seen} {clock : Option Int} {body : Octets}
  {headers : Headers}

/-- What holds of the headers of an accepted body. -/
structure Sealed (L : Library) (b : Bridge) (body : Octets) (headers : Headers) : Prop where
  timestamp : isTimestamp (header L headers "x-kunlun-timestamp")
  nonce : isId (header L headers "x-kunlun-nonce")
  present : header L headers "x-kunlun-signature" ≠ []
  signed : signBridgeBody L body (header L headers "x-kunlun-timestamp")
    (header L headers "x-kunlun-nonce") b.secret =
    header L headers "x-kunlun-signature"

theorem checkSignedHeaders_sealed (h : checkSignedHeaders L b clock headers body = .ok ()) :
    Sealed L b body headers := by
  unfold checkSignedHeaders at h
  obtain ⟨hpresent, h⟩ := except_unless_ok.1 h
  obtain ⟨htimestamp, h⟩ := except_unless_ok.1 h
  obtain ⟨hnonce, h⟩ := except_unless_ok.1 h
  obtain ⟨-, h⟩ := except_unless_ok.1 h
  cases clock with
  | none => cases h
  | some now =>
    obtain ⟨-, h⟩ := except_unless_ok.1 h
    obtain ⟨hsigned, -⟩ := except_unless_ok.1 h
    refine ⟨not_not.1 htimestamp, not_not.1 hnonce, ?_, not_not.1 hsigned⟩
    intro hnil
    exact hpresent (.inr (.inr hnil))

theorem Sealed.hmac (h : Sealed L b body headers) : ∃ key, encode? b.secret = some key ∧
    L.hmacHex key (header L headers "x-kunlun-timestamp" ++ [46] ++ header L headers
      "x-kunlun-nonce" ++ [46] ++ body) =
      header L headers "x-kunlun-signature" := by
  have hsigned := h.signed
  unfold signBridgeBody at hsigned
  split at hsigned
  · exact absurd hsigned.symm h.present
  · split at hsigned
    · exact ⟨_, ‹_›, hsigned⟩
    · exact absurd hsigned.symm h.present

theorem verifyWebhook_sealed {r : WebhookResult}
    (h : (verifyWebhook L b seen clock body headers).1 = .ok r) :
    Sealed L b body headers ∧ ∃ items, L.loads body = some (.obj items) := by
  rw [verifyWebhook_result] at h
  unfold parseWebhook at h
  obtain ⟨_, hsigned, h⟩ := except_bind_ok.1 h
  obtain ⟨-, h⟩ := except_unless_ok.1 h
  refine ⟨checkSignedHeaders_sealed hsigned, ?_⟩
  cases hjson : L.loads body with
  | none => simp [hjson] at h
  | some x =>
    rw [hjson] at h
    cases x with
    | obj items => exact ⟨items, rfl⟩
    | _ => simp at h

/-- Two accepted webhooks with one signature agree in their timestamp, their nonce and their
body. -/
theorem signature_binds_parts {D : Decoder} {L : Library}
    (hjson : L.loads = jsonLoads D) {b b' : Bridge}
    (hsecret : b.secret = b'.secret)
    (hmac : ∀ key, encode? b.secret = some key → Function.Injective (L.hmacHex key))
    {seen seen' : Seen}
    {clock clock' : Option Int} {body body' : Octets} {headers headers' : Headers}
    {r r' : WebhookResult}
    (h : (verifyWebhook L b seen clock body headers).1 = .ok r)
    (h' : (verifyWebhook L b' seen' clock' body' headers').1 = .ok r')
    (hsignature : header L headers "x-kunlun-signature" = header L headers' "x-kunlun-signature") :
    header L headers "x-kunlun-timestamp" = header L headers' "x-kunlun-timestamp" ∧
      header L headers "x-kunlun-nonce" = header L headers' "x-kunlun-nonce" ∧ body = body' := by
  obtain ⟨hsealed, items, hobj⟩ := verifyWebhook_sealed h
  obtain ⟨hsealed', items', hobj'⟩ := verifyWebhook_sealed h'
  rw [hjson] at hobj hobj'
  obtain ⟨key, hkey, hsigned⟩ := hsealed.hmac
  obtain ⟨key', hkey', hsigned'⟩ := hsealed'.hmac
  obtain rfl := Option.some.inj (hkey.symm.trans (hsecret ▸ hkey'))
  have htext := hmac key hkey (hsigned.trans (hsignature.trans hsigned'.symm))
  exact parts_unique hsealed.timestamp hsealed'.timestamp hsealed.nonce hsealed'.nonce
    (head_jsonLoads D hobj)
    (head_jsonLoads D hobj') htext

end Accepted

/-! ## One webhook at two instances -/

def smallBody : Octets :=
  py "\x7b\"event_id\":\"evt_1\",\"order_id\":\"ord_1\"," ++
  py "\"payment_amount_minor\":1,\"currency\":\"CNY\"," ++
  py "\"provider_transaction_id\":\"txn_1\"," ++
  py "\"type\":\"payment.pending\",\"status\":\"pending\"\x7d"

def smallEvent : List (PyStr × Json) :=
  [(py "event_id", .str (py "evt_1")), (py "order_id", .str (py "ord_1")),
    (py "payment_amount_minor", .int 1), (py "currency", .str (py "CNY")),
  (py "provider_transaction_id", .str (py "txn_1")), (py "type", .str (py "payment.pending")),
  (py "status", .str (py "pending"))]

/-- The decoder on this one event. -/
def smallDecoder : Decoder where
  parseString := fun _ => none
  parseObject := fun _ => some (smallEvent, [])
  parseArray := fun _ => none
  parseNumber := fun _ => none

def smallSignature : PyStr := py "cbfb013775ab62b507fb709468a79546ee47ed917a0053707d0a9673ebab3005"

/-- Every other message has a signature that begins with a zero character. -/
def smallLibrary : Library where
  casefold := fun s => s.map fun c => if 65 ≤ c ∧ c ≤ 90 then c + 32 else c
  hmacHex := fun _ message => if message = py "1700000000.nonce_1." ++ smallBody then
    smallSignature else 0 :: message
  sha256Hex := fun _ => py "95d7b000dd794b15801067e7d61d7ebf29846f3fce7bea8feb30b1671a926453"
  loads := jsonLoads smallDecoder
  urlparse := fun _ => none

theorem smallLibrary_injective (key : Octets) : Function.Injective (smallLibrary.hmacHex key) := by
  have hsignature : smallSignature.head? ≠ some 0 := by decide
  intro m m' h
  dsimp only [smallLibrary] at h
  split_ifs at h with hm hm'
  · rw [hm, hm']
  · exact absurd (congrArg List.head? h) hsignature
  · exact absurd (congrArg List.head? h.symm) hsignature
  · exact (List.cons.inj h).2

def smallHeaders : Headers :=
  [(py "x-kunlun-timestamp", py "1700000000"), (py "x-kunlun-nonce", py "nonce_1"),
    (py "x-kunlun-signature", smallSignature)]

def smallResult : WebhookResult where
  orderId := py "ord_1"
  paymentAmountMinor := 1
  currency := py "CNY"
  status := py "pending"
  providerTransactionId := py "txn_1"
  eventId := py "evt_1"
  eventType := py "payment.pending"
  nonce := py "nonce_1"
  idempotencyKey := py "payment:evt_1"
  duplicate := false
  providerRefundId := none

def smallBridge : Bridge := ⟨py "merchant", py "secret", [], 300⟩

def otherBridge : Bridge := ⟨py "other", py "secret", [], 60⟩

/-- The headers as another proxy spells and orders them. -/
def spelledHeaders : Headers :=
  [(py "User-Agent", py "bridge"), (py "X-KUNLUN-SIGNATURE", smallSignature),
    (py "X-Kunlun-Nonce", py "nonce_1"), (py "X-Kunlun-Timestamp", py "1700000000")]

/-- The other instance has seen another event. -/
theorem signature_binds_small : header smallLibrary smallHeaders "x-kunlun-timestamp" =
      header smallLibrary spelledHeaders "x-kunlun-timestamp" ∧
    header smallLibrary smallHeaders "x-kunlun-nonce" = header smallLibrary
      spelledHeaders "x-kunlun-nonce" ∧
    smallBody = smallBody :=
  have hjson : smallLibrary.loads = jsonLoads smallDecoder := rfl
  have hsecret : smallBridge.secret = otherBridge.secret := rfl
  have h : (verifyWebhook smallLibrary smallBridge ⟨[], []⟩ (some 1700000000)
    smallBody smallHeaders).1 =
      .ok smallResult := by decide +kernel
  have h' : (verifyWebhook smallLibrary otherBridge ⟨[(py "nonce_0", py "digest")],
    [(py "evt_0", py "digest", py "nonce_0")]⟩
      (some 1700000060) smallBody spelledHeaders).1 = .ok smallResult := by decide +kernel
  signature_binds_parts hjson hsecret (fun key _ => smallLibrary_injective key) h h'
    (by decide +kernel)

end Kunlun.LivePayments
