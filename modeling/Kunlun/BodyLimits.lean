import Kunlun.Ingress

/-!
# The limit of a body (`middleware.py`)

A body comes in chunks, and the application is given it in one message or not at all. What decides
is the bytes, and not the chunks in which they come.
-/

namespace Kunlun.BodyLimits

open LivePayments Ingress

/-- What `receive` gives. -/
inductive Message where
  | request (body : Octets) (moreBody : Bool)
  | disconnect
  | other (type : String)
  deriving DecidableEq

structure Request extends Scope where
  method : Option PyStr

structure Limits where
  default : Nat := 1048576
  webhook : Nat := 65536
  auth : Nat := 32768

/-- `_limit` -/
def Limits.of (limits : Limits) (path : PyStr) : Nat :=
  if path = py "/billing/webhook" ∨ path = py "/billing/live/webhook" then limits.webhook
  else if py "/auth/" <+: path ∨ py "/v1/auth/" <+: path then limits.auth
  else limits.default

/-- `int` of digits, with single underscores between them. -/
def readDigits (s : Octets) : Option Nat :=
  let groups := s.splitOn 95
  if groups.all (fun g => g ≠ [] && g.all isDigit) && decide (groups.flatten.length ≤ 4300) then
    some (intOfDigits groups.flatten)
  else none

/-- `int` of bytes, unless it raises. -/
def readInt (value : Octets) : Option Int :=
  match (value.dropWhile isBlank).rdropWhile isBlank with
  | 43 :: s => (readDigits s).map Int.ofNat
  | 45 :: s => (readDigits s).map fun n => -Int.ofNat n
  | s => (readDigits s).map Int.ofNat

/-- `headers.get(b"content-length")`, unless it is empty. -/
def contentLength (headers : HeaderList) : Option Octets :=
  (valuesOf (py "content-length") headers).getLast?.filter (· ≠ [])

/-- What becomes of a request: `rest` is what the application is given after the body. -/
inductive Outcome where
  | untouched
  | passed (body : Octets) (rest : List Message)
  | refused (statusCode : Nat) (detail : String)
  | dropped
  | waiting
  deriving DecidableEq

def tooLarge : Outcome := .refused 413 "请求正文超过此端点允许的大小"

/-- The loop over the messages. -/
def receiveBody (limit : Nat) : List Octets → Nat → List Message → Outcome
  | _, _, [] => .waiting
  | _, _, .disconnect :: _ => .dropped
  | parts, total, .other _ :: rest => receiveBody limit parts total rest
  | parts, total, .request chunk moreBody :: rest =>
    if limit < total + chunk.length then tooLarge
    else
      let parts := if chunk = [] then parts else parts ++ [chunk]
      if moreBody then receiveBody limit parts (total + chunk.length) rest
        else .passed parts.flatten rest

/-- Requests whose body is read. -/
def Request.Limited (s : Request) : Prop :=
  s.type = .http ∧ s.method ≠ some (py "GET") ∧ s.method ≠ some (py "HEAD") ∧
  s.method ≠ some (py "OPTIONS")

instance (s : Request) : Decidable s.Limited := by
  unfold Request.Limited
  infer_instance

/-- `__call__` -/
def bodyLimit (limits : Limits) (s : Request) (messages : List Message) : Outcome :=
  if ¬ s.Limited then .untouched
  else match contentLength s.headers with
    | none => receiveBody (limits.of s.path) [] 0 messages
    | some value =>
      match readInt value with
      | none => .refused 400 "Content-Length 无效"
      | some n =>
        if (limits.of s.path : Int) < n then tooLarge
          else receiveBody (limits.of s.path) [] 0 messages

/-! ## The bytes of the messages -/

/-- How the messages of a body end. -/
inductive Ending where
  | complete (rest : List Message)
  | disconnected
  | unfinished

/-- The bytes that come before the end of the body, the end of the connection or the end of the
messages. -/
def bodyOf : List Message → Octets × Ending
  | [] => ([], .unfinished)
  | .disconnect :: _ => ([], .disconnected)
  | .other _ :: rest => bodyOf rest
  | .request chunk moreBody :: rest =>
    if moreBody then (chunk ++ (bodyOf rest).1, (bodyOf rest).2) else (chunk, .complete rest)

/-- The outcome by the bytes alone. -/
def judged (limit : Nat) (body : Octets) : Ending → Outcome
  | .complete rest => if limit < body.length then tooLarge else .passed body rest
  | .disconnected => if limit < body.length then tooLarge else .dropped
  | .unfinished => if limit < body.length then tooLarge else .waiting

variable {limit : Nat} {body : Octets}

theorem judged_tooLarge (h : limit < body.length) (x : Ending) :
    judged limit body x = tooLarge := by
  cases x <;> exact if_pos h

theorem receiveBody_eq (messages : List Message) (parts : List Octets) (total : Nat)
    (htotal : parts.flatten.length = total)
    (hlimit : total ≤ limit) :
    receiveBody limit parts total messages = judged limit (parts.flatten ++ (bodyOf messages).1)
      (bodyOf messages).2 := by
  induction messages generalizing parts total with
  | nil => simp [receiveBody, bodyOf, judged, htotal, hlimit]
  | cons m rest ih =>
    cases m with
    | disconnect => simp [receiveBody, bodyOf, judged, htotal, hlimit]
    | other type => exact ih parts total htotal hlimit
    | request chunk moreBody =>
      have hparts : (if chunk = [] then parts else parts ++ [chunk]).flatten =
          parts.flatten ++ chunk := by
        split_ifs with hnil <;> simp [hnil]
      have hlength : (parts.flatten ++ chunk).length = total +
          chunk.length := by rw [List.length_append, htotal]
      unfold receiveBody bodyOf
      by_cases hover : limit < total + chunk.length
      · rw [if_pos hover, judged_tooLarge]
        split_ifs <;> simp only [List.length_append] <;> omega
      · rw [if_neg hover]
        dsimp only
        by_cases hmore : moreBody
        · rw [if_pos hmore, if_pos hmore, ih _ _ (by rw [hparts, hlength]) (by omega),
            hparts, List.append_assoc]
        · rw [if_neg hmore, if_neg hmore, hparts]
          exact (if_neg (by rw [hlength]; exact hover)).symm

/-- The length that the headers state, if they state one, can be read and is within the limit. -/
def StatedWithin (limit : Nat) (headers : HeaderList) : Prop :=
  ∀ value, contentLength headers = some value → ∃ n, readInt value = some n ∧ n ≤ limit

/-- The length that the headers state can be read and is beyond the limit. -/
def StatedBeyond (limit : Nat) (headers : HeaderList) : Prop :=
  ∃ value n, contentLength headers = some value ∧ readInt value = some n ∧ limit < n

section Middleware

variable {limits : Limits} {s : Request} {messages : List Message}

theorem StatedWithin.not_beyond (h : StatedWithin limit s.headers) :
    ¬ StatedBeyond limit s.headers := by
  rintro ⟨value, n, hvalue, hn, hlt⟩
  obtain ⟨n', hn', hle⟩ := h value hvalue
  obtain rfl := Option.some.inj (hn.symm.trans hn')
  omega

theorem bodyLimit_cases (limits : Limits) (s : Request) :
    (¬ s.Limited ∧ ∀ messages, bodyLimit limits s messages = .untouched) ∨
    (s.Limited ∧ StatedWithin (limits.of s.path) s.headers ∧
      ∀ messages, bodyLimit limits s messages = judged (limits.of s.path) (bodyOf messages).1
        (bodyOf messages).2) ∨
    (s.Limited ∧ StatedBeyond (limits.of s.path) s.headers ∧ ∀ messages,
      bodyLimit limits s messages = tooLarge) ∨
    (s.Limited ∧ ¬ StatedWithin (limits.of s.path) s.headers ∧
      ¬ StatedBeyond (limits.of s.path) s.headers ∧
      ∀ messages, bodyLimit limits s messages = .refused 400 "Content-Length 无效") := by
  unfold bodyLimit
  by_cases hs : s.Limited
  · have hread (messages : List Message) : receiveBody (limits.of s.path) [] 0 messages =
        judged (limits.of s.path) (bodyOf messages).1 (bodyOf messages).2 :=
      receiveBody_eq messages [] 0 rfl (Nat.zero_le _)
    simp only [hs, not_true_eq_false, if_false, hread, true_and, false_and, false_or]
    unfold StatedWithin StatedBeyond
    cases contentLength s.headers with
    | none => exact .inl ⟨by simp, fun _ => rfl⟩
    | some value =>
      cases hn : readInt value with
      | none => exact .inr (.inr ⟨by simp [hn], by simp [hn], fun _ => by simp only [hn]⟩)
      | some n =>
        by_cases hle : n ≤ limits.of s.path
        · exact .inl ⟨by simp [hn, hle], fun _ => by simp only [hn, if_neg (Int.not_lt.2 hle)]⟩
        · have hlt := Int.not_le.1 hle
          exact .inr (.inl ⟨⟨value, n, rfl, hn, hlt⟩, fun _ => by simp only [hn, if_pos hlt]⟩)
  · exact .inl ⟨hs, fun _ => if_pos hs⟩

theorem judged_passed {x : Ending} {body' : Octets} {rest : List Message} :
    judged limit body x = .passed body' rest ↔ (body, x) = (body', .complete rest) ∧
    body'.length ≤ limit := by
  by_cases hlimit : limit < body.length
  · rw [judged_tooLarge hlimit]
    constructor
    · intro h
      cases h
    · rintro ⟨h, hle⟩
      obtain ⟨rfl, -⟩ := Prod.mk.inj h
      omega
  · cases x with
    | complete rest' =>
      rw [judged, if_neg hlimit]
      constructor
      · intro h
        cases h
        exact ⟨rfl, not_lt.1 hlimit⟩
      · rintro ⟨h, -⟩
        cases h
        rfl
    | disconnected | unfinished =>
      rw [judged, if_neg hlimit]
      constructor
      · intro h
        cases h
      · rintro ⟨h, -⟩
        cases h

theorem judged_refused {x : Ending} : judged limit body x = tooLarge ↔ limit < body.length := by
  refine ⟨fun h => ?_, fun h => judged_tooLarge h x⟩
  by_contra hlimit
  cases x <;> rw [judged, if_neg hlimit] at h <;> cases h

/-- A body is given to the application exactly if it comes to its end within the limit, and then
as it came; it is too large exactly if it says so or the bytes that come say so. The chunks make
no difference. -/
theorem limited_exactly (limits : Limits) (s : Request) (messages : List Message) :
    (∀ body rest, bodyLimit limits s messages = .passed body rest ↔
      s.Limited ∧ StatedWithin (limits.of s.path) s.headers ∧
        bodyOf messages = (body, .complete rest) ∧ body.length ≤ limits.of s.path) ∧
    (bodyLimit limits s messages = tooLarge ↔ s.Limited ∧
      (StatedBeyond (limits.of s.path) s.headers ∨
      StatedWithin (limits.of s.path) s.headers ∧ limits.of s.path < (bodyOf messages).1.length)) ∧
    ∀ messages', bodyOf messages' = bodyOf messages → bodyLimit limits s messages' =
      bodyLimit limits s messages := by
  obtain ⟨hs, heq⟩ | ⟨hs, hwithin, heq⟩ | ⟨hs, hbeyond, heq⟩ | ⟨hs, hwithin, hbeyond, heq⟩ :=
    bodyLimit_cases limits s
  · simp [heq, hs, tooLarge]
  · refine ⟨fun body rest => ?_, ?_, fun messages' h => by rw [heq, heq, h]⟩
    · rw [heq, judged_passed]
      exact ⟨fun h => ⟨hs, hwithin, h⟩, fun h => h.2.2⟩
    · rw [heq, judged_refused]
      exact ⟨fun h => ⟨hs, .inr ⟨hwithin, h⟩⟩, fun h => (h.2.resolve_left hwithin.not_beyond).2⟩
  · have hwithin : ¬ StatedWithin (limits.of s.path) s.headers := fun h => h.not_beyond hbeyond
    simp [heq, hs, hwithin, hbeyond, tooLarge]
  · simp [heq, hs, hwithin, hbeyond, tooLarge]

end Middleware

end Kunlun.BodyLimits
