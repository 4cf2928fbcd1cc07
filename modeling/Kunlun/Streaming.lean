import Kunlun.Billing
import Kunlun.Lib.Lines
import Mathlib.Data.List.DropRight

/-!
# Streams of an upstream (`streaming.py`)

The tracker reads the usage of a stream from its events as the chunks arrive. `json.loads`
is a parameter: it may refuse its input, in ways that the tracker knows and in others.
-/

namespace Kunlun

abbrev Bytes := List UInt8

/-- A bytes literal of the source. -/
def ascii (s : String) : Bytes := s.toList.map fun c => c.toNat.toUInt8

def newline : UInt8 := 10
def carriageReturn : UInt8 := 13

/-- What `bytes.strip` removes. -/
def isSpace (b : UInt8) : Bool := b = 32 ∨ 9 ≤ b ∧ b ≤ 13

def strip (s : Bytes) : Bytes := (s.dropWhile isSpace).rdropWhile isSpace

def rstripReturns (s : Bytes) : Bytes := s.rdropWhile (· = carriageReturn)

/-- What `json.loads` raises, of which the handlers know the first two. -/
inductive LoadsExc where
  | jsonDecodeError
  | unicodeDecodeError
  | valueError
  | recursionError
  deriving DecidableEq

def LoadsExc.handled : LoadsExc → Bool
  | .jsonDecodeError | .unicodeDecodeError => true
  | .valueError | .recursionError => false

structure StreamProtocolError where
  message : String
  deriving DecidableEq

/-- How the tracker fails: with its own exception, or with what it does not catch. -/
inductive StreamExc where
  | protocol (e : StreamProtocolError)
  | loads (e : LoadsExc)
  deriving DecidableEq

def LoadsExc.toStreamExc (e : LoadsExc) : StreamExc :=
  if e.handled then .protocol ⟨"provider_stream_invalid_json"⟩ else .loads e

/-! ## Events -/

/-- What an `SSEUsageTracker` has read. -/
structure StreamUsage where
  outputCharacters : Nat
  promptTokens : Option Int
  completionTokens : Option Int
  done : Bool
  deriving DecidableEq

def StreamUsage.fresh : StreamUsage := ⟨0, none, none, false⟩

/-- A count under one of two names, if it is one. -/
def usageCount (usage : Json) (name other : String) : Option Int :=
  (((usage.get? (py name)).orElse fun _ => usage.get? (py other)).bind Json.asInt?).filter (0 ≤ ·)

def textLength : Option Json → Nat
  | some (.str s) => s.length
  | _ => 0

def argumentsLength (toolCall : Json) : Nat :=
  textLength ((toolCall.get? (py "function")).bind fun function => function.get? (py "arguments"))

/-- The characters of a delta, or of a message. -/
def deltaCharacters (delta : Json) : Nat :=
  textLength (delta.get? (py "content")) + match delta.get? (py "tool_calls") with
    | some (.arr toolCalls) => (toolCalls.map argumentsLength).sum
    | _ => 0

def choiceCharacters (part : String) (choice : Json) : Nat :=
  match choice.get? (py part) with
  | some delta => deltaCharacters delta
  | none => 0

def choicesCharacters (part : String) (event : Json) : Nat :=
  match event.get? (py "choices") with
  | some (.arr choices) => (choices.map (choiceCharacters part)).sum
  | _ => 0

def StreamUsage.event (u : StreamUsage) (event : Json) : StreamUsage :=
  let counts (name other : String) (old : Option Int) : Option Int :=
    match event.get? (py "usage") with
    | some (.obj usage) => (usageCount (.obj usage) name other).or old
    | _ => old
  { u with
    promptTokens := counts "prompt_tokens" "input_tokens" u.promptTokens
    completionTokens := counts "completion_tokens" "output_tokens" u.completionTokens
    outputCharacters := u.outputCharacters + choicesCharacters "delta" event }

/-! ## Lines -/

section Tracker

variable (loads : Bytes → Except LoadsExc Json)

def parseLine (u : StreamUsage) (line : Bytes) : Except StreamExc StreamUsage :=
  if ascii "data:" <+: line then
    let data := strip (line.drop 5)
    if data = ascii "[DONE]" then .ok { u with done := true }
    else if data = [] then .ok u
    else
      match loads data with
      | .error e => .error e.toStreamExc
      | .ok event =>
        if event.isObj then .ok (u.event event)
        else .error (.protocol ⟨"provider_stream_invalid_event"⟩)
  else .ok u

structure SSEUsageTracker extends StreamUsage where
  maxBytes : Nat
  totalBytes : Nat
  buffer : Bytes

def SSEUsageTracker.fresh (maxBytes : Nat) : SSEUsageTracker :=
  { StreamUsage.fresh with maxBytes, totalBytes := 0, buffer := [] }

/-- The loop of `feed`. -/
def parseBuffer (u : StreamUsage) (buffer : Bytes) : Except StreamExc (StreamUsage × Bytes) :=
  if _h : newline ∈ buffer then do
    let u ← parseLine loads u (rstripReturns (buffer.takeWhile (· ≠ newline)))
    parseBuffer u ((buffer.dropWhile (· ≠ newline)).drop 1)
  else .ok (u, buffer)
termination_by buffer.length
decreasing_by
  obtain ⟨l, r, rfl, hl⟩ := List.eq_append_cons_of_mem _h
  rw [List.dropWhile_append_of_pos fun b hb => by simpa using ne_of_mem_of_not_mem hb hl]
  simp
  omega

def maxLine : Nat := 1024 * 1024

def feed (t : SSEUsageTracker) (chunk : Bytes) : Except StreamExc SSEUsageTracker := do
  if t.maxBytes < t.totalBytes + chunk.length then throw (.protocol ⟨"provider_stream_too_large"⟩)
  if maxLine < (t.buffer ++ chunk).length ∧ newline ∉ t.buffer ++ chunk then
    throw (.protocol ⟨"provider_stream_line_too_large"⟩)
  let (u, buffer) ← parseBuffer loads t.toStreamUsage (t.buffer ++ chunk)
  return { u with maxBytes := t.maxBytes, totalBytes := t.totalBytes +
    chunk.length, buffer := buffer }

def finish (t : SSEUsageTracker) : Except StreamExc StreamUsage :=
  if strip t.buffer ≠ [] then parseLine loads t.toStreamUsage (rstripReturns t.buffer)
  else .ok t.toStreamUsage

/-- The chunks go to a fresh tracker, one after the other, and then the stream ends. -/
def track (maxBytes : Nat) (chunks : List Bytes) : Except StreamExc StreamUsage := do
  let t ← chunks.foldlM (feed loads) (.fresh maxBytes)
  finish loads t

/-! ## The lines of a stream -/

def parseLines (u : StreamUsage) (lines : List Bytes) : Except StreamExc StreamUsage :=
  lines.foldlM (fun u line => parseLine loads u (rstripReturns line)) u

/-- The whole text, line by line. -/
def parseStream (u : StreamUsage) (text : Bytes) : Except StreamExc StreamUsage := do
  let u ← parseLines loads u (Lines.ended newline text)
  if strip (Lines.rest newline text) ≠ [] then
    parseLine loads u (rstripReturns (Lines.rest newline text))
  else .ok u

theorem parseBuffer_eq (u : StreamUsage) (buffer : Bytes) : parseBuffer loads u buffer =
    (parseLines loads u (Lines.ended newline buffer)).map fun u =>
      (u, Lines.rest newline buffer) := by
  induction buffer using Lines.induction_line newline generalizing u with
  | last buffer h =>
    rw [parseBuffer, dif_neg h, Lines.ended_of_not_mem h, Lines.rest_of_not_mem h]
    rfl
  | line l r hl ih =>
    have hne : ∀ b ∈ l, decide (b ≠ newline) :=
      fun b hb => by simpa using ne_of_mem_of_not_mem hb hl
    rw [parseBuffer, dif_pos (by simp), List.takeWhile_append_of_pos hne,
      List.dropWhile_append_of_pos hne, Lines.ended_cons hl, Lines.rest_cons hl]
    simp only [parseLines, List.foldlM_cons, ne_eq, decide_not, List.takeWhile_cons,
      decide_true, Bool.not_true, Bool.false_eq_true, if_false, List.append_nil,
      List.dropWhile_cons, List.drop_succ_cons, List.drop_zero]
    cases parseLine loads u (rstripReturns l) with
    | error e => rfl
    | ok u' => exact ih u'

theorem parseLines_append (u : StreamUsage) (xs ys : List Bytes) :
    parseLines loads u (xs ++ ys) = parseLines loads u xs >>= fun u => parseLines loads u ys := by
  simp [parseLines, List.foldlM_append]

/-! ## The limits -/

/-- No chunk meets a limit, as the buffer and the total stand when it comes. -/
def Fits (maxBytes : Nat) : Nat → Bytes → List Bytes → Prop
  | _, _, [] => True
  | total, buffer, chunk :: chunks =>
    total + chunk.length ≤ maxBytes ∧
      ¬ (maxLine < (buffer ++ chunk).length ∧ newline ∉ buffer ++ chunk) ∧
      Fits maxBytes (total + chunk.length) (Lines.rest newline (buffer ++ chunk)) chunks

/-- The tracker behind a chunk, with what its lines have told. -/
def SSEUsageTracker.behind (t : SSEUsageTracker) (chunk : Bytes)
    (u : StreamUsage) : SSEUsageTracker :=
  { u with maxBytes := t.maxBytes, totalBytes := t.totalBytes + chunk.length,
           buffer := Lines.rest newline (t.buffer ++ chunk) }

theorem SSEUsageTracker.behind_append (t : SSEUsageTracker) (chunk chunk' : Bytes)
    (u v : StreamUsage) :
    t.behind (chunk ++ chunk') v = (t.behind chunk u).behind chunk' v := by
  simp only [behind, List.length_append, Nat.add_assoc, ← List.append_assoc]
  rw [Lines.rest_append]

section Feed

variable {loads} {t t' : SSEUsageTracker} {chunk : Bytes} {chunks : List Bytes} {maxBytes : Nat}

theorem feed_of_fits (h1 : t.totalBytes + chunk.length ≤ t.maxBytes)
    (h2 : ¬ (maxLine < (t.buffer ++ chunk).length ∧ newline ∉ t.buffer ++ chunk)) :
    feed loads t chunk =
      (parseLines loads t.toStreamUsage (Lines.ended newline (t.buffer ++ chunk))).map
        (t.behind chunk) := by
  unfold feed
  rw [parseBuffer_eq]
  simp only [if_neg (not_lt.2 h1), if_neg h2]
  cases parseLines loads t.toStreamUsage (Lines.ended newline (t.buffer ++ chunk)) <;> rfl

theorem feed_of_exceeds (h : ¬ (t.totalBytes + chunk.length ≤ t.maxBytes ∧
    ¬ (maxLine < (t.buffer ++ chunk).length ∧ newline ∉ t.buffer ++ chunk))) :
    ∃ e, feed loads t chunk = .error (.protocol e) := by
  unfold feed
  by_cases h1 : t.maxBytes < t.totalBytes + chunk.length
  · rw [if_pos h1]
    exact ⟨_, rfl⟩
  · have h2 : maxLine < (t.buffer ++ chunk).length ∧ newline ∉ t.buffer ++ chunk := by
      by_contra h2
      exact h ⟨not_lt.1 h1, h2⟩
    simp only [if_neg h1, if_pos h2]
    exact ⟨_, rfl⟩

theorem feeds_of_fits (hbuffer : newline ∉ t.buffer)
    (h : Fits t.maxBytes t.totalBytes t.buffer chunks) :
    chunks.foldlM (feed loads) t =
      (parseLines loads t.toStreamUsage (Lines.ended newline (t.buffer ++ chunks.flatten))).map
        (t.behind chunks.flatten) := by
  induction chunks generalizing t with
  | nil =>
    rw [List.flatten_nil, List.append_nil, Lines.ended_of_not_mem hbuffer]
    have hbehind : t.behind [] t.toStreamUsage = t := by
      simp only [SSEUsageTracker.behind, List.append_nil, Lines.rest_of_not_mem hbuffer]
      rfl
    exact congrArg Except.ok hbehind.symm
  | cons chunk chunks ih =>
    obtain ⟨h1, h2, h3⟩ := h
    rw [List.foldlM_cons, feed_of_fits h1 h2, List.flatten_cons, ← List.append_assoc,
      Lines.ended_append (t.buffer ++ chunk), parseLines_append]
    cases parseLines loads t.toStreamUsage (Lines.ended newline (t.buffer ++ chunk)) with
    | error e => rfl
    | ok u =>
      have hbehind : (t.behind chunk u).behind chunks.flatten = t.behind
          (chunk ++ chunks.flatten) :=
        funext fun v => (t.behind_append chunk chunks.flatten u v).symm
      exact hbehind ▸ ih (t := t.behind chunk u) (Lines.not_mem_rest _) h3

theorem fits_of_feeds (h : chunks.foldlM (feed loads) t = .ok t') :
    Fits t.maxBytes t.totalBytes t.buffer chunks := by
  induction chunks generalizing t with
  | nil => trivial
  | cons chunk chunks ih =>
    rw [List.foldlM_cons, except_bind_ok] at h
    obtain ⟨t₁, hfeed, h⟩ := h
    by_cases hfit : t.totalBytes + chunk.length ≤ t.maxBytes ∧
        ¬ (maxLine < (t.buffer ++ chunk).length ∧ newline ∉ t.buffer ++ chunk)
    · rw [feed_of_fits hfit.1 hfit.2] at hfeed
      cases hu : parseLines loads t.toStreamUsage (Lines.ended newline (t.buffer ++ chunk)) with
      | error e => simp [hu, Except.map] at hfeed
      | ok u =>
        obtain rfl : t.behind chunk u = t₁ := by simpa [hu, Except.map] using hfeed
        exact ⟨hfit.1, hfit.2, ih h⟩
    · obtain ⟨e, he⟩ : ∃ e, feed loads t chunk = .error (.protocol e) := feed_of_exceeds hfit
      rw [he] at hfeed
      cases hfeed

/-- What the tracker does not catch comes from a line that ends before the limit of the whole. -/
theorem feeds_loads {e : LoadsExc} (h : chunks.foldlM (feed loads) t = .error (.loads e)) :
    parseLines loads t.toStreamUsage
      (Lines.ended newline (t.buffer ++ chunks.flatten.take (t.maxBytes - t.totalBytes))) =
        .error (.loads e) := by
  induction chunks generalizing t with
  | nil => cases h
  | cons chunk chunks ih =>
    rw [List.foldlM_cons] at h
    by_cases hfit : t.totalBytes + chunk.length ≤ t.maxBytes ∧
        ¬ (maxLine < (t.buffer ++ chunk).length ∧ newline ∉ t.buffer ++ chunk)
    · have htake : (chunk ++ chunks.flatten).take (t.maxBytes - t.totalBytes) =
          chunk ++ chunks.flatten.take (t.maxBytes - (t.totalBytes + chunk.length)) := by
        rw [List.take_append, List.take_of_length_le (by omega), Nat.sub_add_eq]
      rw [feed_of_fits hfit.1 hfit.2] at h
      rw [List.flatten_cons, htake, ← List.append_assoc, Lines.ended_append (t.buffer ++ chunk),
        parseLines_append]
      cases hu : parseLines loads t.toStreamUsage (Lines.ended newline (t.buffer ++ chunk)) with
      | error e' =>
        rw [hu] at h
        simpa [Except.map, bind, Except.bind] using h
      | ok u =>
        rw [hu] at h
        exact ih (t := t.behind chunk u) h
    · obtain ⟨e', he⟩ : ∃ e, feed loads t chunk = .error (.protocol e) := feed_of_exceeds hfit
      rw [he] at h
      cases h

theorem track_of_fits (h : Fits maxBytes 0 [] chunks) :
    track loads maxBytes chunks = parseStream loads .fresh chunks.flatten := by
  rw [track, feeds_of_fits (t := .fresh maxBytes) List.not_mem_nil h, parseStream]
  change (Except.map _ (parseLines loads .fresh (Lines.ended newline chunks.flatten)) >>= _) = _
  cases parseLines loads .fresh (Lines.ended newline chunks.flatten) <;> rfl

end Feed

theorem track_ok (maxBytes : Nat) (chunks : List Bytes) (u : StreamUsage) :
    track loads maxBytes chunks = .ok u ↔
    Fits maxBytes 0 [] chunks ∧ parseStream loads .fresh chunks.flatten = .ok u := by
  constructor
  · intro h
    obtain ⟨t, ht, -⟩ := except_bind_ok.1 h
    have hfits : Fits maxBytes 0 [] chunks := fits_of_feeds ht
    exact ⟨hfits, track_of_fits hfits ▸ h⟩
  · rintro ⟨hfits, h⟩
    rw [track_of_fits hfits, h]

end Tracker

/-! ## Which streams fit -/

section Fits

variable {maxBytes total : Nat} {buffer : Bytes} {chunks : List Bytes}

theorem Fits.total_le (h : Fits maxBytes total buffer chunks) (hne : chunks ≠ []) :
    total + chunks.flatten.length ≤ maxBytes := by
  induction chunks generalizing total buffer with
  | nil => exact absurd rfl hne
  | cons chunk chunks ih =>
    obtain ⟨h1, -, h3⟩ := h
    cases chunks with
    | nil => simpa using h1
    | cons next chunks =>
      have := ih h3 (by simp)
      simp only [List.flatten_cons, List.length_append] at this ⊢
      omega

theorem Fits.flatten_le (h : Fits maxBytes 0 [] chunks) : chunks.flatten.length ≤ maxBytes := by
  cases chunks with
  | nil => exact Nat.zero_le _
  | cons chunk chunks => simpa using h.total_le (by simp)

theorem fits_of_short (hlen : total + chunks.flatten.length ≤ maxBytes)
    (hlong : ¬ Lines.Long newline maxLine (buffer ++ chunks.flatten)) :
    Fits maxBytes total buffer chunks := by
  induction chunks generalizing total buffer with
  | nil => trivial
  | cons chunk chunks ih =>
    simp only [List.flatten_cons, List.length_append] at hlen
    rw [List.flatten_cons, ← List.append_assoc] at hlong
    refine ⟨by omega, fun h => hlong (Lines.long_of_append h.2 h.1), ih (by omega) fun h =>
      hlong (Lines.long_append h)⟩

/-- One chunk with a newline fits, however long the line. -/
theorem fits_whole {text : Bytes} (hnl : newline ∈ text) (hlen : text.length ≤ maxBytes) :
    Fits maxBytes 0 [] [text] := by
  refine ⟨by simpa using hlen, fun h => ?_, trivial⟩
  exact h.2 (by simpa using hnl)

/-- Byte by byte, only short lines fit. -/
theorem short_of_fits {text : Bytes} (hnl : newline ∉ buffer) (hbuffer : buffer.length ≤ maxLine)
    (h : Fits maxBytes total buffer (text.map fun b => [b])) :
    ¬ Lines.Long newline maxLine (buffer ++ text) := by
  induction text generalizing total buffer with
  | nil =>
    rw [List.append_nil, Lines.long_of_not_mem hnl]
    exact not_lt.2 hbuffer
  | cons b text ih =>
    obtain ⟨-, h2, h3⟩ := h
    by_cases hb : b = newline
    · subst hb
      rw [Lines.rest_cons hnl, Lines.rest_of_not_mem List.not_mem_nil] at h3
      rw [Lines.long_cons hnl]
      rintro (hlt | hlong)
      · omega
      · exact ih List.not_mem_nil (Nat.zero_le _) h3 hlong
    · have hnl' : newline ∉ buffer ++ [b] := by simp [hnl, Ne.symm hb]
      rw [Lines.rest_of_not_mem hnl'] at h3
      rw [← List.singleton_append, ← List.append_assoc]
      exact ih hnl' (by simpa [hnl', -List.length_append] using h2) h3

theorem length_of_fits (hnl : newline ∉ buffer ++ chunks.flatten)
    (hbuffer : buffer.length ≤ maxLine)
    (h : Fits maxBytes total buffer chunks) : (buffer ++ chunks.flatten).length ≤ maxLine := by
  induction chunks generalizing total buffer with
  | nil => simpa using hbuffer
  | cons chunk chunks ih =>
    obtain ⟨-, h2, h3⟩ := h
    rw [List.flatten_cons, ← List.append_assoc] at hnl ⊢
    have hnl' : newline ∉ buffer ++ chunk := fun hm => hnl (List.mem_append_left _ hm)
    rw [Lines.rest_of_not_mem hnl'] at h3
    exact ih hnl (by simpa [hnl', -List.length_append] using h2) h3

theorem fits_iff_of_not_mem (hnl : newline ∉ chunks.flatten) : Fits maxBytes 0 [] chunks ↔
    chunks.flatten.length ≤ maxLine ∧ chunks.flatten.length ≤ maxBytes := by
  constructor
  · intro h
    exact ⟨by simpa using length_of_fits (by simpa using hnl) (Nat.zero_le _) h, h.flatten_le⟩
  · rintro ⟨hline, hlen⟩
    refine fits_of_short (by simpa using hlen) ?_
    rw [List.nil_append, Lines.long_of_not_mem hnl]
    exact not_lt.2 hline

end Fits

/-! ## Chunks do not matter -/

section Chunks

variable (loads : Bytes → Except LoadsExc Json)

/-- The line has data, and they are not the end mark. -/
def HasEvent (line : Bytes) : Prop :=
  ascii "data:" <+: line ∧ strip (line.drop 5) ≠ ascii "[DONE]" ∧ strip (line.drop 5) ≠ []

/-- The data of the line are no JSON, or no object. -/
def refused (line : Bytes) : Prop :=
  HasEvent line ∧ match loads (strip (line.drop 5)) with
    | .ok event => event.isObj = false
    | .error e => e.handled

/-- On the data of the line `json.loads` raises what the tracker does not catch. -/
def escapes (line : Bytes) : Prop :=
  HasEvent line ∧ ∃ e, loads (strip (line.drop 5)) = .error e ∧ e.handled = false

/-- A line escapes, and none before it is refused. -/
def Uncaught : List Bytes → Prop
  | [] => False
  | line :: lines =>
    escapes loads (rstripReturns line) ∨ ¬ refused loads (rstripReturns line) ∧ Uncaught lines

section Lines

variable {loads}

theorem parseLine_hasEvent {line : Bytes} (h : HasEvent line) (u : StreamUsage) :
    parseLine loads u line =
    match loads (strip (line.drop 5)) with
    | .error e => .error e.toStreamExc
    | .ok event =>
      if event.isObj then .ok (u.event event)
        else .error (.protocol ⟨"provider_stream_invalid_event"⟩) := by
  obtain ⟨h1, h2, h3⟩ := h
  rw [parseLine, if_pos h1]
  simp only [if_neg h2, if_neg h3]

theorem parseLine_of_not_hasEvent {line : Bytes} (h : ¬ HasEvent line) (u : StreamUsage) :
    ∃ u', parseLine loads u line = .ok u' := by
  unfold parseLine
  by_cases h1 : ascii "data:" <+: line
  · rw [if_pos h1]
    by_cases h2 : strip (line.drop 5) = ascii "[DONE]"
    · exact ⟨_, if_pos h2⟩
    · have h3 : strip (line.drop 5) = [] := by
        by_contra h3
        exact h ⟨h1, h2, h3⟩
      simp only [if_neg h2, if_pos h3]
      exact ⟨u, rfl⟩
  · exact ⟨u, if_neg h1⟩

theorem parseLine_protocol (u : StreamUsage) (line : Bytes) :
    (∃ e, parseLine loads u line = .error (.protocol e)) ↔ refused loads line := by
  by_cases h : HasEvent line
  · rw [parseLine_hasEvent h, refused]
    cases loads (strip (line.drop 5)) with
    | error e => cases he : e.handled <;> simp [h, LoadsExc.toStreamExc, he]
    | ok event => cases he : event.isObj <;> simp [h, he]
  · obtain ⟨u', hu⟩ : ∃ u', parseLine loads u line = .ok u' := parseLine_of_not_hasEvent h u
    simp [hu, refused, h]

theorem parseLine_loads (u : StreamUsage) (line : Bytes) :
    (∃ e, parseLine loads u line = .error (.loads e)) ↔ escapes loads line := by
  by_cases h : HasEvent line
  · rw [parseLine_hasEvent h, escapes]
    cases loads (strip (line.drop 5)) with
    | error e => cases he : e.handled <;> simp [h, LoadsExc.toStreamExc, he]
    | ok event => cases he : event.isObj <;> simp [h, he]
  · obtain ⟨u', hu⟩ : ∃ u', parseLine loads u line = .ok u' := parseLine_of_not_hasEvent h u
    simp [hu, escapes, h]

theorem parseLines_cons (u : StreamUsage) (line : Bytes) (lines : List Bytes) :
    parseLines loads u (line :: lines) =
    parseLine loads u (rstripReturns line) >>= fun u => parseLines loads u lines := by
  simp only [parseLines, List.foldlM_cons]

theorem parseLines_loads (u : StreamUsage) (lines : List Bytes) :
    (∃ e, parseLines loads u lines = .error (.loads e)) ↔ Uncaught loads lines := by
  induction lines generalizing u with
  | nil => simp [parseLines, Uncaught, pure, Except.pure]
  | cons line lines ih =>
    rw [parseLines_cons, Uncaught, ← parseLine_loads u, ← parseLine_protocol u]
    cases parseLine loads u (rstripReturns line) with
    | error e => cases e <;> simp [bind, Except.bind]
    | ok u' => simpa [bind, Except.bind] using ih u'

theorem parseLines_refused (u : StreamUsage) {lines : List Bytes}
    (h : ∃ line ∈ lines, refused loads (rstripReturns line)) :
    ∃ e, parseLines loads u lines = .error e := by
  induction lines generalizing u with
  | nil => simp at h
  | cons line lines ih =>
    rw [parseLines_cons]
    have hprotocol : (∃ e, parseLine loads u (rstripReturns line) = .error (.protocol e)) ↔
        refused loads (rstripReturns line) := parseLine_protocol u (rstripReturns line)
    cases hu : parseLine loads u (rstripReturns line) with
    | error e => exact ⟨e, rfl⟩
    | ok u' =>
      have hno : ¬ refused loads (rstripReturns line) := by simp [← hprotocol, hu]
      exact ih u' (by simpa [hno] using h)

theorem refused_of_protocol {u : StreamUsage} {lines : List Bytes} {e : StreamProtocolError}
    (h : parseLines loads u lines = .error (.protocol e)) :
    ∃ line ∈ lines, refused loads (rstripReturns line) := by
  induction lines generalizing u with
  | nil => cases h
  | cons line lines ih =>
    rw [parseLines_cons] at h
    cases hu : parseLine loads u (rstripReturns line) with
    | error e' =>
      rw [hu] at h
      obtain rfl : e' = .protocol e := Except.error.inj h
      exact ⟨line, List.mem_cons_self, (parseLine_protocol u _).1 ⟨e, hu⟩⟩
    | ok u' =>
      rw [hu] at h
      obtain ⟨l, hl, href⟩ := ih h
      exact ⟨l, List.mem_cons_of_mem _ hl, href⟩

theorem Uncaught.append {lines : List Bytes} (h : Uncaught loads lines) (rest : List Bytes) :
    Uncaught loads (lines ++ rest) := by
  induction lines with
  | nil => exact h.elim
  | cons line lines ih => exact h.imp id (And.imp id ih)

theorem not_data_of_blank {line : Bytes} (h : strip line = []) :
    ¬ ascii "data:" <+: rstripReturns line := by
  rintro ⟨rest, hrest⟩
  have hmem : (100 : UInt8) ∈ rstripReturns line := by
    rw [← hrest]
    exact List.mem_append_left _ (by decide)
  have hline : (100 : UInt8) ∈ line.takeWhile isSpace ++ line.dropWhile isSpace := by
    rw [List.takeWhile_append_dropWhile]
    exact (List.rdropWhile_prefix _ _).subset hmem
  have hspace : isSpace 100 := by
    rcases List.mem_append.1 hline with hb | hb
    · exact List.mem_takeWhile_imp hb
    · exact List.rdropWhile_eq_nil_iff.1 h _ hb
  exact absurd hspace (by decide)

/-- The rest is a line like the others: one that is blank is read as nothing, and is not read. -/
theorem parseStream_eq (u : StreamUsage) (text : Bytes) :
    parseStream loads u text = parseLines loads u (text.splitOn newline) := by
  have hsplit : text.splitOn newline = Lines.ended newline text ++ [Lines.rest newline text] :=
    (List.dropLast_append_getLast _).symm
  rw [hsplit, parseLines_append]
  unfold parseStream
  congr 1
  funext u
  rw [parseLines_cons]
  by_cases hblank : strip (Lines.rest newline text) = []
  · have hline : parseLine loads u (rstripReturns (Lines.rest newline text)) = .ok u :=
      if_neg (not_data_of_blank hblank)
    rw [hline, if_neg (not_not.2 hblank)]
    rfl
  · rw [if_pos hblank]
    cases parseLine loads u (rstripReturns (Lines.rest newline text)) <;> rfl

end Lines

/-! ## What escapes -/

/-- The lines that a tracker comes to, where the chunks are the best for it. -/
def linesWithin (maxBytes : Nat) (text : Bytes) : List Bytes :=
  if maxBytes < text.length then Lines.ended newline (text.take maxBytes)
  else if newline ∉ text ∧ maxLine < text.length then []
  else text.splitOn newline

section Escapes

variable {loads} {maxBytes : Nat} {chunks : List Bytes}

theorem linesWithin_of_fits (h : Fits maxBytes 0 [] chunks) :
    linesWithin maxBytes chunks.flatten = chunks.flatten.splitOn newline := by
  have hline : ¬ (newline ∉ chunks.flatten ∧ maxLine < chunks.flatten.length) := by
    rintro ⟨hnl, hlong⟩
    exact absurd ((fits_iff_of_not_mem hnl).1 h).1 (not_le.2 hlong)
  rw [linesWithin, if_neg (not_lt.2 h.flatten_le), if_neg hline]

theorem uncaught_of_track {e : LoadsExc} (h : track loads maxBytes chunks = .error (.loads e)) :
    Uncaught loads (linesWithin maxBytes chunks.flatten) := by
  by_cases hfits : Fits maxBytes 0 [] chunks
  · rw [linesWithin_of_fits hfits, ← parseLines_loads .fresh, ← parseStream_eq, ←
      track_of_fits hfits]
    exact ⟨e, h⟩
  · have hfeeds : chunks.foldlM (feed loads) (.fresh maxBytes) = .error (.loads e) := by
      rw [track] at h
      cases ht : chunks.foldlM (feed loads) (.fresh maxBytes) with
      | error e' =>
        rw [ht] at h
        exact congrArg Except.error (Except.error.inj h)
      | ok t => exact absurd (fits_of_feeds ht) hfits
    have hended : Uncaught loads (Lines.ended newline (chunks.flatten.take maxBytes)) :=
      (parseLines_loads .fresh _).1 ⟨e, feeds_loads hfeeds⟩
    rw [linesWithin]
    by_cases hlen : maxBytes < chunks.flatten.length
    · rwa [if_pos hlen]
    · rw [List.take_of_length_le (not_lt.1 hlen)] at hended
      have hnl : newline ∈ chunks.flatten := by
        by_contra hnl
        rwa [Lines.ended_of_not_mem hnl] at hended
      rw [if_neg hlen, if_neg fun h => h.1 hnl]
      have hsplit : chunks.flatten.splitOn newline =
          Lines.ended newline chunks.flatten ++ [Lines.rest newline chunks.flatten] :=
        (List.dropLast_append_getLast _).symm
      rw [hsplit]
      exact hended.append _

/-- One splitting comes to all the lines. -/
theorem track_of_uncaught {text : Bytes} (h : Uncaught loads (linesWithin maxBytes text)) :
    ∃ chunks, chunks.flatten = text ∧ ∃ e, track loads maxBytes chunks = .error (.loads e) := by
  by_cases hlen : maxBytes < text.length
  · rw [linesWithin, if_pos hlen] at h
    refine ⟨[text.take maxBytes, text.drop maxBytes], by simp, ?_⟩
    have hnl : newline ∈ text.take maxBytes := by
      by_contra hnl
      rwa [Lines.ended_of_not_mem hnl] at h
    obtain ⟨e, he⟩ := (parseLines_loads .fresh _).2 h
    have hfirst : feed loads (.fresh maxBytes) (text.take maxBytes) = .error (.loads e) := by
      have hlength : (0 : Nat) + (text.take maxBytes).length ≤ maxBytes := by
        rw [List.length_take]
        omega
      refine (feed_of_fits (t := .fresh maxBytes) hlength fun hlong =>
        hlong.2 (List.mem_append_right _ hnl)).trans ?_
      exact congrArg (Except.map _) he
    refine ⟨e, ?_⟩
    rw [track, List.foldlM_cons, hfirst]
    rfl
  · have hfits : Fits maxBytes 0 [] [text] := by
      by_cases hnl : newline ∈ text
      · exact fits_whole hnl (not_lt.1 hlen)
      · have hline : ¬ maxLine < text.length := by
          intro hlong
          rw [linesWithin, if_neg hlen, if_pos ⟨hnl, hlong⟩] at h
          exact h
        refine (fits_iff_of_not_mem (by simpa using hnl)).2 ?_
        rw [List.flatten_singleton]
        exact ⟨not_lt.1 hline, not_lt.1 hlen⟩
    have heq := linesWithin_of_fits hfits
    rw [List.flatten_singleton] at heq
    refine ⟨[text], List.flatten_singleton, ?_⟩
    rw [track_of_fits hfits, List.flatten_singleton, parseStream_eq]
    exact (parseLines_loads .fresh _).2 (heq ▸ h)

end Escapes

/-! ## Two splittings -/

/-- Both are refused by the tracker, or both are read, and the same is read. -/
def Agree (x y : Except StreamExc StreamUsage) : Prop :=
  (∃ e e', x = .error (.protocol e) ∧ y = .error (.protocol e')) ∨ ∃ u, x = .ok u ∧ y = .ok u

section Agree

variable {loads} {maxBytes : Nat} {text : Bytes} {chunks chunks' : List Bytes}

theorem track_protocol (hcaught : ¬ Uncaught loads (linesWithin maxBytes chunks.flatten))
    (h : ∀ u, track loads maxBytes chunks ≠ .ok u) : ∃ e, track loads maxBytes chunks =
      .error (.protocol e) := by
  cases ht : track loads maxBytes chunks with
  | error e =>
    cases e with
    | protocol e => exact ⟨e, rfl⟩
    | loads e => exact absurd (uncaught_of_track ht) hcaught
  | ok u => exact absurd ht (h u)

theorem agree_iff (hcaught : ¬ Uncaught loads (linesWithin maxBytes text))
    (h : chunks.flatten = text)
    (h' : chunks'.flatten = text) : Agree (track loads maxBytes chunks)
    (track loads maxBytes chunks') ↔
    (Fits maxBytes 0 [] chunks ↔ Fits maxBytes 0 [] chunks') ∨ ∃ e,
    parseStream loads .fresh text = .error e := by
  have hfail {c : List Bytes} (hc : c.flatten = text) (hno : ∀ u, track loads maxBytes c ≠ .ok u) :
      ∃ e, track loads maxBytes c = .error (.protocol e) := track_protocol (hc ▸ hcaught) hno
  cases hp : parseStream loads .fresh text with
  | error e =>
    have herr {c : List Bytes} (hc : c.flatten = text) :
        ∃ e, track loads maxBytes c = .error (.protocol e) :=
      hfail hc fun u hu => by
        rw [track_ok, hc, hp] at hu
        exact nomatch hu.2
    obtain ⟨e₁, h₁⟩ := herr h
    obtain ⟨e₂, h₂⟩ := herr h'
    exact ⟨fun _ => .inr ⟨e, rfl⟩, fun _ => .inl ⟨e₁, e₂, h₁, h₂⟩⟩
  | ok u =>
    have hok {c : List Bytes} (hc : c.flatten = text) (hf : Fits maxBytes 0 [] c) :
        track loads maxBytes c = .ok u :=
      (track_ok loads maxBytes c u).2 ⟨hf, hc ▸ hp⟩
    have herr {c : List Bytes} (hc : c.flatten = text) (hf : ¬ Fits maxBytes 0 [] c) :
        ∃ e, track loads maxBytes c = .error (.protocol e) :=
      hfail hc fun u hu => hf ((track_ok loads maxBytes c u).1 hu).1
    by_cases hf : Fits maxBytes 0 [] chunks
    · by_cases hf' : Fits maxBytes 0 [] chunks'
      · exact ⟨fun _ => .inl (iff_of_true hf hf'), fun _ => .inr ⟨u, hok h hf, hok h' hf'⟩⟩
      · obtain ⟨e, he⟩ := herr h' hf'
        simp [Agree, hok h hf, he, hf, hf']
    · by_cases hf' : Fits maxBytes 0 [] chunks'
      · obtain ⟨e, he⟩ := herr h hf
        simp [Agree, hok h' hf', he, hf, hf']
      · obtain ⟨e, he⟩ := herr h hf
        obtain ⟨e', he'⟩ := herr h' hf'
        exact ⟨fun _ => .inl (iff_of_false hf hf'), fun _ => .inl ⟨e, e', he, he'⟩⟩

end Agree

/-- What is read of a text does not depend on its chunks, unless a line escapes, or is too long
for the buffer and a newline in its chunk saves it. -/
theorem chunks_agree (maxBytes : Nat) (text : Bytes) :
    (∀ chunks chunks', chunks.flatten = text → chunks'.flatten = text →
      Agree (track loads maxBytes chunks) (track loads maxBytes chunks')) ↔
    ¬ Uncaught loads (linesWithin maxBytes text) ∧
      (newline ∉ text ∨ maxBytes < text.length ∨
        (∀ line ∈ text.splitOn newline, line.length ≤ maxLine) ∨
        ∃ line ∈ text.splitOn newline, refused loads (rstripReturns line)) := by
  constructor
  · intro h
    have hcaught : ¬ Uncaught loads (linesWithin maxBytes text) := by
      intro huncaught
      obtain ⟨chunks, hflat, e, he⟩ := track_of_uncaught huncaught
      have hagree := h chunks chunks hflat hflat
      rw [he] at hagree
      rcases hagree with ⟨e₁, e₂, h₁, -⟩ | ⟨u, hu, -⟩
      · cases h₁
      · cases hu
    refine ⟨hcaught, ?_⟩
    by_contra hno
    push Not at hno
    obtain ⟨hnl, hlen, ⟨line, hline, hlong⟩, hok⟩ := hno
    have hwhole : Fits maxBytes 0 [] [text] := fits_whole hnl hlen
    have hbytes : ¬ Fits maxBytes 0 [] (text.map fun b => [b]) := fun hf =>
      short_of_fits List.not_mem_nil (Nat.zero_le _) hf ⟨line, hline, hlong⟩
    have hflat : (text.map fun b => [b]).flatten = text := List.flatMap_singleton' text
    have hread : ∀ e, parseStream loads .fresh text ≠ .error e := by
      intro e he
      obtain ⟨e, rfl⟩ : ∃ e', e = .protocol e' := by
        have hfail : (∀ u, track loads maxBytes [text] ≠ .ok u) →
            ∃ e, track loads maxBytes [text] = .error (.protocol e) :=
          track_protocol (by simpa using hcaught)
        rw [track_of_fits hwhole, List.flatten_singleton, he] at hfail
        obtain ⟨e', he'⟩ := hfail nofun
        exact ⟨e', Except.error.inj he'⟩
      obtain ⟨l, hl, href⟩ := refused_of_protocol ((parseStream_eq _ _).symm.trans he)
      exact hok l hl href
    rcases (agree_iff hcaught List.flatten_singleton hflat).1
      (h _ _ List.flatten_singleton hflat) with
      hiff | ⟨e, he⟩
    · exact hbytes (hiff.1 hwhole)
    · exact hread e he
  · rintro ⟨hcaught, hcase⟩ chunks chunks' h h'
    rw [agree_iff hcaught h h']
    -- each of the first three conditions says by the text alone which chunks fit
    rcases hcase with hnl | hlen | hshort | herr
    · have hiff (c : List Bytes) (hc : c.flatten = text) : Fits maxBytes 0 [] c ↔
          c.flatten.length ≤ maxLine ∧ c.flatten.length ≤ maxBytes := fits_iff_of_not_mem (hc ▸ hnl)
      exact .inl ((hiff _ h).trans (h ▸ h' ▸ (hiff _ h').symm))
    · have hno (c : List Bytes) (hc : c.flatten = text) : ¬ Fits maxBytes 0 [] c := fun hf => by
        have := hf.flatten_le
        rw [hc] at this
        omega
      exact .inl (iff_of_false (hno _ h) (hno _ h'))
    · have hiff (c : List Bytes) (hc : c.flatten = text) : Fits maxBytes 0 [] c ↔
          text.length ≤ maxBytes := by
        subst hc
        refine ⟨Fits.flatten_le, fun hle => fits_of_short (by simpa using hle) ?_⟩
        rintro ⟨line, hline, hlong⟩
        have := hshort line hline
        omega
      exact .inl ((hiff _ h).trans (hiff _ h').symm)
    · rw [parseStream_eq]
      exact .inr (parseLines_refused .fresh herr)

theorem track_long_line {maxBytes : Nat} {line : Bytes} (hnl : newline ∉ line)
    (hlong : maxLine < line.length)
    (hlen : line.length + 1 ≤ maxBytes) (hdata : ¬ ascii "data:" <+: rstripReturns line) :
    track loads maxBytes [line ++ [newline]] = .ok .fresh ∧
    track loads maxBytes [line, [newline]] =
      .error (.protocol ⟨"provider_stream_line_too_large"⟩) := by
  constructor
  · rw [track_ok]
    refine ⟨fits_whole (by simp) (by simpa using hlen), ?_⟩
    have hend : Lines.ended newline (line ++ [newline]) = [line] := by
      rw [Lines.ended_cons hnl, Lines.ended_of_not_mem List.not_mem_nil]
    have hrest : Lines.rest newline (line ++ [newline]) = [] := by
      rw [Lines.rest_cons hnl, Lines.rest_of_not_mem List.not_mem_nil]
    have hline : parseLine loads .fresh (rstripReturns line) = .ok .fresh := if_neg hdata
    rw [List.flatten_singleton, parseStream, hend, hrest]
    simp only [parseLines, List.foldlM_cons, List.foldlM_nil, hline]
    rfl
  · have hfeed : feed loads (.fresh maxBytes) line =
        .error (.protocol ⟨"provider_stream_line_too_large"⟩) := by
      unfold feed
      have h1 : ¬ maxBytes < 0 + line.length := by omega
      have h2 : maxLine < ([] ++ line).length ∧ newline ∉ [] ++ line :=
        ⟨by simpa using hlong, by simpa using hnl⟩
      exact (if_neg h1).trans ((if_pos h2).trans rfl)
    rw [track, List.foldlM_cons, hfeed]
    rfl

/-- A line of one byte more than the limit, without data. -/
def longLine : Bytes := List.replicate (maxLine + 1) 97

/-- In one chunk with its newline the line is read, and before it the line is too long. -/
theorem chunks_disagree :
    track (fun _ => .error .jsonDecodeError) (10 * 1024 * 1024)
      [longLine ++ [newline]] = .ok .fresh ∧
    track (fun _ => .error .jsonDecodeError) (10 * 1024 * 1024) [longLine, [newline]] =
      .error (.protocol ⟨"provider_stream_line_too_large"⟩) := by
  have hlength : longLine.length = maxLine + 1 := List.length_replicate
  have hmem : ∀ b ∈ longLine, b = 97 := fun b hb => List.eq_of_mem_replicate hb
  refine track_long_line _ (fun h => absurd (hmem _ h) (by decide)) (by omega)
    (by rw [hlength]; decide) ?_
  rintro ⟨rest, hrest⟩
  have hd : (100 : UInt8) ∈ rstripReturns longLine := by
    rw [← hrest]
    exact List.mem_append_left _ (by decide)
  exact absurd (hmem _ ((List.rdropWhile_prefix _ _).subset hd)) (by decide)

end Chunks

end Kunlun
