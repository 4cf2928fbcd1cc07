import Kunlun.Routes
import Kunlun.Streaming

/-!
# Synthesized streams (`streaming.py`)

`synthesize_sse` makes a stream of a completion that has been buffered. Python's `str` and
`int` of a JSON value are parameters, as `json.loads` is.
-/

namespace Kunlun

/-! ## Text -/

def utf8Bytes (c : Nat) : Bytes :=
  if c < 0x80 then [c.toUInt8]
  else if c < 0x800 then [(0xC0 + c / 0x40).toUInt8, (0x80 + c % 0x40).toUInt8]
  else if c < 0x10000 then
    [(0xE0 + c / 0x1000).toUInt8, (0x80 + c / 0x40 % 0x40).toUInt8, (0x80 + c % 0x40).toUInt8]
  else [(0xF0 + c / 0x40000).toUInt8, (0x80 + c / 0x1000 % 0x40).toUInt8,
    (0x80 + c / 0x40 % 0x40).toUInt8, (0x80 + c % 0x40).toUInt8]

/-- `str.encode`, or `UnicodeEncodeError` on a lone surrogate. -/
def utf8? : PyStr → Option Bytes
  | [] => some []
  | c :: cs => if c.isValidChar then (utf8? cs).map (utf8Bytes c ++ ·) else none

def hexFour (c : Nat) : PyStr := [c / 0x1000, c / 0x100, c / 16, c].map fun n =>
    Json.hexDigit (n % 16)

/-- What `ensure_ascii` makes of a character, which is part of a string literal if it is not
printable. -/
def asciiChar (c : Nat) : PyStr :=
  if c < 0x7F then [c]
  else if c < 0x10000 then py "\\u" ++ hexFour c
  else py "\\u" ++ hexFour (0xD800 + (c - 0x10000) / 0x400) ++ py "\\u" ++ hexFour
    (0xDC00 + (c - 0x10000) % 0x400)

/-- `json.dumps(value, separators=(",", ":"))`. -/
def Json.dumpsAscii (v : Json) : PyStr := v.dumps.flatMap asciiChar

/-! ## The stream -/

/-- The fields that all events of a stream share. -/
structure StreamHeader where
  id : PyStr
  created : Int
  model : Json

def StreamHeader.event (h : StreamHeader) (fields : List (PyStr × Json)) : Json :=
  .obj ([(py "id", .str h.id), (py "object", .str (py "chat.completion.chunk")),
    (py "created", .int h.created), (py "model", h.model)] ++ fields)

def choiceMessage (choice : Json) : Json :=
  match choice.get? (py "message") with
  | some (.obj message) => .obj message
  | _ => .obj []

/-- The item of a dictionary, if it has it. -/
def itemOf (v : Json) (name : String) : List (PyStr × Json) :=
  match v.get? (py name) with
  | some x => [(py name, x)]
  | none => []

def messageDelta (message : Json) : Json :=
  .obj ([(py "role", (message.get? (py "role")).getD (.str (py "assistant")))] ++ itemOf
    message "content" ++
    itemOf message "tool_calls")

/-- The two events of a choice. -/
def choiceEvents (h : StreamHeader) (choice : Json) (index : Nat) : List Json :=
  let chunk (delta finishReason : Json) : Json := h.event [(py "choices", .arr [.obj [
    (py "index", (choice.get? (py "index")).getD (.int index)), (py "delta", delta),
    (py "finish_reason", finishReason)]])]
  if choice.isObj then
    [chunk (messageDelta (choiceMessage choice)) .null,
      chunk (.obj []) ((choice.get? (py "finish_reason")).getD (.str (py "stop")))]
  else []

def usageEvent (h : StreamHeader) (usage : Json) : Json :=
  h.event [(py "choices", .arr []), (py "usage", usage)]

def responseChoices (response : Json) : List Json :=
  match response.get? (py "choices") with
  | some (.arr choices) => choices
  | _ => []

structure SynthesizeArgs where
  response : Json
  requestId : PyStr
  model : PyStr
  /-- `int(time.time())`. -/
  now : Int

section Synthesize

variable (text : Json → PyStr) (int? : Json → Option Int)

/-- `int(response.get("created") or time.time())`. -/
def createdOf (a : SynthesizeArgs) : Option Int :=
  match (a.response.get? (py "created")).filter Json.truthy with
  | some v => int? v
  | none => some a.now

def streamHeader (a : SynthesizeArgs) (created : Int) : StreamHeader where
  id := match (a.response.get? (py "id")).filter Json.truthy with
    | some v => text v
    | none => py "chatcmpl_" ++ a.requestId.filter (· ≠ 45)
  created := created
  model := ((a.response.get? (py "model")).filter Json.truthy).getD (.str a.model)

/-- The events, each with its JSON. -/
def streamEvents (a : SynthesizeArgs) (h : StreamHeader) : List (Json × PyStr) :=
  ((responseChoices a.response).zipIdx.flatMap fun p => (choiceEvents h p.1 p.2).map
    fun e => (e, e.dumps)) ++
  match a.response.get? (py "usage") with
  | some (.obj usage) => [(usageEvent h (.obj usage), (usageEvent h (.obj usage)).dumpsAscii)]
  | _ => []

def frame (data : Bytes) : Bytes := ascii "data: " ++ data ++ ascii "\n\n"

/-- The chunks that the generator yields, if nothing in it raises. -/
def synthesizeSse (a : SynthesizeArgs) : Option (List Bytes) := do
  let created ← createdOf int? a
  let frames ← (streamEvents a (streamHeader text a created)).mapM fun e => (utf8? e.2).map frame
  return frames ++ [frame (ascii "[DONE]")]

end Synthesize

/-- `settlement_response`, with whether the counts are an estimate. -/
def StreamUsage.settlementResponse (u : StreamUsage) (model : String) (fallbackInputTokens : Int) :
    Except Exc (Json × Bool) := do
  let promptTokens := u.promptTokens.getD fallbackInputTokens
  let completionTokens ← match u.completionTokens with
    | some n => .ok n
    | none => if u.outputCharacters = 0 then .ok 0 else ceilDiv u.outputCharacters 4
  return (Kunlun.settlementResponse model promptTokens completionTokens,
    ¬ (u.promptTokens.isSome ∧ u.completionTokens.isSome))

/-! ## What can be encoded -/

/-- The text has no lone surrogate. -/
def Clean (s : PyStr) : Prop := ∀ c ∈ s, c.isValidChar

theorem clean_py (s : String) : Clean (py s) := by
  intro c hc
  obtain ⟨x, -, rfl⟩ := List.mem_map.1 hc
  exact x.valid

@[simp]
theorem clean_append (s t : PyStr) : Clean (s ++ t) ↔ Clean s ∧ Clean t := by
  simp [Clean, or_imp, forall_and]

@[simp]
theorem clean_cons (c : Nat) (s : PyStr) : Clean (c :: s) ↔ c.isValidChar ∧ Clean s := by
  simp [Clean]

theorem utf8?_isSome (s : PyStr) : (utf8? s).isSome ↔ Clean s := by
  induction s with
  | nil => simp [utf8?, Clean]
  | cons c s ih =>
    unfold utf8?
    by_cases hc : c.isValidChar
    · simp [hc, ih]
    · simp [hc]

theorem utf8?_append (s t : PyStr) : utf8? (s ++ t) = (utf8? s).bind fun a =>
    (utf8? t).map (a ++ ·) := by
  induction s with
  | nil => simp [utf8?]
  | cons c s ih =>
    simp only [List.cons_append, utf8?, ih]
    by_cases hc : c.isValidChar
    · simp only [if_pos hc]
      cases utf8? s with
      | none => rfl
      | some a => cases utf8? t <;> simp
    · simp [hc]

theorem ne_newline_of_le {n : Nat} (h : 0x80 ≤ n) (hlt : n < 0x100) : n.toUInt8 ≠ newline := by
  intro heq
  have := congrArg UInt8.toNat heq
  simp only [Nat.toUInt8, UInt8.toNat_ofNat', newline] at this
  have h10 : (10 : UInt8).toNat = 10 := rfl
  omega

theorem newline_mem_utf8Bytes {c : Nat} (hc : c.isValidChar)
    (h : newline ∈ utf8Bytes c) : c = 10 := by
  have hlt : c < 0x110000 := hc.elim (fun h => by omega) And.right
  unfold utf8Bytes at h
  split_ifs at h with h1 h2 h3
  · have := congrArg UInt8.toNat (List.mem_singleton.1 h)
    simp only [newline, Nat.toUInt8, UInt8.toNat_ofNat'] at this
    have h10 : (10 : UInt8).toNat = 10 := rfl
    omega
  all_goals simp only [List.mem_cons, List.not_mem_nil, or_false] at h
  · obtain h | h := h <;> exact absurd h.symm (ne_newline_of_le (by omega) (by omega))
  · obtain h | h | h := h <;> exact absurd h.symm (ne_newline_of_le (by omega) (by omega))
  · obtain h | h | h | h := h <;> exact absurd h.symm (ne_newline_of_le (by omega) (by omega))

theorem newline_mem_utf8 {s : PyStr} {b : Bytes} (h : utf8? s = some b)
    (hmem : newline ∈ b) : 10 ∈ s := by
  induction s generalizing b with
  | nil =>
    obtain rfl := Option.some.inj h
    cases hmem
  | cons c s ih =>
    unfold utf8? at h
    split at h
    · rename_i hc
      obtain ⟨a, ha, rfl⟩ := Option.map_eq_some_iff.1 h
      rcases List.mem_append.1 hmem with hmem | hmem
      · rw [newline_mem_utf8Bytes hc hmem]
        exact List.mem_cons_self
      · exact List.mem_cons_of_mem _ (ih ha hmem)
    · cases h

theorem clean_dumpsItems (items : List Json) : Clean (Json.dumpsItems items) ↔
    ∀ x ∈ items, Clean x.dumps := by
  induction items with
  | nil => simp [Json.dumpsItems, Clean]
  | cons x items ih =>
    cases items with
    | nil => simp [Json.dumpsItems]
    | cons y items => simp [Json.dumpsItems, ih, clean_py]

theorem clean_dumpsPairs (items : List (PyStr × Json)) : Clean (Json.dumpsPairs items) ↔
    ∀ p ∈ items, Clean (Json.quote p.1) ∧ Clean p.2.dumps := by
  induction items with
  | nil => simp [Json.dumpsPairs, Clean]
  | cons x items ih =>
    cases items with
    | nil => simp [Json.dumpsPairs, clean_py]
    | cons y items => simp [Json.dumpsPairs, ih, clean_py, and_assoc]

theorem clean_arr (items : List Json) : Clean (Json.arr items).dumps ↔
    ∀ x ∈ items, Clean x.dumps := by
  simp [Json.dumps, clean_dumpsItems, clean_py]

theorem clean_obj (items : List (PyStr × Json)) : Clean (Json.obj items).dumps ↔
    ∀ p ∈ items, Clean (Json.quote p.1) ∧ Clean p.2.dumps := by
  simp [Json.dumps, clean_dumpsPairs, clean_py]

theorem clean_escapeChar {c : Nat} (h : c.isValidChar) : Clean (Json.escapeChar c) := by
  have hex (n : Nat) : (Json.hexDigit (n % 16)).isValidChar := by
    unfold Json.hexDigit
    split <;> exact .inl (by omega)
  unfold Json.escapeChar
  split_ifs with h1 h2 h3 h4 h5 h6 h7 h8
  all_goals try exact clean_py _
  · have hdiv : c / 16 = c / 16 % 16 := by omega
    rw [clean_append, clean_cons, clean_cons, hdiv]
    exact ⟨clean_py _, hex _, hex _, nofun⟩
  · simpa [Clean] using h

theorem clean_quote {s : PyStr} (h : Clean s) : Clean (Json.quote s) := by
  simp only [Json.quote, clean_append, clean_cons]
  refine ⟨⟨⟨.inl (by decide), nofun⟩, fun c hc => ?_⟩, .inl (by decide), nofun⟩
  obtain ⟨x, hx, hc⟩ := List.mem_flatMap.1 hc
  exact clean_escapeChar (h x hx) c hc

theorem clean_get? {v x : Json} {k : PyStr} (h : Clean v.dumps)
    (hx : v.get? k = some x) : Clean x.dumps := by
  cases v with
  | obj items =>
    obtain ⟨p, hp, rfl⟩ := Option.map_eq_some_iff.1 hx
    exact ((clean_obj items).1 h p (List.mem_of_find?_eq_some hp)).2
  | _ => cases hx

theorem clean_getD {v : Json} {k : PyStr} {other : Json} (h : Clean v.dumps)
    (ho : Clean other.dumps) :
    Clean ((v.get? k).getD other).dumps := by
  cases hx : v.get? k with
  | none => exact ho
  | some x => exact clean_get? h hx

theorem clean_asciiChar {c : Nat} (h : c.isValidChar) : Clean (asciiChar c) := by
  have hex (n : Nat) : Clean (hexFour n) := by
    intro d hd
    obtain ⟨m, -, rfl⟩ := List.mem_map.1 hd
    unfold Json.hexDigit
    split <;> exact .inl (by omega)
  unfold asciiChar
  split_ifs
  · simpa [Clean] using h
  · exact (clean_append _ _).2 ⟨clean_py _, hex _⟩
  · simp only [clean_append]
    exact ⟨⟨⟨clean_py _, hex _⟩, clean_py _⟩, hex _⟩

theorem clean_dumpsAscii {v : Json} (h : Clean v.dumps) : Clean v.dumpsAscii := by
  intro c hc
  obtain ⟨x, hx, hc⟩ := List.mem_flatMap.1 hc
  exact clean_asciiChar (h x hx) c hc

/-! ## The events can be encoded -/

theorem clean_event {h : StreamHeader} {fields : List (PyStr × Json)} (hid : Clean h.id)
    (hmodel : Clean h.model.dumps)
    (hfields : ∀ p ∈ fields, Clean (Json.quote p.1) ∧ Clean p.2.dumps) :
    Clean (h.event fields).dumps := by
  have hkey (name : String) : Clean (Json.quote (py name)) := clean_quote (clean_py name)
  rw [StreamHeader.event, clean_obj]
  intro p hp
  rcases List.mem_append.1 hp with hp | hp
  · simp only [List.mem_cons, List.not_mem_nil, or_false] at hp
    rcases hp with rfl | rfl | rfl | rfl
    · exact ⟨hkey _, clean_quote hid⟩
    · exact ⟨hkey _, hkey _⟩
    · exact ⟨hkey _, clean_py _⟩
    · exact ⟨hkey _, hmodel⟩
  · exact hfields p hp

theorem clean_message {choice : Json} (h : Clean choice.dumps) :
    Clean (choiceMessage choice).dumps := by
  unfold choiceMessage
  split
  · rename_i message hm
    exact clean_get? h hm
  · exact clean_py "\x7b\x7d"

theorem clean_delta {message : Json} (h : Clean message.dumps) :
    Clean (messageDelta message).dumps := by
  have hitem (name : String) :
      ∀ p ∈ itemOf message name, Clean (Json.quote p.1) ∧ Clean p.2.dumps := by
    unfold itemOf
    split
    · rename_i x hx
      intro p hp
      obtain rfl := List.mem_singleton.1 hp
      exact ⟨clean_quote (clean_py _), clean_get? h hx⟩
    · nofun
  rw [messageDelta, clean_obj]
  intro p hp
  simp only [List.mem_append, List.mem_singleton] at hp
  rcases hp with (rfl | hp) | hp
  · exact ⟨clean_quote (clean_py _), clean_getD h (clean_quote (clean_py _))⟩
  · exact hitem _ p hp
  · exact hitem _ p hp

theorem clean_choiceEvents {h : StreamHeader} (hid : Clean h.id)
    (hmodel : Clean h.model.dumps) {choice : Json}
    (hchoice : Clean choice.dumps) (index : Nat) :
    ∀ e ∈ choiceEvents h choice index, Clean e.dumps := by
  have hchunk (delta reason : Json) (hd : Clean delta.dumps) (hr : Clean reason.dumps) :
      Clean (h.event [(py "choices",
        .arr [.obj [(py "index", (choice.get? (py "index")).getD (.int index)), (py "delta", delta),
          (py "finish_reason", reason)]])]).dumps := by
    refine clean_event hid hmodel fun p hp => ?_
    obtain rfl := List.mem_singleton.1 hp
    refine ⟨clean_quote (clean_py _), (clean_arr _).2 fun x hx => ?_⟩
    obtain rfl := List.mem_singleton.1 hx
    rw [clean_obj]
    intro q hq
    simp only [List.mem_cons, List.not_mem_nil, or_false] at hq
    rcases hq with rfl | rfl | rfl
    · exact ⟨clean_quote (clean_py _), clean_getD hchoice (clean_py _)⟩
    · exact ⟨clean_quote (clean_py _), hd⟩
    · exact ⟨clean_quote (clean_py _), hr⟩
  unfold choiceEvents
  dsimp only
  split
  · intro e he
    simp only [List.mem_cons, List.not_mem_nil, or_false] at he
    rcases he with rfl | rfl
    · exact hchunk _ _ (clean_delta (clean_message hchoice)) (clean_py _)
    · exact hchunk _ _ (clean_py "\x7b\x7d") (clean_getD hchoice (clean_quote (clean_py _)))
  · nofun

theorem clean_responseChoices {response : Json} (h : Clean response.dumps) :
    ∀ choice ∈ responseChoices response, Clean choice.dumps := by
  unfold responseChoices
  split
  · rename_i choices hc
    exact (clean_arr choices).1 (clean_get? h hc)
  · nofun

theorem clean_streamEvents {a : SynthesizeArgs} {h : StreamHeader}
    (hresponse : Clean a.response.dumps)
    (hid : Clean h.id) (hmodel : Clean h.model.dumps) : ∀ e ∈ streamEvents a h, Clean e.2 := by
  intro e he
  rcases List.mem_append.1 he with he | he
  · obtain ⟨p, hp, he⟩ := List.mem_flatMap.1 he
    obtain ⟨x, hx, rfl⟩ := List.mem_map.1 he
    exact clean_choiceEvents hid hmodel
      (clean_responseChoices hresponse _ (List.fst_mem_of_mem_zipIdx hp)) _ x hx
  · split at he
    · rename_i usage hu
      obtain rfl := List.mem_singleton.1 he
      refine clean_dumpsAscii (clean_event hid hmodel fun p hp => ?_)
      simp only [List.mem_cons, List.not_mem_nil, or_false] at hp
      rcases hp with rfl | rfl
      · exact ⟨clean_quote (clean_py _), clean_py "[]"⟩
      · exact ⟨clean_quote (clean_py _), clean_get? hresponse hu⟩
    · cases he

theorem clean_header {text : Json → PyStr} (htext : ∀ v : Json, Clean v.dumps → Clean (text v))
    {a : SynthesizeArgs}
    (hresponse : Clean a.response.dumps) (hid : Clean a.requestId)
    (hmodel : Clean a.model) (created : Int) :
    Clean (streamHeader text a created).id ∧ Clean (streamHeader text a created).model.dumps := by
  constructor
  · unfold streamHeader
    dsimp only
    split
    · rename_i v hv
      exact htext v (clean_get? hresponse (Option.filter_eq_some_iff.1 hv).1)
    · exact (clean_append _ _).2 ⟨clean_py _, fun c hc => hid c (List.mem_filter.1 hc).1⟩
  · dsimp only [streamHeader]
    cases hm : (a.response.get? (py "model")).filter Json.truthy with
    | none => exact clean_quote hmodel
    | some v => exact clean_get? hresponse (Option.filter_eq_some_iff.1 hm).1

/-! ## The frames are read back -/

/-- The bytes of an object begin and end with its braces. -/
def Braced (d : Bytes) : Prop := ∃ mid, d = 123 :: (mid ++ [125])

theorem utf8?_braces {s : PyStr} {d : Bytes}
    (h : utf8? (123 :: (s ++ [125])) = some d) : Braced d := by
  obtain ⟨a, ha, rfl⟩ := Option.map_eq_some_iff.1
    (show (utf8? (s ++ [125])).map (utf8Bytes 123 ++ ·) = some d from h)
  rw [utf8?_append] at ha
  obtain ⟨mid, -, hmid⟩ := Option.bind_eq_some_iff.1 ha
  obtain rfl := Option.some.inj (show some (mid ++ [125]) = some a from hmid)
  exact ⟨mid, rfl⟩

theorem braced_dumps {items : List (PyStr × Json)} {d : Bytes}
    (h : utf8? (Json.obj items).dumps = some d) : Braced d :=
  utf8?_braces h

theorem braced_dumpsAscii {items : List (PyStr × Json)} {d : Bytes}
    (h : utf8? (Json.obj items).dumpsAscii = some d) :
    Braced d := by
  refine utf8?_braces (s := (Json.dumpsPairs items).flatMap asciiChar) ?_
  rw [← h, Json.dumpsAscii, Json.dumps]
  simp only [List.flatMap_append]
  rfl

theorem strip_braced {d : Bytes} (h : Braced d) : strip (32 :: d) = d := by
  obtain ⟨mid, rfl⟩ := h
  have hdrop : (32 :: 123 :: (mid ++ [125])).dropWhile isSpace = 123 :: (mid ++ [125]) := by
    rw [List.dropWhile_cons_of_pos (by decide), List.dropWhile_cons_of_neg (by decide)]
  rw [strip, hdrop, ← List.cons_append, List.rdropWhile_concat_neg _ _ _ (by decide)]

section Frames

variable {loads : Bytes → Except LoadsExc Json}

theorem parseLine_event {d : Bytes} {e : Json} (hd : Braced d)
    (hloads : loads d = .ok e) (he : e.isObj)
    (u : StreamUsage) : parseLine loads u
      (rstripReturns (ascii "data: " ++ d)) = .ok (u.event e) := by
  have hline : rstripReturns (ascii "data: " ++ d) = ascii "data:" ++ 32 :: d := by
    obtain ⟨mid, rfl⟩ := hd
    rw [rstripReturns, ← List.cons_append, ← List.append_assoc,
      List.rdropWhile_concat_neg _ _ _ (by decide)]
    simp [ascii]
  have hdrop : (ascii "data:" ++ 32 :: d).drop 5 = 32 :: d := List.drop_left' rfl
  have hmark : d ≠ ascii "[DONE]" := by
    obtain ⟨mid, rfl⟩ := hd
    intro heq
    exact absurd (List.cons.inj heq).1 (by decide)
  have hne : d ≠ [] := by
    obtain ⟨mid, rfl⟩ := hd
    simp
  rw [hline, parseLine, if_pos (List.prefix_append ..), hdrop, strip_braced hd]
  simp [hmark, hne, hloads, he]

theorem parseStream_line {l r : Bytes} (hl : newline ∉ l) (u : StreamUsage) :
    parseStream loads u (l ++ newline :: r) = parseLine loads u (rstripReturns l) >>= fun u =>
      parseStream loads u r := by
  unfold parseStream
  rw [Lines.ended_cons hl, Lines.rest_cons hl]
  simp only [parseLines, List.foldlM_cons]
  rw [bind_assoc]

theorem parseStream_frame {d r : Bytes} (hd : newline ∉ d) (u : StreamUsage) :
    parseStream loads u (frame d ++ r) =
    parseLine loads u (rstripReturns (ascii "data: " ++ d)) >>= fun u => parseStream loads u r := by
  have hframe : frame d ++ r = (ascii "data: " ++ d) ++ newline :: ([] ++ newline :: r) := by
    simp [frame, ascii, newline]
  have hnl : newline ∉ ascii "data: " ++ d := by
    rw [List.mem_append, not_or]
    exact ⟨by decide, hd⟩
  rw [hframe, parseStream_line hnl]
  congr 1
  funext u
  rw [parseStream_line List.not_mem_nil]
  rfl

/-- A frame carries its event. -/
structure HoldsEvent (loads : Bytes → Except LoadsExc Json) (e : Json × PyStr)
    (b : Bytes) : Prop where
  read : ∃ d, b = frame d ∧ newline ∉ d ∧ Braced d ∧ loads d = .ok e.1
  isObj : e.1.isObj

theorem parseStream_frames {es : List (Json × PyStr)} {bs : List Bytes}
    (h : List.Forall₂ (HoldsEvent loads) es bs)
    (u : StreamUsage) : parseStream loads u (bs.flatten ++ frame (ascii "[DONE]")) =
      .ok { es.foldl (fun u e => u.event e.1) u with done := true } := by
  induction h generalizing u with
  | nil =>
    rw [List.flatten_nil, List.nil_append, ← List.append_nil (frame _),
      parseStream_frame (by decide)]
    have hdone : parseLine loads u (rstripReturns (ascii "data: " ++ ascii "[DONE]")) =
        .ok { u with done := true } := by
      rfl
    rw [hdone]
    rfl
  | cons hb _ ih =>
    obtain ⟨⟨d, rfl, hnl, hd, hloads⟩, he⟩ := hb
    rw [List.flatten_cons, List.append_assoc, parseStream_frame hnl, parseLine_event hd hloads he]
    exact ih _

end Frames

/-! ## What the events count -/

theorem event_choice (h : StreamHeader) (u : StreamUsage) (index delta reason : Json) :
    u.event (h.event [(py "choices",
      .arr [.obj [(py "index", index), (py "delta", delta), (py "finish_reason", reason)]])]) =
      { u with outputCharacters := u.outputCharacters + deltaCharacters delta } := by
  rfl

theorem event_usage (h : StreamHeader) (u : StreamUsage) {usage : List (PyStr × Json)} {i o : Int}
    (hi : usageCount (.obj usage) "prompt_tokens" "input_tokens" = some i)
    (ho : usageCount (.obj usage) "completion_tokens" "output_tokens" = some o) :
    u.event (usageEvent h (.obj usage)) =
      { u with promptTokens := some i, completionTokens := some o } := by
  have heq : u.event (usageEvent h (.obj usage)) = { u with
      promptTokens := (usageCount (.obj usage) "prompt_tokens" "input_tokens").or u.promptTokens
      completionTokens := (usageCount (.obj usage) "completion_tokens" "output_tokens").or
        u.completionTokens } := rfl
  rw [heq, hi, ho]
  rfl

theorem deltaCharacters_messageDelta (message : Json) :
    deltaCharacters (messageDelta message) = deltaCharacters message := by
  have hcontent : (messageDelta message).get? (py "content") = message.get? (py "content") := by
    unfold messageDelta itemOf
    cases message.get? (py "content") <;> cases message.get? (py "tool_calls") <;> rfl
  have hcalls : (messageDelta message).get? (py "tool_calls") = message.get? (py "tool_calls") := by
    unfold messageDelta itemOf
    cases message.get? (py "content") <;> cases message.get? (py "tool_calls") <;> rfl
  rw [deltaCharacters, hcontent, hcalls, deltaCharacters]

theorem deltaCharacters_choiceMessage (choice : Json) :
    deltaCharacters (choiceMessage choice) = choiceCharacters "message" choice := by
  unfold choiceMessage choiceCharacters
  cases choice.get? (py "message") with
  | none => rfl
  | some message => cases message <;> rfl

theorem choiceEvents_count (h : StreamHeader) (choice : Json) (index : Nat) (u : StreamUsage) :
    (choiceEvents h choice index).foldl StreamUsage.event u =
      { u with outputCharacters := u.outputCharacters + choiceCharacters "message" choice } := by
  unfold choiceEvents
  dsimp only
  split
  · rw [List.foldl_cons, List.foldl_cons, List.foldl_nil, event_choice, event_choice,
      deltaCharacters_messageDelta, deltaCharacters_choiceMessage]
    rfl
  · rename_i hobj
    have hnone : choiceCharacters "message" choice = 0 := by
      cases choice with
      | obj items => exact absurd rfl hobj
      | _ => rfl
    rw [hnone]
    rfl

theorem choices_count (h : StreamHeader) (choices : List Json) (n : Nat) (u : StreamUsage) :
    ((choices.zipIdx n).flatMap fun p => (choiceEvents h p.1 p.2).map fun e => (e, e.dumps)).foldl
        (fun u e => u.event e.1) u =
      { u with outputCharacters := u.outputCharacters +
        (choices.map (choiceCharacters "message")).sum } := by
  induction choices generalizing n u with
  | nil => rfl
  | cons choice choices ih =>
    rw [List.zipIdx_cons, List.flatMap_cons, List.foldl_append, List.foldl_map,
      choiceEvents_count, ih, List.map_cons, List.sum_cons, ← Nat.add_assoc]

theorem streamEvents_count {a : SynthesizeArgs} (h : StreamHeader)
    {usage : List (PyStr × Json)} {i o : Int}
    (husage : a.response.get? (py "usage") = some (.obj usage))
    (hi : usageCount (.obj usage) "prompt_tokens" "input_tokens" = some i)
    (ho : usageCount (.obj usage) "completion_tokens" "output_tokens" = some o) :
    (streamEvents a h).foldl (fun (u : StreamUsage) e => u.event e.1) .fresh =
      (⟨choicesCharacters "message" a.response, some i, some o, false⟩ : StreamUsage) := by
  have hchars : ((responseChoices a.response).map (choiceCharacters "message")).sum =
      choicesCharacters "message" a.response := by
    unfold responseChoices choicesCharacters
    cases a.response.get? (py "choices") with
    | none => rfl
    | some v => cases v <;> rfl
  rw [streamEvents, List.foldl_append, choices_count, husage, hchars]
  simp only [List.foldl_cons, List.foldl_nil]
  rw [event_usage h _ hi ho, StreamUsage.fresh, Nat.zero_add]

theorem usageFromResponse_counts {response : Json} {usage : List (PyStr × Json)} {i o : Int}
    (fallbackInput : Int)
    (husage : response.get? (py "usage") = some (.obj usage))
    (hi : usageCount (.obj usage) "prompt_tokens" "input_tokens" = some i)
    (ho : usageCount (.obj usage) "completion_tokens" "output_tokens" = some o) :
    usageFromResponse response fallbackInput = .ok (i, o, false) := by
  obtain ⟨hi, hi0⟩ := Option.filter_eq_some_iff.1 hi
  obtain ⟨ho, ho0⟩ := Option.filter_eq_some_iff.1 ho
  unfold usageFromResponse
  rw [husage]
  dsimp only
  rw [hi, ho]
  exact if_pos ⟨of_decide_eq_true hi0, of_decide_eq_true ho0⟩

/-! ## The stream carries the accounting -/

theorem mem_streamEvents {a : SynthesizeArgs} {h : StreamHeader} {e : Json × PyStr}
    (he : e ∈ streamEvents a h) :
    ∃ fields, e.1 = h.event fields ∧ (e.2 = e.1.dumps ∨ e.2 = e.1.dumpsAscii) := by
  rcases List.mem_append.1 he with he | he
  · obtain ⟨p, -, he⟩ := List.mem_flatMap.1 he
    obtain ⟨x, hx, rfl⟩ := List.mem_map.1 he
    unfold choiceEvents at hx
    dsimp only at hx
    split at hx
    · simp only [List.mem_cons, List.not_mem_nil, or_false] at hx
      rcases hx with rfl | rfl <;> exact ⟨_, rfl, .inl rfl⟩
    · cases hx
  · split at he
    · obtain rfl := List.mem_singleton.1 he
      exact ⟨_, rfl, .inr rfl⟩
    · cases he

theorem frames_carry {loads : Bytes → Except LoadsExc Json} {es : List (Json × PyStr)}
    (hclean : ∀ e ∈ es, Clean e.2)
    (hes : ∀ e ∈ es, ∀ d, utf8? e.2 = some d → HoldsEvent loads e (frame d)) :
    ∃ bs, es.mapM (fun e => (utf8? e.2).map frame) = some bs ∧
      List.Forall₂ (HoldsEvent loads) es bs := by
  induction es with
  | nil => exact ⟨[], rfl, .nil⟩
  | cons e es ih =>
    obtain ⟨bs, hbs, hall⟩ := ih (fun x hx => hclean x (List.mem_cons_of_mem _ hx))
      fun x hx => hes x (List.mem_cons_of_mem _ hx)
    obtain ⟨d, hd⟩ := Option.isSome_iff_exists.1 ((utf8?_isSome _).2 (hclean e List.mem_cons_self))
    refine ⟨frame d :: bs, ?_, .cons (hes e List.mem_cons_self d hd) hall⟩
    rw [List.mapM_cons, hd, hbs]
    rfl

section Carried

variable (text : Json → PyStr) (int? : Json → Option Int) (loads : Bytes → Except LoadsExc Json)

/-- The stream is there, and its accounting is that of the completion. -/
def Carried (a : SynthesizeArgs) (maxBytes : Nat) (model : String)
    (fallbackInput i o : Int) : Prop :=
  ∃ out u settlement, synthesizeSse text int? a = some out ∧
    track loads maxBytes [out.flatten] = .ok u ∧
    u.done ∧ u.promptTokens = some i ∧ u.completionTokens = some o ∧
    usageFromResponse a.response fallbackInput = .ok (i, o, false) ∧
    u.settlementResponse model fallbackInput = .ok (settlement, false) ∧
    u.outputCharacters = choicesCharacters "message" a.response

/-- What the source takes from `json`: the text of an event has no newline, and reads back as the
event. -/
def ReadsBack (a : SynthesizeArgs) : Prop :=
  ∀ created, createdOf int? a = some created → ∀ e ∈ streamEvents a (streamHeader text a created),
    10 ∉ e.2 ∧ ∀ d, utf8? e.2 = some d → loads d = .ok e.1

/-- `created` is nothing, or a number for Python. -/
def Dated (response : Json) : Prop :=
  ∀ v, (response.get? (py "created")).filter Json.truthy = some v → (int? v).isSome

variable {text int? loads} {a : SynthesizeArgs}

theorem dated_iff : Dated int? a.response ↔ ∃ created, createdOf int? a = some created := by
  unfold Dated createdOf
  cases (a.response.get? (py "created")).filter Json.truthy with
  | none => exact ⟨fun _ => ⟨a.now, rfl⟩, fun _ => nofun⟩
  | some v =>
    simp only [Option.some.injEq, forall_eq']
    exact Option.isSome_iff_exists

theorem carries_event {created : Int} (hcreated : createdOf int? a = some created)
    (hjson : ReadsBack text int? loads a) :
    ∀ e ∈ streamEvents a (streamHeader text a created), ∀ d, utf8? e.2 = some d →
      HoldsEvent loads e (frame d) := by
  intro e he d hd
  obtain ⟨hnl, hloads⟩ := hjson created hcreated e he
  obtain ⟨fields, hfields, htext⟩ := mem_streamEvents he
  have hbraced : Braced d := by
    rcases htext with htext | htext
    · rw [htext, hfields] at hd
      exact braced_dumps hd
    · rw [htext, hfields] at hd
      exact braced_dumpsAscii hd
  exact ⟨⟨d, rfl, fun hmem => hnl (newline_mem_utf8 hd hmem), hbraced,
    hloads d hd⟩, by rw [hfields]; rfl⟩

theorem newline_mem_frame (d : Bytes) : newline ∈ frame d :=
  List.mem_append_right _ (by decide)

theorem synthesized (htext : ∀ v : Json, Clean v.dumps → Clean (text v))
    (hresponse : Clean a.response.dumps)
    (hid : Clean a.requestId) (hmodel : Clean a.model)
    (hjson : ReadsBack text int? loads a) {created : Int}
    (hcreated : createdOf int? a = some created) : ∃ bs,
      synthesizeSse text int? a = some (bs ++ [frame (ascii "[DONE]")]) ∧
      List.Forall₂ (HoldsEvent loads) (streamEvents a (streamHeader text a created)) bs := by
  obtain ⟨hhid, hhmodel⟩ := clean_header htext hresponse hid hmodel created
  obtain ⟨bs, hbs, hall⟩ := frames_carry (clean_streamEvents hresponse hhid hhmodel)
    (carries_event hcreated hjson)
  refine ⟨bs, ?_, hall⟩
  rw [synthesizeSse, hcreated]
  exact congrArg (fun x => x.bind fun frames => some (frames ++ [frame (ascii "[DONE]")])) hbs

theorem stream_carries {maxBytes : Nat} (model : String) (fallbackInput : Int)
    {usage : List (PyStr × Json)} {i o : Int}
    (htext : ∀ v : Json, (utf8? v.dumps).isSome → (utf8? (text v)).isSome)
    (hresponse : (utf8? a.response.dumps).isSome) (hid : (utf8? a.requestId).isSome)
    (hmodel : (utf8? a.model).isSome)
    (husage : a.response.get? (py "usage") = some (.obj usage))
    (hi : usageCount (.obj usage) "prompt_tokens" "input_tokens" = some i)
    (ho : usageCount (.obj usage) "completion_tokens" "output_tokens" = some o)
    (hjson : ReadsBack text int? loads a)
    (hsize : ∀ out, synthesizeSse text int? a = some out → out.flatten.length ≤ maxBytes) :
    Carried text int? loads a maxBytes model fallbackInput i o ↔ Dated int? a.response := by
  simp only [utf8?_isSome] at htext hresponse hid hmodel
  rw [dated_iff]
  constructor
  · rintro ⟨out, -, -, hout, -⟩
    cases hcreated : createdOf int? a with
    | some created => exact ⟨created, rfl⟩
    | none =>
      rw [synthesizeSse, hcreated] at hout
      cases hout
  · rintro ⟨created, hcreated⟩
    obtain ⟨bs, hout, hall⟩ := synthesized htext hresponse hid hmodel hjson hcreated
    have hflat : (bs ++ [frame (ascii "[DONE]")]).flatten = bs.flatten ++ frame
        (ascii "[DONE]") := by simp
    have hstream := parseStream_frames hall .fresh
    rw [streamEvents_count _ husage hi ho, ← hflat] at hstream
    have hnl : newline ∈ (bs ++ [frame (ascii "[DONE]")]).flatten := by
      rw [hflat]
      exact List.mem_append_right _ (newline_mem_frame _)
    have htrack : track loads maxBytes [(bs ++ [frame (ascii "[DONE]")]).flatten] =
        .ok ⟨choicesCharacters "message" a.response, some i, some o, true⟩ := by
      rw [track_ok, List.flatten_singleton]
      exact ⟨fits_whole hnl (hsize _ hout), hstream⟩
    exact ⟨_, _, settlementResponse model i o, hout, htrack, rfl, rfl, rfl,
      usageFromResponse_counts _ husage hi ho, rfl, rfl⟩

end Carried

/-- `int`, for what is no text. -/
def intOf? : Json → Option Int
  | .int n => some n
  | .bool b => some (if b then 1 else 0)
  | _ => none

def oneEach : Json := .obj [(py "prompt_tokens", .int 1), (py "completion_tokens", .int 1)]

def greeting : SynthesizeArgs where
  response := .obj [(py "created", .int 7), (py "usage", oneEach),
    (py "choices", .arr [.obj [(py "message", .obj [(py "content", .str (py "hi"))])]])]
  requestId := py "r-1"
  model := py "kunlun"
  now := 0

def greetingEvents : List (Json × PyStr) :=
  streamEvents greeting (streamHeader (fun _ => []) greeting 7)

/-- A text that is one of the events is read as it. -/
def loadsOf (es : List (Json × PyStr)) (d : Bytes) : Except LoadsExc Json :=
  match es.find? fun e => utf8? e.2 = some d with
  | some e => .ok e.1
  | none => .error .jsonDecodeError

theorem loadsOf_text {es : List (Json × PyStr)} (h : (es.map fun e => utf8? e.2).Nodup)
    {e : Json × PyStr} (he : e ∈ es)
    {d : Bytes} (hd : utf8? e.2 = some d) : loadsOf es d = .ok e.1 := by
  have hsome : (es.find? fun e => utf8? e.2 = some d).isSome :=
    List.find?_isSome.2 ⟨e, he, by simpa using hd⟩
  obtain ⟨x, hx⟩ := Option.isSome_iff_exists.1 hsome
  have heq : x = e := List.inj_on_of_nodup_map h (List.mem_of_find?_eq_some hx) he
    ((by simpa using List.find?_some hx : utf8? x.2 = some d).trans hd.symm)
  rw [loadsOf, hx, heq]

theorem stream_carries_greeting :
    Carried (fun _ => []) intOf? (loadsOf greetingEvents) greeting 4096 "kunlun" 1 1 1 ↔
    Dated intOf? greeting.response := by
  refine stream_carries "kunlun" 1 (fun _ _ => rfl) (by decide +kernel) (by decide +kernel)
    (by decide +kernel) rfl rfl
    rfl ?_ ?_
  · intro created hcreated e he
    obtain rfl := Option.some.inj hcreated
    have hnl : ∀ t ∈ greetingEvents.map Prod.snd, 10 ∉ t := by decide +kernel
    have hdistinct : (greetingEvents.map fun e => utf8? e.2).Nodup := by decide +kernel
    exact ⟨hnl _ (List.mem_map_of_mem he), fun d hd => loadsOf_text hdistinct he hd⟩
  · intro out hout
    have hall : (synthesizeSse (fun _ => []) intOf? greeting).all
        (fun out => out.flatten.length ≤ 4096) := by
      decide +kernel
    rw [hout] at hall
    exact of_decide_eq_true hall

def undated : SynthesizeArgs where
  response := .obj [(py "created", .str (py "soon")), (py "usage", oneEach)]
  requestId := py "r-1"
  model := py "kunlun"
  now := 0

/-- `int("soon")` raises in the generator, where the buffered completion is returned as it is. -/
theorem undated_not_carried :
    ¬ ∀ (text : Json → PyStr) (int? : Json → Option Int) (loads : Bytes → Except LoadsExc Json)
    (a : SynthesizeArgs) (maxBytes : Nat) (model : String) (fallbackInput i o : Int)
    (usage : List (PyStr × Json)), (∀ v : Json, (utf8? v.dumps).isSome → (utf8? (text v)).isSome) →
    (utf8? a.response.dumps).isSome →
    (utf8? a.requestId).isSome → (utf8? a.model).isSome → a.response.get? (py "usage") =
      some (.obj usage) →
    usageCount (.obj usage) "prompt_tokens" "input_tokens" = some i →
    usageCount (.obj usage) "completion_tokens" "output_tokens" = some o →
    ReadsBack text int? loads a →
    (∀ out, synthesizeSse text int? a = some out → out.flatten.length ≤ maxBytes) →
    Carried text int? loads a maxBytes model fallbackInput i o := by
  intro h
  obtain ⟨out, -, -, hout, -⟩ := h (fun _ => []) intOf? (fun _ => .error .jsonDecodeError) undated
    4096 "kunlun" 1 1 1 _
    (fun _ _ => rfl) (by decide +kernel) (by decide +kernel) (by decide +kernel) rfl rfl rfl
      (fun _ hcreated => nomatch hcreated)
    fun _ hout => nomatch hout
  cases hout

end Kunlun
