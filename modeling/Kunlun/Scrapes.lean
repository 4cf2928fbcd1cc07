import Kunlun.Lib.Except
import Kunlun.Metrics

/-!
# What a scrape says (`observability.py`)

A reader of the text gets the series of every line back, and its sum if six digits are enough
for it.
-/

namespace Kunlun.Metrics

/-! ## The counters of a run -/

/-- Python's classes on ASCII. -/
structure Library.Standard (L : Library) : Prop where
  alnum : ∀ c < 128, L.isAlnum c → 48 ≤ c ∧ c ≤ 57 ∨ 65 ≤ c ∧ c ≤ 90 ∨ 97 ≤ c ∧ c ≤ 122
  newline : L.isSpace 10

section Upsert

variable {α : Type} {m : List (Series × α)} {k : Series} {default : α} {f : α → α}

theorem keys_upsert_of_mem (h : k ∈ m.map Prod.fst) :
    (upsert m k default f).map Prod.fst = m.map Prod.fst := by
  rw [upsert, if_pos h, List.map_map]
  refine List.map_congr_left fun p _ => ?_
  rw [Function.comp_apply]
  split_ifs with hp
  · exact hp.symm
  · rfl

theorem mem_keys_upsert {s : Series} : s ∈ (upsert m k default f).map Prod.fst ↔
    s ∈ m.map Prod.fst ∨ s = k := by
  by_cases h : k ∈ m.map Prod.fst
  · rw [keys_upsert_of_mem h]
    exact ⟨.inl, fun hs => hs.elim id fun heq => heq ▸ h⟩
  · rw [upsert, if_neg h, List.map_append, List.mem_append, List.map_singleton, List.mem_singleton]

theorem nodup_upsert (h : (m.map Prod.fst).Nodup) :
    ((upsert m k default f).map Prod.fst).Nodup := by
  by_cases hk : k ∈ m.map Prod.fst
  · rw [keys_upsert_of_mem hk]
    exact h
  · rw [upsert, if_neg hk, List.map_append, List.map_singleton]
    exact List.Nodup.append h (List.nodup_singleton _) (List.disjoint_singleton.2 hk)

theorem mem_upsert {p : Series × α} (h : p ∈ upsert m k default f) :
    (p.1 = k ∧ ((∃ v, (k, v) ∈ m ∧ p.2 = f v) ∨ k ∉ m.map Prod.fst ∧ p.2 = f default)) ∨ p.1 ≠ k ∧
    p ∈ m := by
  unfold upsert at h
  split_ifs at h with hk
  · obtain ⟨q, hq, rfl⟩ := List.mem_map.1 h
    split_ifs with heq
    · exact .inl ⟨rfl, .inl ⟨q.2, heq ▸ hq, rfl⟩⟩
    · exact .inr ⟨heq, hq⟩
  · rcases List.mem_append.1 h with hp | hp
    · by_cases heq : p.1 = k
      · exact absurd (List.mem_map.2 ⟨p, hp, heq⟩) hk
      · exact .inr ⟨heq, hp⟩
    · rw [List.mem_singleton.1 hp]
      exact .inl ⟨rfl, .inr ⟨hk, rfl⟩⟩

end Upsert

section Runs

variable {L : Library} {calls : List IncCall} {c : IncCall} {s : Series}

theorem total_append : total L (calls ++ [c]) s = total L calls s + if c.series? L =
    some s then c.value else 0 := by
  rw [total, total, List.filter_append, List.map_append, List.sum_append]
  congr 1
  split_ifs with h
  · simp [h]
  · simp [h]

theorem mem_counted : s ∈ counted L calls ↔ ∃ c ∈ calls, c.series? L = some s := by
  rw [counted, List.mem_dedup, List.mem_filterMap]

theorem total_eq_zero (h : s ∉ counted L calls) : total L calls s = 0 := by
  have hnone : calls.filter (fun c => decide (c.series? L = some s)) = [] := by
    rw [List.filter_eq_nil_iff]
    intro c hc hs
    exact h (mem_counted.2 ⟨c, hc, of_decide_eq_true hs⟩)
  rw [total, hnone]
  rfl

theorem apply_cases (r : Registry) (c : IncCall) : (c.series? L = none ∧ apply L r c = r) ∨
    ∃ s, c.series? L = some s ∧ (apply L r c).observations = r.observations ∧
      (apply L r c).counters = upsert r.counters s 0 fun v =>
        Binary64.round (v + Binary64.round c.value) := by
  have hvalue : ¬ ((c.value : ℚ) < 0) := not_lt.2 (Nat.cast_nonneg _)
  unfold apply inc IncCall.series?
  rw [if_neg hvalue]
  cases seriesOf L c.name c.labels with
  | error e => exact .inl ⟨rfl, rfl⟩
  | ok s => exact .inr ⟨s, rfl, rfl, rfl⟩

/-- The counters are the totals, one for each series counted. -/
structure Counts (L : Library) (calls : List IncCall) (r : Registry) : Prop where
  nodup : (r.counters.map Prod.fst).Nodup
  keys : ∀ s, s ∈ r.counters.map Prod.fst ↔ s ∈ counted L calls
  value : ∀ p ∈ r.counters, p.2 = total L calls p.1
  observations : r.observations = []

theorem counts_run (hsmall : ∀ s, total L calls s < 2 ^ 53) : Counts L calls (run L calls) := by
  induction calls using List.reverseRecOn with
  | nil =>
    exact ⟨List.nodup_nil, fun s => iff_of_false List.not_mem_nil List.not_mem_nil, nofun, rfl⟩
  | append_singleton calls c ih =>
    have hle (s : Series) : total L calls s ≤ total L (calls ++ [c]) s := by
      rw [total_append]
      exact Nat.le_add_right _ _
    have ih := ih fun s => lt_of_le_of_lt (hle s) (hsmall s)
    have hcounted (s : Series) : s ∈ counted L (calls ++ [c]) ↔ s ∈ counted L calls ∨
        c.series? L = some s := by
      simp only [mem_counted, List.mem_append, List.mem_singleton, or_and_right,
        exists_or, exists_eq_left]
    rw [run, List.foldl_append, ← run]
    show Counts L (calls ++ [c]) (apply L (run L calls) c)
    rcases apply_cases (L := L) (run L calls) c with ⟨hnone, heq⟩ | ⟨s, hs, hobservations, heq⟩
    · rw [heq]
      refine ⟨ih.nodup, fun s => ?_, fun p hp => ?_, ih.observations⟩
      · rw [ih.keys, hcounted, hnone]
        exact ⟨.inl, fun h => h.elim id nofun⟩
      · rw [ih.value p hp, total_append, hnone, if_neg nofun, Nat.add_zero]
    · refine ⟨?_, fun s' => ?_, fun p hp => ?_, hobservations.trans ih.observations⟩
      · rw [heq]
        exact nodup_upsert ih.nodup
      · rw [heq, mem_keys_upsert, ih.keys, hcounted, hs, Option.some.injEq, eq_comm]
      · -- both terms and the sum are integers of 53 bits
        have hround (n : Nat) (hn : n = total L calls s) :
            Binary64.round (n + Binary64.round c.value) = total L (calls ++ [c]) s := by
          have htotal : total L (calls ++ [c]) s = n +
              c.value := by rw [total_append, if_pos hs, hn]
          have hlt := hsmall s
          rw [htotal] at hlt
          have hcast : (n : ℚ) + c.value = ((n + c.value : Nat) : ℚ) := by push_cast; rfl
          rw [Binary64.round_natCast (by omega), hcast, Binary64.round_natCast hlt, htotal]
        rw [heq] at hp
        rcases mem_upsert hp with ⟨hkey, ⟨v, hv, hvalue⟩ | ⟨hnew, hvalue⟩⟩ | ⟨hother, hold⟩
        · have hold : v = total L calls s := ih.value _ hv
          rw [hvalue, hkey, hold]
          exact hround _ rfl
        · have hzero := total_eq_zero (mt (ih.keys s).2 hnew)
          rw [hvalue, hkey]
          exact_mod_cast hround 0 hzero.symm
        · have hne : ¬ c.series? L = some p.1 := by
            rw [hs]
            exact fun h => hother (Option.some.inj h).symm
          rw [ih.value p hold, total_append, if_neg hne, Nat.add_zero]

theorem perm_counters {r : Registry} (h : Counts L calls r) :
    (r.counters).Perm ((counted L calls).map fun s => (s, (total L calls s : ℚ))) := by
  have hcounters : r.counters = (r.counters.map Prod.fst).map fun s =>
      (s, (total L calls s : ℚ)) := by
    rw [List.map_map]
    conv_lhs => rw [← List.map_id r.counters]
    exact List.map_congr_left fun p hp => Prod.ext rfl (h.value p hp)
  rw [hcounters]
  exact ((List.perm_ext_iff_of_nodup h.nodup (List.nodup_dedup _)).2 h.keys).map _

end Runs

/-! ## A reader of the text -/

/-- A value up to the quote that ends it. -/
def readValue : PyStr → Option (PyStr × PyStr)
  | [] => none
  | c :: rest =>
    if c = 34 then some ([], rest)
    else if c = 10 then none
    else if c = 92 then
      match rest with
      | 92 :: rest => (readValue rest).map fun p => (92 :: p.1, p.2)
      | 34 :: rest => (readValue rest).map fun p => (34 :: p.1, p.2)
      | 110 :: rest => (readValue rest).map fun p => (10 :: p.1, p.2)
      | _ => none
    else (readValue rest).map fun p => (c :: p.1, p.2)

/-- `key="value"` -/
def readPair (s : PyStr) : Option ((PyStr × PyStr) × PyStr) :=
  match s.dropWhile (· ≠ 61) with
  | 61 :: 34 :: rest => (readValue rest).map fun p => ((s.takeWhile (· ≠ 61), p.1), p.2)
  | _ => none

/-- Pairs up to the brace that ends them. -/
def readPairs : Nat → PyStr → Option (List (PyStr × PyStr) × PyStr)
  | 0, _ => none
  | fuel + 1, s => do
    let (pair, rest) ← readPair s
    match rest with
    | 44 :: rest => (readPairs fuel rest).map fun p => (pair :: p.1, p.2)
    | 125 :: rest => some ([pair], rest)
    | _ => none

/-- The series of a line, and the text behind it. -/
def readSeries (line : PyStr) : Option (Series × PyStr) :=
  let name := line.takeWhile fun c => c ≠ 123 ∧ c ≠ 32
  match line.dropWhile fun c => c ≠ 123 ∧ c ≠ 32 with
  | 123 :: rest =>
    match readPairs rest.length rest with
    | some (labels, 32 :: number) => some (⟨name, labels⟩, number)
    | _ => none
  | 32 :: number => some (⟨name, []⟩, number)
  | _ => none

def readLine (line : PyStr) : Option (Series × ℚ) := do
  let (s, number) ← readSeries line
  let value ← Decimal.read? number
  return (s, value)

def readScrape (text : PyStr) : Option (List (Series × ℚ)) :=
  (text.splitOn 10).dropLast.mapM readLine

/-! ## The reader undoes the printer -/

theorem escape_cons (c : Nat) (s : PyStr) : escape (c :: s) =
    (if c = 92 then [92, 92] else if c = 34 then [92, 34] else if c = 10 then [32]
      else [c]) ++ escape s := by
  unfold escape replace
  rw [List.flatMap_cons, List.flatMap_append, List.flatMap_append]
  congr 1
  split_ifs with h1 h2 h3
  · rfl
  · rw [h2]
    rfl
  · rw [h3]
    rfl
  · simp [h2, h3]

theorem readValue_escape {value : PyStr} (h : 10 ∉ value) (rest : PyStr) :
    readValue (escape value ++ 34 :: rest) = some (value, rest) := by
  induction value with
  | nil =>
    show readValue (34 :: rest) = _
    rw [readValue.eq_def]
    rfl
  | cons c value ih =>
    have hc : c ≠ 10 := fun heq => h (heq ▸ List.mem_cons_self)
    have ih := ih fun hmem => h (List.mem_cons_of_mem _ hmem)
    rw [escape_cons, List.append_assoc]
    split_ifs with h1 h2
    · rw [h1]
      show (readValue (escape value ++ 34 :: rest)).map _ = _
      rw [ih]
      rfl
    · rw [h2]
      show (readValue (escape value ++ 34 :: rest)).map _ = _
      rw [ih]
      rfl
    · show readValue (c :: (escape value ++ 34 :: rest)) = _
      rw [readValue.eq_def]
      dsimp only
      rw [if_neg h2, if_neg hc, if_neg h1, ih]
      rfl

/-- What may stand in a key. -/
def KeyText (key : PyStr) : Prop := ∀ c ∈ key, c ≠ 61

theorem readPair_formatLabel {label : PyStr × PyStr} (hkey : KeyText label.1)
    (hvalue : 10 ∉ label.2) (rest : PyStr) :
    readPair (formatLabel label ++ rest) = some (label, rest) := by
  have hmark : py "=\"" = [61, 34] := by decide
  have hquote : py "\"" = [34] := by decide
  have htext : formatLabel label ++ rest = label.1 ++ 61 :: 34 ::
      (escape label.2 ++ 34 :: rest) := by
    rw [formatLabel, hmark, hquote]
    simp
  have hall : ∀ c ∈ label.1, decide (c ≠ 61) = true := fun c hc => decide_eq_true (hkey c hc)
  rw [htext, readPair, List.dropWhile_append_of_pos hall, List.takeWhile_append_of_pos hall]
  simp [readValue_escape hvalue]

theorem readPairs_join {labels : List (PyStr × PyStr)} (hne : labels ≠ [])
    (hkeys : ∀ p ∈ labels, KeyText p.1)
    (hvalues : ∀ p ∈ labels, 10 ∉ p.2) (rest : PyStr) {fuel : Nat} (hfuel : labels.length ≤ fuel) :
    readPairs fuel ((py ",").intercalate (labels.map formatLabel) ++ 125 :: rest) =
      some (labels, rest) := by
  have hcomma : py "," = [44] := by decide
  induction labels generalizing fuel with
  | nil => exact absurd rfl hne
  | cons p labels ih =>
    obtain ⟨fuel, rfl⟩ : ∃ n, fuel = n + 1 := Nat.exists_eq_succ_of_ne_zero (by
      rw [List.length_cons] at hfuel
      omega)
    have hread := readPair_formatLabel (hkeys p List.mem_cons_self) (hvalues p List.mem_cons_self)
    cases labels with
    | nil =>
      simp only [List.map_cons, List.map_nil, List.intercalate_singleton, readPairs, hread]
      rfl
    | cons q labels =>
      have ih := ih (List.cons_ne_nil _ _) (fun x hx => hkeys x (List.mem_cons_of_mem _ hx))
        (fun x hx => hvalues x (List.mem_cons_of_mem _ hx)) (Nat.le_of_succ_le_succ hfuel)
      have htext : (py ",").intercalate ((p :: q :: labels).map formatLabel) ++ 125 :: rest =
          formatLabel p ++ 44 :: ((py ",").intercalate
            ((q :: labels).map formatLabel) ++ 125 :: rest) := by
        rw [List.map_cons, List.map_cons, List.intercalate_cons_cons, hcomma]
        simp
      rw [htext, readPairs, hread]
      show (readPairs fuel _).map _ = _
      rw [ih]
      rfl

theorem length_le_join (labels : List (PyStr × PyStr)) :
    labels.length ≤ ((py ",").intercalate (labels.map formatLabel)).length := by
  have hlabel (p : PyStr × PyStr) : 1 ≤ (formatLabel p).length := by
    have hquote : (py "\"").length = 1 := by decide
    rw [formatLabel, List.length_append, hquote]
    exact Nat.le_add_left 1 _
  induction labels with
  | nil => exact le_rfl
  | cons p labels ih =>
    have hp := hlabel p
    cases labels with
    | nil =>
      rw [List.map_singleton, List.intercalate_singleton]
      exact hp
    | cons q labels =>
      rw [List.map_cons] at ih
      rw [List.map_cons, List.map_cons, List.intercalate_cons_cons, List.length_append,
        List.length_append, List.length_cons]
      omega

/-! ## Series that a call can count -/

structure Series.Valid (L : Library) (s : Series) : Prop where
  name : ∀ c ∈ s.name, isNameChar L c
  keys : ∀ p ∈ s.labels, ∀ c ∈ p.1, isNameChar L c
  values : ∀ p ∈ s.labels, 10 ∉ p.2

section Valid

variable {L : Library}

theorem nameOf_ok {limit : Nat} {message : String} {s text : PyStr}
    (h : nameOf L limit message s = .ok text) :
    ∀ c ∈ text, isNameChar L c := by
  unfold nameOf at h
  dsimp only at h
  split_ifs at h with hbad
  rw [← Except.ok.inj h]
  rw [not_or, not_or, not_not, List.all_eq_true] at hbad
  exact hbad.2.2

theorem forall_mem_splitOnP {p : Nat → Bool} {s : PyStr} :
    ∀ part ∈ s.splitOnP p, ∀ c ∈ part, ¬ p c := by
  induction s with
  | nil => simp
  | cons x s ih =>
    intro part hpart
    rw [List.splitOnP_cons_eq_if_modifyHead] at hpart
    split_ifs at hpart with hx
    · rcases List.mem_cons.1 hpart with rfl | hpart
      · exact nofun
      · exact ih part hpart
    · cases hparts : s.splitOnP p with
      | nil =>
        rw [hparts] at hpart
        cases hpart
      | cons first parts =>
        rw [hparts, List.modifyHead_cons] at hpart
        rw [hparts] at ih
        rcases List.mem_cons.1 hpart with rfl | hpart
        · intro c hc
          rcases List.mem_cons.1 hc with rfl | hc
          · exact hx
          · exact ih first List.mem_cons_self c hc
        · exact ih part (List.mem_cons_of_mem _ hpart)

theorem forall_mem_intercalate {P : Nat → Prop} {sep : PyStr} {parts : List PyStr}
    (hsep : ∀ c ∈ sep, P c)
    (hparts : ∀ part ∈ parts, ∀ c ∈ part, P c) : ∀ c ∈ sep.intercalate parts, P c := by
  induction parts with
  | nil => exact nofun
  | cons part parts ih =>
    have hpart := hparts part List.mem_cons_self
    cases parts with
    | nil =>
      rw [List.intercalate_singleton]
      exact hpart
    | cons next parts =>
      rw [List.intercalate_cons_cons]
      have ih := ih fun x hx => hparts x (List.mem_cons_of_mem _ hx)
      exact List.forall_mem_append.2 ⟨List.forall_mem_append.2 ⟨hpart, hsep⟩, ih⟩

theorem safeMetricLabel_no_newline (hlib : L.Standard) (value : Option PyStr) :
    10 ∉ safeMetricLabel L value := by
  have hwords : ∀ word ∈ split L (value.getD []), ∀ c ∈ word, c ≠ 10 := by
    intro word hword c hc heq
    have hpart := forall_mem_splitOnP word (List.mem_of_mem_filter hword) c hc
    rw [heq] at hpart
    exact hpart hlib.newline
  intro hmem
  exact forall_mem_intercalate (P := (· ≠ 10)) (by decide) hwords 10 (List.mem_of_mem_take hmem) rfl

theorem valid_seriesOf (hlib : L.Standard) {name : PyStr} {labels : Labels} {s : Series}
    (h : seriesOf L name labels = .ok s) : s.Valid L := by
  obtain ⟨text, htext, h⟩ := except_bind_ok.1 h
  obtain ⟨pairs, hpairs, h⟩ := except_bind_ok.1 h
  rw [← Except.ok.inj h]
  unfold labelsOf at hpairs
  split_ifs at hpairs
  have hlabel : ∀ p ∈ pairs, (∀ c ∈ p.1, isNameChar L c) ∧ 10 ∉ p.2 := by
    intro p hp
    obtain ⟨x, -, hx⟩ := mapM_ok_right hpairs p hp
    obtain ⟨label, hlabel, hx⟩ := except_bind_ok.1 hx
    rw [← Except.ok.inj hx]
    exact ⟨nameOf_ok hlabel, safeMetricLabel_no_newline hlib _⟩
  exact ⟨nameOf_ok htext, fun p hp => (hlabel p hp).1, fun p hp => (hlabel p hp).2⟩

theorem valid_counted (hlib : L.Standard) {calls : List IncCall} {s : Series}
    (h : s ∈ counted L calls) : s.Valid L := by
  obtain ⟨c, -, hc⟩ := mem_counted.1 h
  unfold IncCall.series? at hc
  cases hseries : seriesOf L c.name c.labels with
  | error e =>
    rw [hseries] at hc
    cases hc
  | ok s' =>
    rw [hseries] at hc
    exact Option.some.inj hc ▸ valid_seriesOf hlib hseries

theorem nameChar_ne (hlib : L.Standard) {c : Nat} (h : isNameChar L c) : c ≠ 10 ∧
    c ≠ 32 ∧ c ≠ 61 ∧ c ≠ 123 := by
  simp only [isNameChar, Bool.or_eq_true, decide_eq_true_eq] at h
  rcases h with h | h
  · by_cases hc : c < 128
    · have halnum := hlib.alnum c hc h
      omega
    · omega
  · omega

theorem readSeries_line (hlib : L.Standard) {s : Series} (h : s.Valid L) (number : PyStr) :
    readSeries (s.name ++ formatLabels s.labels ++ py " " ++ number) = some (s, number) := by
  have hspace : py " " = [32] := by decide
  have hopen : py "\x7b" = [123] := by decide
  have hclose : py "\x7d" = [125] := by decide
  have hname : ∀ c ∈ s.name, decide (c ≠ 123 ∧ c ≠ 32) = true := fun c hc =>
    decide_eq_true ⟨(nameChar_ne hlib (h.name c hc)).2.2.2, (nameChar_ne hlib (h.name c hc)).2.1⟩
  obtain ⟨name, labels⟩ := s
  by_cases hlabels : labels = []
  · have htext : name ++ formatLabels labels ++ py " " ++ number = name ++ 32 :: number := by
      rw [formatLabels, if_pos hlabels, hspace]
      simp
    rw [htext, readSeries, List.dropWhile_append_of_pos hname,
      List.takeWhile_append_of_pos hname, hlabels]
    simp
  · have htext : name ++ formatLabels labels ++ py " " ++ number =
        name ++ 123 :: ((py ",").intercalate (labels.map formatLabel) ++ 125 :: 32 :: number) := by
      rw [formatLabels, if_neg hlabels, hspace, hopen, hclose]
      simp
    rw [htext]
    have hread (fuel : Nat) (hfuel : labels.length ≤ fuel) := readPairs_join hlabels
      (fun p hp c hc => (nameChar_ne hlib (h.keys p hp c hc)).2.2.1) h.values (32 :: number) hfuel
    have hfuel : labels.length ≤
        ((py ",").intercalate (labels.map formatLabel) ++ 125 :: 32 :: number).length := by
      have hjoin := length_le_join labels
      rw [List.length_append]
      omega
    have hpairs := hread _ hfuel
    generalize (py ",").intercalate (labels.map formatLabel) ++ 125 :: 32 ::
      number = rest at hpairs ⊢
    rw [readSeries, List.dropWhile_append_of_pos hname, List.takeWhile_append_of_pos hname,
      List.dropWhile_cons_of_neg (by decide), List.takeWhile_cons_of_neg (by decide),
      List.append_nil]
    simp only [hpairs]

theorem counterLine_no_newline (hlib : L.Standard) {p : Series × ℚ}
    (h : p.1.Valid L) : 10 ∉ counterLine p := by
  have hescape (value : PyStr) : ∀ c ∈ escape value, c ≠ 10 := by
    induction value with
    | nil => exact nofun
    | cons c value ih =>
      rw [escape_cons]
      refine List.forall_mem_append.2 ⟨?_, ih⟩
      split_ifs with h1 h2 h3
      · decide
      · decide
      · decide
      · exact List.forall_mem_singleton.2 h3
  have hlabel : ∀ part ∈ p.1.labels.map formatLabel, ∀ c ∈ part, c ≠ 10 := by
    intro part hpart
    obtain ⟨q, hq, rfl⟩ := List.mem_map.1 hpart
    have hkey : ∀ c ∈ q.1, c ≠ 10 := fun c hc => (nameChar_ne hlib (h.keys q hq c hc)).1
    exact List.forall_mem_append.2
      ⟨List.forall_mem_append.2 ⟨List.forall_mem_append.2 ⟨hkey, by decide⟩, hescape _⟩, by decide⟩
  have hlabels : ∀ c ∈ formatLabels p.1.labels, c ≠ 10 := by
    unfold formatLabels
    split_ifs
    · exact nofun
    · exact List.forall_mem_append.2
        ⟨List.forall_mem_append.2 ⟨by decide, forall_mem_intercalate (by decide) hlabel⟩, by decide⟩
  have hname : ∀ c ∈ p.1.name, c ≠ 10 := fun c hc => (nameChar_ne hlib (h.name c hc)).1
  have hnumber : ∀ c ∈ Decimal.format p.2, c ≠ 10 := by
    intro c hc heq
    have hle := Decimal.le_of_mem_format p.2 c hc
    omega
  have hline : ∀ c ∈ counterLine p, c ≠ 10 :=
    List.forall_mem_append.2 ⟨List.forall_mem_append.2
      ⟨List.forall_mem_append.2 ⟨hname, hlabels⟩, by decide⟩, hnumber⟩
  exact fun hmem => hline 10 hmem rfl

theorem splitOn_lines {lines : List PyStr} (h : ∀ line ∈ lines, 10 ∉ line) :
    ((py "\n").intercalate lines ++ if lines = [] then [] else py "\n").splitOn 10 = lines ++
      [[]] := by
  have hend : py "\n" = [10] := by decide
  rw [hend]
  split_ifs with hnil
  · rw [hnil]
    rfl
  · have hjoin : [10].intercalate lines ++ [10] = [10].intercalate (lines ++ [[]]) := by
      clear h
      induction lines with
      | nil => exact absurd rfl hnil
      | cons line lines ih =>
        cases lines with
        | nil => simp [List.intercalate, List.intersperse]
        | cons next lines =>
          rw [List.cons_append, List.intercalate_cons_cons, List.cons_append,
            List.intercalate_cons_cons, ← List.cons_append, ← ih (List.cons_ne_nil _ _)]
          simp
    rw [hjoin]
    refine List.splitOn_intercalate 10 (fun line hline => ?_) (by simp)
    rcases List.mem_append.1 hline with hline | hline
    · exact h line hline
    · rw [List.mem_singleton.1 hline]
      exact List.not_mem_nil

end Valid

/-! ## The scrape of a run -/

theorem mapM_eq_self {α : Type} {f : α → Option α} {l : List α}
    (h : ∀ x ∈ l, f x = some x) : l.mapM f = some l := by
  induction l with
  | nil => rfl
  | cons x l ih =>
    rw [List.mapM_cons, h x List.mem_cons_self, ih fun y hy => h y (List.mem_cons_of_mem _ hy)]
    rfl

theorem mapM_congr_mem {α β : Type} {f g : α → Option β} {l : List α} (h : ∀ x ∈ l, f x = g x) :
    l.mapM f = l.mapM g := by
  induction l with
  | nil => rfl
  | cons x l ih =>
    rw [List.mapM_cons, List.mapM_cons, h x List.mem_cons_self, ih fun y hy =>
      h y (List.mem_cons_of_mem _ hy)]

theorem mapM_some_forall {α β : Type} {f : α → Option β} {l : List α} {l' : List β}
    (h : l.mapM f = some l') :
    ∀ x ∈ l, ∃ y ∈ l', f x = some y := by
  induction l generalizing l' with
  | nil => exact nofun
  | cons x l ih =>
    rw [List.mapM_cons] at h
    obtain ⟨y, hy, h⟩ := Option.bind_eq_some_iff.1 h
    obtain ⟨ys, hys, h⟩ := Option.bind_eq_some_iff.1 h
    rw [← Option.some.inj h]
    intro z hz
    rcases List.mem_cons.1 hz with rfl | hz
    · exact ⟨y, List.mem_cons_self, hy⟩
    · obtain ⟨w, hw, hfw⟩ := ih hys z hz
      exact ⟨w, List.mem_cons_of_mem _ hw, hfw⟩

section Scrape

variable {L : Library} {calls : List IncCall}

/-- Every series that was counted has its line, with its sum. -/
def Exact (L : Library) (calls : List IncCall) : Prop :=
  ∃ samples, readScrape (scrape L (run L calls)) = some samples ∧
    samples.Perm ((counted L calls).map fun s => (s, (total L calls s : ℚ)))

theorem readLine_counterLine (hlib : L.Standard) {p : Series × ℚ} (h : p.1.Valid L) :
    readLine (counterLine p) = (Decimal.read? (Decimal.format p.2)).map
      fun value => (p.1, value) := by
  unfold readLine counterLine
  rw [readSeries_line hlib h, Option.bind_eq_bind, Option.bind_some]
  dsimp only
  cases Decimal.read? (Decimal.format p.2) with
  | none => rfl
  | some value => rfl

theorem readScrape_run (hlib : L.Standard) (h : Counts L calls (run L calls)) :
    readScrape (scrape L (run L calls)) =
      (sortedItems (run L calls).counters).mapM fun p => (Decimal.read? (Decimal.format p.2)).map
        fun value => (p.1, value) := by
  have hvalid : ∀ p ∈ sortedItems (run L calls).counters, p.1.Valid L := by
    intro p hp
    have hmem : p ∈ (run L calls).counters := (List.mergeSort_perm _ _).mem_iff.1 hp
    exact valid_counted hlib ((h.keys p.1).1 (List.mem_map_of_mem hmem))
  have hlines : ∀ line ∈ (sortedItems (run L calls).counters).map counterLine, 10 ∉ line := by
    intro line hline
    obtain ⟨p, hp, rfl⟩ := List.mem_map.1 hline
    exact counterLine_no_newline hlib (hvalid p hp)
  have hnone : (sortedItems (run L calls).observations).flatMap (observationLines L) = [] := by
    rw [h.observations, sortedItems, List.mergeSort_nil]
    rfl
  unfold scrape readScrape
  dsimp only
  rw [hnone, List.append_nil, splitOn_lines hlines, List.dropLast_concat, List.mapM_map]
  refine mapM_congr_mem fun p hp => ?_
  exact readLine_counterLine hlib (hvalid p hp)

theorem perm_sortedItems (hsmall : ∀ s, total L calls s < 2 ^ 53) :
    (sortedItems (run L calls).counters).Perm
      ((counted L calls).map fun s => (s, (total L calls s : ℚ))) :=
  (List.mergeSort_perm _ _).trans (perm_counters (counts_run hsmall))

theorem short_of_exact (hlib : L.Standard) (hsmall : ∀ s, total L calls s < 2 ^ 53)
    (h : Exact L calls) {s : Series}
    (hs : s ∈ counted L calls) : Decimal.ShortNat (total L calls s) := by
  obtain ⟨samples, hread, hsamples⟩ := h
  rw [readScrape_run hlib (counts_run hsmall)] at hread
  have hmem : (s, (total L calls s : ℚ)) ∈ sortedItems (run L calls).counters :=
    (perm_sortedItems hsmall).mem_iff.2 (List.mem_map.2 ⟨s, hs, rfl⟩)
  obtain ⟨sample, hsample, hline⟩ := mapM_some_forall hread _ hmem
  obtain ⟨value, hvalue, rfl⟩ := Option.map_eq_some_iff.1 hline
  obtain ⟨s', -, heq⟩ := List.mem_map.1 (hsamples.mem_iff.1 hsample)
  obtain ⟨rfl, rfl⟩ := Prod.mk.inj heq
  exact (Decimal.read?_format_nat_iff (lt_trans (hsmall s') (by norm_num))).1 hvalue

/-- A scrape is exact if and only if every sum has at most six significant digits. -/
theorem scrape_exact_iff (hlib : L.Standard) (calls : List IncCall)
    (hsmall : ∀ s, total L calls s < 2 ^ 53) :
    Exact L calls ↔ ∀ s ∈ counted L calls, Decimal.ShortNat (total L calls s) := by
  refine ⟨fun h s hs => short_of_exact hlib hsmall h hs, fun h => ?_⟩
  have hperm := perm_sortedItems hsmall
  unfold Exact
  rw [readScrape_run hlib (counts_run hsmall)]
  refine ⟨_, mapM_eq_self fun p hp => ?_, hperm⟩
  obtain ⟨s, hs, rfl⟩ := List.mem_map.1 (hperm.mem_iff.1 hp)
  have hbound : total L calls s < 10 ^ 100 := lt_trans (hsmall s) (by norm_num)
  rw [(Decimal.read?_format_nat_iff hbound).2 (h s hs)]
  rfl

end Scrape

/-! ## One counter beyond a million -/

def asciiLibrary : Library where
  isAlnum := fun c => decide (48 ≤ c ∧ c ≤ 57 ∨ 65 ≤ c ∧ c ≤ 90 ∨ 97 ≤ c ∧ c ≤ 122)
  isSpace := fun c => decide (c = 32 ∨ 9 ≤ c ∧ c ≤ 13)
  sum := List.sum

theorem standard_ascii : asciiLibrary.Standard := ⟨fun _ _ h => of_decide_eq_true h, by decide⟩

def oneCall (value : Nat) : List IncCall := [⟨py "hits", value, []⟩]

def hits : Series := ⟨py "hits", []⟩

theorem series?_oneCall (value : Nat) :
    IncCall.series? asciiLibrary ⟨py "hits", value, []⟩ = some hits := by
  have hseries : seriesOf asciiLibrary (py "hits") [] = .ok hits := by decide +kernel
  rw [IncCall.series?, hseries]
  rfl

theorem total_oneCall (value : Nat) (s : Series) : total asciiLibrary (oneCall value) s = if hits =
    s then value else 0 := by
  rw [oneCall, ← List.nil_append [_], total_append]
  simp only [series?_oneCall, Option.some.injEq]
  exact Nat.zero_add _

theorem million_not_exact : ¬ ∀ (L : Library), L.Standard → ∀ calls : List IncCall,
    (∀ s, total L calls s < 2 ^ 53) → Exact L calls := by
  intro h
  have hsmall : ∀ s, total asciiLibrary (oneCall 1234567) s < 2 ^ 53 := by
    intro s
    rw [total_oneCall]
    split_ifs <;> decide
  have hcounted : hits ∈ counted asciiLibrary (oneCall 1234567) :=
    mem_counted.2 ⟨_, List.mem_singleton_self _, series?_oneCall _⟩
  have hshort := short_of_exact standard_ascii hsmall (h _ standard_ascii _ hsmall) hcounted
  rw [total_oneCall, if_pos rfl] at hshort
  exact absurd hshort (by decide +kernel)

/-- Two routes whose texts a scrape has to escape, each counted twice. -/
def routeCalls : List IncCall :=
  [⟨py "hits", 200, [(py "route", some (py "/a\"b"))]⟩,
    ⟨py "hits", 30000, [(py "route", some (py "/a\\b"))]⟩,
    ⟨py "hits", 50, [(py "route", some (py "/a\"b"))]⟩,
    ⟨py " hits ", 1200000, [(py "route", some (py "/a\\b\n"))]⟩]

theorem total_le {L : Library} (calls : List IncCall) (s : Series) :
    total L calls s ≤ (calls.map IncCall.value).sum :=
  (List.filter_sublist.map _).sum_le_sum fun _ _ => Nat.zero_le _

theorem scrape_exact_hits : (counted asciiLibrary routeCalls).map
    (total asciiLibrary routeCalls) = [250, 1230000] ∧
    Exact asciiLibrary routeCalls := by
  have hsmall : ∀ s, total asciiLibrary routeCalls s < 2 ^ 53 := fun s =>
    (total_le routeCalls s).trans_lt (by decide)
  exact ⟨by decide +kernel, (scrape_exact_iff standard_ascii routeCalls hsmall).2
    (by decide +kernel)⟩

end Kunlun.Metrics
