import Kunlun.Ingress
import Kunlun.Lib.Walks

/-!
# Private routes behind the filter (`vercel.py`)

The server decodes a path once and the router matches what comes out. The filter decodes it to
rest and resolves its dot segments, so that what it compares may be another path.
-/

namespace Kunlun.Paths

open LivePayments

/-! ## Plain text in front -/

/-- ASCII without a percent sign. -/
def Plain (s : PyStr) : Prop := ∀ c ∈ s, c < 128 ∧ c ≠ 37

section Decoding

variable {s t v : PyStr}

theorem unquoteToBytes_append (h : Plain s) (t : PyStr) :
    unquoteToBytes (s ++ t) = s ++ unquoteToBytes t := by
  induction s with
  | nil => rfl
  | cons c s ih =>
    have hc := (h c (.head _)).2
    have hs := ih fun d hd => h d (.tail _ hd)
    rw [List.cons_append, unquoteToBytes, hs]
    · rfl
    · rintro a b rest rfl
      exact absurd rfl hc

theorem utf8_append (h : Plain s) (t : PyStr) :
    Unicode.utf8 (s ++ t) = (Unicode.utf8 t).map (s ++ ·) := by
  induction s with
  | nil => simp
  | cons c s ih =>
    have hc := (h c (.head _)).1
    have hstep : Unicode.utf8 (c :: (s ++ t)) = (Unicode.utf8 (s ++ t)).map (c :: ·) := by
      rw [Unicode.utf8.eq_def]
      exact if_pos hc
    rw [List.cons_append, hstep, ih fun d hd => h d (.tail _ hd)]
    simp [Function.comp_def]

theorem decodeUtf8_append (h : Plain s) (t : PyStr) :
    decodeUtf8 (s ++ t) = (decodeUtf8 t).map (s ++ ·) := by
  have hall : (s.all fun c => !isSurrogate c) = true := by
    refine List.all_eq_true.2 fun c hc => ?_
    have := (h c hc).1
    simp [isSurrogate]
    omega
  unfold decodeUtf8
  rw [utf8_append h]
  cases Unicode.utf8 t with
  | none => rfl
  | some x =>
    simp only [Option.map_some, Option.filter, List.all_append, hall, Bool.true_and]
    split <;> rfl

theorem unquoteRuns_append (h : Plain s) (run t : PyStr) :
    unquoteRuns (s ++ run) t = (unquoteRuns run t).map (s ++ ·) := by
  induction t generalizing run with
  | nil => rw [unquoteRuns, unquoteRuns, unquoteToBytes_append h, decodeUtf8_append h]
  | cons c t ih =>
    unfold unquoteRuns
    split_ifs
    · rw [List.append_assoc]
      exact ih _
    · rw [unquoteToBytes_append h, decodeUtf8_append h]
      cases decodeUtf8 (unquoteToBytes run) with
      | none => rfl
      | some x => cases unquoteRuns [] t <;> simp [bind, pure]

theorem unquoteRuns_plain (h : Plain s) (run t : PyStr) :
    unquoteRuns run (s ++ t) = unquoteRuns (run ++ s) t := by
  induction s generalizing run with
  | nil => simp
  | cons c s ih =>
    rw [List.cons_append, unquoteRuns, if_pos (h c (.head _)).1, ih fun d hd => h d (.tail _ hd)]
    simp

theorem unquote_append (h : Plain s) (t : PyStr) : unquote (s ++ t) = (unquote t).map (s ++ ·) := by
  have hs : 37 ∉ s := fun hmem => (h 37 hmem).2 rfl
  by_cases ht : 37 ∈ t
  · rw [unquote, unquote, if_pos (List.mem_append_right s ht), if_pos ht,
      unquoteRuns_plain h, List.nil_append]
    simpa using unquoteRuns_append h [] t
  · rw [unquote, unquote, if_neg (by simp [hs, ht]), if_neg ht]
    rfl

theorem Plain.append (hs : Plain s) (ht : Plain t) : Plain (s ++ t) :=
  fun c hc => (List.mem_append.1 hc).elim (hs c) (ht c)

theorem plain_slash : Plain [47] := by
  simp [Plain]

theorem decodeStable_plain {n : Nat} (h : Plain s) (hv : decodeStable n s = some v) : v = s := by
  cases n with
  | zero => cases hv
  | succ n =>
    have hs : unquote s = some s := if_neg fun hmem => (h 37 hmem).2 rfl
    unfold decodeStable at hv
    rw [hs] at hv
    simpa using hv.symm

theorem decodeStable_append (h : Plain s) (n : Nat) (t : PyStr) :
    decodeStable n (s ++ t) = (decodeStable n t).map (s ++ ·) := by
  induction n generalizing t with
  | zero => rfl
  | succ n ih =>
    unfold decodeStable
    rw [unquote_append h]
    cases unquote t with
    | none => rfl
    | some x =>
      simp only [Option.map_some, Option.bind_eq_bind, Option.bind_some, List.append_cancel_left_eq]
      split_ifs
      · rfl
      · exact ih x

theorem decodeStable_of_unquote {n : Nat} (hv : decodeStable (n + 1) s = some v)
    (ht : unquote s = some t) :
    ∃ k, decodeStable k t = some v := by
  unfold decodeStable at hv
  rw [ht] at hv
  simp only [Option.bind_eq_bind, Option.bind_some] at hv
  split_ifs at hv with heq
  · subst heq
    obtain rfl := Option.some.inj hv
    refine ⟨1, ?_⟩
    unfold decodeStable
    rw [ht]
    simp
  · exact ⟨n, hv⟩

/-- What rests after some decodings rests after those of the server's text, which is `text` decoded
    once. -/
theorem decodeStable_routed {n : Nat} {text routed : PyStr}
    (hrouted : ∀ decoded, unquote text = some decoded → routed = decoded)
    (hv : decodeStable n text = some v) :
    ∃ k, decodeStable k routed = some v := by
  cases n with
  | zero => cases hv
  | succ n =>
    cases hunquote : unquote text with
    | none =>
      unfold decodeStable at hv
      rw [hunquote] at hv
      cases hv
    | some decoded =>
      rw [hrouted decoded hunquote]
      exact decodeStable_of_unquote hv hunquote

end Decoding

/-! ## Segments -/

/-- What a segment does in the loop. -/
def turnOf (segment : PyStr) : Walk.Turn :=
  if segment = [] ∨ segment = py "." then .stay else if segment = py ".." then .up else .down

theorem pushSegment_eq : pushSegment = Walk.step turnOf := by
  funext segments segment
  unfold pushSegment Walk.step turnOf
  split_ifs <;> rfl

def splitPath (value : PyStr) : List PyStr := (value.map replaceBackslash).splitOn 47

theorem segmentsOf_eq (value : PyStr) : segmentsOf value = Walk.walk turnOf
    [] (splitPath value) := by
  rw [segmentsOf, pushSegment_eq]
  rfl

theorem not_mem_splitOn {path part : PyStr} (h : part ∈ path.splitOn 47) : 47 ∉ part := by
  induction path generalizing part with
  | nil =>
    rw [List.splitOn_nil, List.mem_singleton] at h
    rw [h]
    exact List.not_mem_nil
  | cons c path ih =>
    rw [List.splitOn_cons_eq_if_modifyHead] at h
    split_ifs at h with hc
    · rcases List.mem_cons.1 h with rfl | h
      · exact List.not_mem_nil
      · exact ih h
    · cases hparts : path.splitOn 47 with
      | nil => exact absurd hparts (List.splitOn_ne_nil 47 path)
      | cons first others =>
        rw [hparts] at h ih
        rcases List.mem_cons.1 h with rfl | h
        · rw [List.mem_cons, not_or]
          exact ⟨fun h47 => hc (beq_iff_eq.2 h47.symm), ih (.head _)⟩
        · exact ih (.tail _ h)

theorem not_mem_step {place : List PyStr} {word : PyStr} (hplace : ∀ w ∈ place, 47 ∉ w)
    (hword : 47 ∉ word) :
    ∀ w ∈ Walk.step turnOf place word, 47 ∉ w := by
  intro w hw
  unfold Walk.step at hw
  split at hw
  · rcases List.mem_append.1 hw with hw | hw
    · exact hplace w hw
    · rwa [List.mem_singleton.1 hw]
  · exact hplace w (List.dropLast_subset place hw)
  · exact hplace w hw

theorem not_mem_walk {words place : List PyStr} (hplace : ∀ w ∈ place, 47 ∉ w)
    (hwords : ∀ w ∈ words, 47 ∉ w) :
    ∀ w ∈ Walk.walk turnOf place words, 47 ∉ w := by
  induction words generalizing place with
  | nil => exact hplace
  | cons word words ih =>
    rw [Walk.walk_cons]
    exact ih (not_mem_step hplace (hwords word (.head _))) fun w hw => hwords w (.tail _ hw)

theorem head_splitOn {name path : PyStr} (hname : 47 ∉ name) :
    (path.splitOn 47).head? = some name ↔ path = name ∨ name ++ [47] <+: path := by
  constructor
  · intro hhead
    obtain ⟨rest, hrest⟩ := List.head?_eq_some_iff.1 hhead
    have hpath : path = [47].intercalate (name :: rest) := by
      rw [← hrest, List.intercalate_splitOn]
    cases rest with
    | nil => exact .inl (by simpa using hpath)
    | cons other rest => exact .inr ⟨[47].intercalate (other :: rest), by rw [hpath]; simp⟩
  · rintro (rfl | ⟨rest, rfl⟩)
    · rw [List.splitOn_eq_singleton hname]
      rfl
    · rw [List.append_assoc, List.singleton_append, List.splitOn_append_cons_self_of_not_mem hname]
      rfl

/-! ## Private routes -/

/-- The names under which nothing is public. -/
def privateNames : List PyStr := [py "ops", py "metrics"]

/-- A private path, as the router sees it. -/
def Private (path : PyStr) : Prop := ∃ name ∈ privateNames, path = 47 :: name ∨
    47 :: name ++ [47] <+: path

theorem plain_name {name : PyStr} (h : name ∈ privateNames) :
    (∀ c ∈ name, c < 128 ∧ c ≠ 37 ∧ c ≠ 47 ∧ c ≠ 92) ∧ turnOf name = .down := by
  revert name
  decide +kernel

theorem splitPath_private {path value : PyStr} {n : Nat} (hpath : Private path)
    (hv : decodeStable n path = some value) :
    ∃ name ∈ privateNames, ∃ rest, splitPath value = [] :: name :: rest := by
  obtain ⟨name, hname, hpath⟩ := hpath
  have hchars := (plain_name hname).1
  have hfront : Plain (47 :: name) := by
    intro c hc
    rcases List.mem_cons.1 hc with rfl | hc
    · decide
    · exact ⟨(hchars c hc).1, (hchars c hc).2.1⟩
  have hslash : 47 ∉ name := fun h => (hchars 47 h).2.2.1 rfl
  have hid : name.map replaceBackslash = name := by
    refine (List.map_congr_left fun c hc => ?_).trans (List.map_id name)
    exact if_neg (hchars c hc).2.2.2
  -- The name, and the slash behind it, are left as they are.
  have hvalue : value = 47 :: name ∨ ∃ rest, value = 47 :: name ++ 47 :: rest := by
    rcases hpath with rfl | ⟨rest, rfl⟩
    · exact .inl (decodeStable_plain hfront hv)
    · have hplain : Plain (47 :: name ++ [47]) := hfront.append plain_slash
      rw [decodeStable_append hplain] at hv
      obtain ⟨decoded, -, rfl⟩ := Option.map_eq_some_iff.1 hv
      exact .inr ⟨decoded, by simp⟩
  refine ⟨name, hname, ?_⟩
  unfold splitPath
  rcases hvalue with rfl | ⟨rest, rfl⟩
  · refine ⟨[], ?_⟩
    rw [List.map_cons, hid]
    exact List.splitOn_append_cons_self_of_not_mem (List.not_mem_nil (a := 47)) _ |>.trans
      (congrArg _ (List.splitOn_eq_singleton hslash))
  · refine ⟨(rest.map replaceBackslash).splitOn 47, ?_⟩
    rw [List.map_append, List.map_cons, hid, List.map_cons]
    exact List.splitOn_append_cons_self_of_not_mem (List.not_mem_nil (a := 47)) _ |>.trans
      (congrArg _ (List.splitOn_append_cons_self_of_not_mem hslash _))

theorem private_iff {path : PyStr} : Private (47 :: path) ↔ ∃ name ∈ privateNames,
    (path.splitOn 47).head? = some name := by
  refine exists_congr fun name => and_congr_right fun hname => ?_
  have hslash : 47 ∉ name := fun h => ((plain_name hname).1 47 h).2.2.1 rfl
  rw [head_splitOn hslash, List.cons_append, List.prefix_cons_inj, List.cons_inj_right]

/-! ## What the filter compares -/

/-- What is asked of `str.casefold`. -/
structure CaseFolds (casefold : PyStr → PyStr) : Prop where
  append : ∀ s t, casefold (s ++ t) = casefold s ++ casefold t
  slash : casefold [47] = [47]
  not_slash : ∀ s, 47 ∉ s → 47 ∉ casefold s
  name : ∀ name ∈ privateNames, casefold name = name

section Filter

variable {casefold : PyStr → PyStr} (hfold : CaseFolds casefold)

include hfold

theorem CaseFolds.nil : casefold [] = [] := by
  have happ := hfold.append [] []
  rw [List.append_nil] at happ
  exact List.self_eq_append_right.1 happ

theorem CaseFolds.intercalate (segments : List PyStr) :
    casefold ([47].intercalate segments) = [47].intercalate (segments.map casefold) := by
  induction segments with
  | nil => exact hfold.nil
  | cons segment segments ih =>
    cases segments with
    | nil => simp
    | cons other others =>
      rw [List.intercalate_cons_cons, hfold.append, hfold.append, hfold.slash, ih]
      simp [List.intercalate_cons_cons]

theorem private_joined (segments : List PyStr) (h : ∀ segment ∈ segments, 47 ∉ segment) :
    Private (47 :: casefold ([47].intercalate segments)) ↔ ∃ name ∈ privateNames,
    segments.head?.map casefold = some name := by
  rw [hfold.intercalate, private_iff]
  cases segments with
  | nil =>
    show (∃ name ∈ privateNames, some [] = some name) ↔ ∃ name ∈ privateNames, none = some name
    decide +kernel
  | cons segment segments =>
    rw [List.splitOn_intercalate]
    · rfl
    · intro folded hfolded
      obtain ⟨other, hother, rfl⟩ := List.mem_map.1 hfolded
      exact hfold.not_slash other (h other hother)
    · simp

omit hfold in
theorem canonicalPath_eq_some {rawPath : Octets ⊕ PyStr} {path : PyStr} :
    canonicalPath casefold rawPath = some path ↔ ∃ text value, asText rawPath = some text ∧
    decodeStable 8 text = some value ∧
      (∀ c ∈ value, 32 ≤ c) ∧ 47 :: casefold ([47].intercalate (segmentsOf value)) = path := by
  have hany (value : PyStr) : value.any (· < 32) = true ↔ ¬ ∀ c ∈ value, 32 ≤ c := by
    simp
  unfold canonicalPath
  simp only [Option.bind_eq_bind, Option.bind_eq_some_iff]
  refine exists_congr fun text => ⟨?_, ?_⟩
  · rintro ⟨htext, value, hvalue, hpath⟩
    split_ifs at hpath with hctl
    exact ⟨value, htext, hvalue, not_not.1 fun h => hctl ((hany value).2 h), Option.some.inj hpath⟩
  · rintro ⟨value, htext, hvalue, hchars, hpath⟩
    refine ⟨htext, value, hvalue, ?_⟩
    rw [if_neg fun h => (hany value).1 h hchars]
    exact congrArg some hpath

omit hfold in
theorem allowed_iff {rawPath : Octets ⊕ PyStr} :
    publicRouteAllowed casefold rawPath = true ↔ ∃ path, canonicalPath casefold rawPath =
      some path ∧ ¬ Private path := by
  have hprivate (path : PyStr) : Private path ↔
      (path = py "/ops" ∨ (py "/ops/").isPrefixOf path) ∨ path = py "/metrics" ∨
      (py "/metrics/").isPrefixOf path := by
    simp only [Private, privateNames, List.mem_cons, List.not_mem_nil, or_false,
      exists_eq_or_imp, exists_eq_left, List.isPrefixOf_iff_prefix]
    rfl
  unfold publicRouteAllowed
  cases canonicalPath casefold rawPath with
  | none => simp
  | some path =>
    simp only [Option.some.injEq, exists_eq_left', hprivate]
    split_ifs with hmetrics
    · exact ⟨False.elim, fun h => absurd (.inr hmetrics) h⟩
    · rw [Bool.and_eq_true, decide_eq_true_eq, Bool.not_eq_true']
      constructor
      · rintro ⟨hne, hnot⟩ ((heq | hprefix) | hmetrics')
        · exact hne heq
        · exact Bool.false_ne_true (hnot.symm.trans hprefix)
        · exact hmetrics hmetrics'
      · intro h
        exact ⟨fun heq => h (.inl (.inl heq)), Bool.eq_false_iff.2 fun hprefix =>
          h (.inl (.inr hprefix))⟩

/-- What is let through: the first segment, once everything is decoded, is no private name. -/
theorem publicRouteAllowed_iff {rawPath : Octets ⊕ PyStr} :
    publicRouteAllowed casefold rawPath = true ↔ ∃ text value, asText rawPath = some text ∧
    decodeStable 8 text = some value ∧
      (∀ c ∈ value, 32 ≤ c) ∧ ∀ name ∈ privateNames,
      (segmentsOf value).head?.map casefold ≠ some name := by
  have hslashes (value : PyStr) : ∀ segment ∈ segmentsOf value, 47 ∉ segment := by
    rw [segmentsOf_eq]
    exact not_mem_walk (fun _ h => absurd h List.not_mem_nil) fun _ => not_mem_splitOn
  have hjoined (value : PyStr) : ¬ Private (47 :: casefold ([47].intercalate (segmentsOf value))) ↔
      ∀ name ∈ privateNames, (segmentsOf value).head?.map casefold ≠ some name := by
    rw [private_joined hfold _ (hslashes value)]
    simp only [not_exists, not_and, ne_eq]
  rw [allowed_iff]
  constructor
  · rintro ⟨path, hpath, hpublic⟩
    obtain ⟨text, value, htext, hvalue, hchars, rfl⟩ := canonicalPath_eq_some.1 hpath
    exact ⟨text, value, htext, hvalue, hchars, (hjoined value).1 hpublic⟩
  · rintro ⟨text, value, htext, hvalue, hchars, hpublic⟩
    exact ⟨_, canonicalPath_eq_some.2 ⟨text, value, htext, hvalue, hchars, rfl⟩,
      (hjoined value).2 hpublic⟩

/-- A private path is let through only where its segments climb out of it. -/
theorem climbs_of_public {path value : PyStr} {n : Nat} (hpath : Private path)
    (hvalue : decodeStable n path = some value)
    (hpublic : ∀ name ∈ privateNames, (segmentsOf value).head?.map casefold ≠ some name) :
    Walk.Climbs turnOf (splitPath value) := by
  obtain ⟨name, hname, rest, hsplit⟩ := splitPath_private hpath hvalue
  by_contra hclimbs
  have hempty : turnOf [] = .stay := rfl
  rw [hsplit, Walk.climbs_stay hempty] at hclimbs
  apply hpublic name hname
  rw [segmentsOf_eq, hsplit, Walk.walk_cons]
  have hstep : Walk.step turnOf [] [] = [] := rfl
  rw [hstep, Walk.head_walk (plain_name hname).2 hclimbs]
  exact congrArg some (hfold.name name hname)

end Filter

theorem id_caseFolds : CaseFolds id := ⟨fun _ _ => rfl, rfl, fun _ => id, fun _ _ => rfl⟩

end Kunlun.Paths

namespace Kunlun.Ingress

open LivePayments Paths

/-! ## Private routes at the edge -/

/-- The server has decoded the path that the client has sent, where that is UTF-8. -/
def Scope.Decoded (s : Scope) : Prop :=
  ∀ octets text, s.rawPath = some octets → octets ≠ [] → decodeAscii? octets >>= unquote =
    some text → s.path = text

variable {Address Network : Type} {L : Ipaddress Address Network}
  {casefold : PyStr → PyStr} {s : Scope}

theorem decodeStable_requested (hdecoded : s.Decoded) (hprivate : Private s.path)
    {text value : PyStr}
    (htext : asText (requestedPath s) = some text) (hvalue : decodeStable 8 text = some value) :
    ∃ n, decodeStable n s.path = some value := by
  unfold requestedPath at htext
  split at htext
  · rename_i c rest hraw
    have hascii : decodeAscii? (c :: rest) = some text := htext
    refine decodeStable_routed (fun routed hrouted => ?_) hvalue
    refine hdecoded _ routed hraw (List.cons_ne_nil c rest) ?_
    rw [hascii]
    exact hrouted
  · have hne : s.path ≠ [] := by
      intro hnil
      rw [hnil] at hprivate
      revert hprivate
      simp [Private]
    rw [if_neg hne] at htext
    obtain rfl := Option.some.inj htext
    exact ⟨8, hvalue⟩

/-- A request that the router takes to a private route passes if and only if its path, decoded to
    rest, is free of control characters, climbs out of the private route, and ends in none. -/
theorem private_passes_iff (proxySecret : Octets) (hfold : CaseFolds casefold)
    (hhttp : s.type = .http) (hdecoded : s.Decoded)
    (hprivate : Private s.path) :
    (vercelIngress L casefold proxySecret s).isSome ↔ ∃ text value,
    asText (requestedPath s) = some text ∧
      decodeStable 8 text = some value ∧ (∀ c ∈ value, 32 ≤ c) ∧
      Walk.Climbs turnOf (splitPath value) ∧
      ∀ name ∈ privateNames, (segmentsOf value).head?.map casefold ≠ some name := by
  have hpass : (vercelIngress L casefold proxySecret s).isSome ↔
      publicRouteAllowed casefold (requestedPath s) = true := by
    unfold vercelIngress
    rw [if_neg (not_not.2 hhttp)]
    split_ifs with hallowed
    · simp [hallowed]
    · simpa using hallowed
  rw [hpass, publicRouteAllowed_iff hfold]
  constructor
  · rintro ⟨text, value, htext, hvalue, hchars, hpublic⟩
    obtain ⟨n, hrouted⟩ := decodeStable_requested hdecoded hprivate htext hvalue
    exact ⟨text, value, htext, hvalue, hchars, climbs_of_public hfold hprivate
      hrouted hpublic, hpublic⟩
  · rintro ⟨text, value, htext, hvalue, hchars, -, hpublic⟩
    exact ⟨text, value, htext, hvalue, hchars, hpublic⟩

/-- A request for the status of an account, as the router sees it. -/
def escapingRequest : Scope :=
  ⟨.http, py "/ops/accounts/..%5c..%5c..%5cx/status",
    some (py "/ops/accounts/..%255c..%255c..%255cx/status"), mappedPeer, []⟩

theorem escapingRequest_passes : Private escapingRequest.path ∧
    (vercelIngress twoAddresses id [] escapingRequest).isSome := by
  have hprivate : Private escapingRequest.path :=
    ⟨py "ops", .head _, .inr ⟨py "accounts/..%5c..%5c..%5cx/status", by decide +kernel⟩⟩
  have hdecoded : escapingRequest.Decoded := by
    intro octets text hraw _ htext
    obtain rfl := Option.some.inj hraw
    exact Option.some.inj ((show decodeAscii? _ >>= unquote =
      some escapingRequest.path by decide +kernel).symm.trans htext)
  refine ⟨hprivate, (private_passes_iff [] id_caseFolds rfl hdecoded hprivate).2 ?_⟩
  refine ⟨_, py "/ops/accounts/..\\..\\..\\x/status", rfl, by decide +kernel, by decide +kernel, ?_,
    by decide +kernel⟩
  exact ⟨[[], py "ops", py "accounts", py "..",
    py ".."], by decide +kernel, by decide +kernel, by decide +kernel⟩

end Kunlun.Ingress
