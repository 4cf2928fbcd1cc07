import Kunlun.Deliveries
import Kunlun.Envelopes
import Kunlun.LongNames

/-!
# Redeliveries

The route of the live webhook asks the bridge, with what its instance has seen, and then the
tables, which all instances share. A body that was accepted once is acknowledged again under its
own nonce only.
-/

namespace Kunlun.LivePayments

/-! ## The bridge, once more -/

section Bridge

variable {L : Library} {b : Bridge} {seen : Seen} {clock : Option Int} {body : Octets}
  {headers : Headers}
  {r : WebhookResult}

/-- Nothing that the instance has seen speaks against the body. -/
def Seen.Admits (seen : Seen) (nonce digest eventId : PyStr) : Prop :=
  (lookup seen.nonces nonce = none ∨ lookup seen.nonces nonce = some digest) ∧
    (lookup seen.events eventId = none ∨ lookup seen.events eventId = some (digest, nonce))

instance (seen : Seen) (nonce digest eventId : PyStr) :
    Decidable (seen.Admits nonce digest eventId) := by
  unfold Seen.Admits
  infer_instance

theorem parseWebhook_reads (h : parseWebhook L b seen clock body headers = .ok r) :
    ∃ items duplicate, L.loads body = some (.obj items) ∧ isId (header L headers "x-kunlun-nonce") ∧
      readEvent seen (header L headers "x-kunlun-nonce") (L.sha256Hex body) duplicate
        (.obj items) = .ok r := by
  unfold parseWebhook at h
  obtain ⟨_, hsigned, h⟩ := except_bind_ok.1 h
  obtain ⟨-, h⟩ := except_unless_ok.1 h
  cases hjson : L.loads body with
  | none => simp [hjson] at h
  | some x =>
    rw [hjson] at h
    cases x with
    | obj items => exact ⟨items, _, rfl, checkSignedHeaders_ok hsigned, h⟩
    | _ => simp at h

theorem parseWebhook_nonce (h : parseWebhook L b seen clock body headers = .ok r) :
    r.nonce = header L headers "x-kunlun-nonce" := by
  obtain ⟨items, duplicate, -, hnonce, hread⟩ := parseWebhook_reads h
  exact (readEvent_ok hread hnonce).2

/-- A body that was read once is read again, or is in conflict with an event that was seen. -/
theorem readEvent_again {nonce digest : PyStr} {duplicate : Bool} {event : Json}
    (h : readEvent seen nonce digest duplicate event = .ok r) (seen' : Seen) (nonce' : PyStr)
    (duplicate' : Bool) :
    readEvent seen' nonce' digest duplicate' event =
      if lookup seen'.events r.eventId ≠ none ∧ lookup seen'.events r.eventId ≠
        some (digest, nonce') then
        .error (bridgeError "同一事件编号的回调正文不一致" "webhook_replay_conflict")
      else .ok { r with
        nonce := nonce'
        duplicate := duplicate' || (lookup seen'.events r.eventId).isSome } := by
  unfold readEvent at h
  obtain ⟨i, hi, h⟩ := except_bind_ok.1 h
  obtain ⟨o, ho, h⟩ := except_bind_ok.1 h
  obtain ⟨n, hn, h⟩ := except_bind_ok.1 h
  obtain ⟨c, hc, h⟩ := except_bind_ok.1 h
  obtain ⟨t, ht, h⟩ := except_bind_ok.1 h
  obtain ⟨y, hy, h⟩ := except_bind_ok.1 h
  obtain ⟨s, hs, h⟩ := except_bind_ok.1 h
  obtain ⟨x, hx, h⟩ := except_bind_ok.1 h
  obtain ⟨-, h⟩ := except_unless_ok.1 h
  obtain rfl := Except.ok.inj h
  unfold readEvent
  rw [except_bind_eq hi, except_bind_eq ho, except_bind_eq hn, except_bind_eq hc, except_bind_eq ht,
    except_bind_eq hy, except_bind_eq hs, except_bind_eq hx]
  rfl

theorem parseWebhook_again (h : parseWebhook L b seen clock body headers = .ok r)
    {clock' : Option Int}
    {headers' : Headers} (hsigned : checkSignedHeaders L b clock' headers' body = .ok ())
    (seen' : Seen) :
    (seen'.Admits (header L headers' "x-kunlun-nonce") (L.sha256Hex body) r.eventId → ∃ duplicate,
      parseWebhook L b seen' clock' body headers' =
        .ok { r with nonce := header L headers' "x-kunlun-nonce", duplicate := duplicate }) ∧
    (¬ seen'.Admits (header L headers' "x-kunlun-nonce") (L.sha256Hex body) r.eventId →
      ∃ message, parseWebhook L b seen' clock' body headers' =
        .error (bridgeError message "webhook_replay_conflict")) := by
  obtain ⟨items, duplicate, hjson, -, hread⟩ := parseWebhook_reads h
  have hagain := readEvent_again hread seen' (header L headers' "x-kunlun-nonce")
    (lookup seen'.nonces (header L headers' "x-kunlun-nonce")).isSome
  unfold parseWebhook Seen.Admits
  rw [except_bind_eq hsigned, hjson]
  constructor
  · rintro ⟨hnonce, hevent⟩
    rw [if_neg (by rintro ⟨h1, h2⟩; exact hnonce.elim h1 h2)]
    exact ⟨_, hagain.trans (if_neg (by rintro ⟨h1, h2⟩; exact hevent.elim h1 h2))⟩
  · intro hdisputed
    rw [not_and_or, not_or, not_or] at hdisputed
    by_cases hnonce : lookup seen'.nonces (header L headers' "x-kunlun-nonce") ≠ none ∧
        lookup seen'.nonces (header L headers' "x-kunlun-nonce") ≠ some (L.sha256Hex body)
    · rw [if_pos hnonce]
      exact ⟨_, rfl⟩
    · rw [if_neg hnonce]
      exact ⟨_, hagain.trans (if_pos (hdisputed.resolve_left hnonce))⟩

end Bridge

/-! ## The tables, once more -/

theorem applyWebhook_recorded {a a' : WebhookArgs} {d : DB} (hu : uniqueEvents d.events.rows)
    (hr : Recorded a d)
    (hcomplete : a'.Complete) (hprovider : a'.provider = a.provider)
    (hid : a'.eventId = a.eventId) :
    Tx.run (applyWebhook a') d =
      (if a'.rawDigest = a.rawDigest ∧ a'.nonceText = a.nonceText then .ok true
      else .error (.paymentDomain "同一支付事件正文不一致" 409), d) := by
  obtain ⟨e, he, heprovider, heid, henonce, hedigest⟩ := hr
  rw [uniqueEvents, Bool.and_eq_true] at hu
  have hfound : eventWithId a'.provider a'.eventId (Session.fresh d).work = some e := by
    show eventWithId a'.provider a'.eventId d = some e
    cases hfind : eventWithId a'.provider a'.eventId d with
    | none =>
      have hno := List.find?_eq_none.1 hfind e he
      simp [heprovider, heid, hprovider, hid] at hno
    | some x =>
      have hx := List.find?_some hfind
      rw [decide_eq_true_eq, hprovider, hid] at hx
      rw [unique_injective hu.1 (List.mem_of_find?_eq_some hfind) he
        (by simp [hx, heprovider, heid])]
  have hread : applyWebhook a' (.fresh d) = (do
      Tx.raiseIf (e.rawDigest ≠ a'.rawDigest ∨ e.nonce ≠ a'.nonceText)
        (.paymentDomain "同一支付事件正文不一致" 409)
      Tx.rollback
      return true : Service Bool) (.fresh d) := by
    rw [applyWebhook, Tx.raiseIf_bind hcomplete, Tx.select_bind, hfound]
  rw [Tx.run, hread]
  by_cases hsame : a'.rawDigest = a.rawDigest ∧ a'.nonceText = a.nonceText
  · rw [Tx.raiseIf_bind (by simp [hedigest, henonce, hsame]), if_pos hsame]
    rfl
  · rw [Tx.raiseIf_raises (by rw [hedigest, henonce]; grind), if_neg hsame]
    rfl

theorem text_inj {s t : PyStr} (hs : isId s) (ht : isId t) (h : text s = text t) : s = t := by
  have hcode {u : PyStr} (hu : isId u) : (text u).toList.map Char.toNat = u := by
    rw [text, String.toList_ofList, List.map_map]
    refine (List.map_congr_left fun c hc => ?_).trans (List.map_id u)
    have hchar := id_chars hu c hc
    have hascii : c < 128 := by
      simp only [isIdChar, isAlnum, isDigit, isUpper, Bool.or_eq_true, Bool.and_eq_true,
        decide_eq_true_eq] at hchar
      omega
    have hvalid : c.isValidChar := .inl (by omega)
    show (Char.ofNat c).toNat = c
    unfold Char.ofNat
    rw [dif_pos hvalid]
    rfl
  rw [← hcode hs, h, hcode ht]

/-! ## The route -/

/-- What leaves the route. -/
inductive RouteExc where
  | http (detail : String) (statusCode : Nat)
  | bridge (e : BridgeExc)
  | service (e : Exc)
  deriving DecidableEq

/-- Only errors of the domain are caught. -/
def domainRefusal : Exc → RouteExc
  | .paymentDomain message statusCode => .http message statusCode
  | e => .service e

/-- One request for the route, with what the call draws. -/
structure Delivery where
  clock : Option Int
  body : Octets
  headers : Headers
  draws : Draws

/-- `payment_provider` and the bridge, as the application has started with them. -/
structure LiveSettings where
  bridge : Option Bridge
  provider : Option String

/-- `live_payment_webhook`: the `duplicate` of its answer, what the instance has seen, and the
tables. -/
def livePaymentWebhook (L : Library) (settings : LiveSettings) (v : Delivery)
    (seen : Seen) (d : DB) :
    Except RouteExc Bool × Seen × DB :=
  match settings.bridge, settings.provider.filter (· ≠ "") with
  | some b, some provider =>
    match verifyWebhook L b seen v.clock v.body v.headers with
    | (.error e, seen) => (.error (if e.own then .http "支付回调验证失败" 401 else .bridge e), seen, d)
    | (.ok event, seen) =>
      match Tx.run (applyWebhook (webhookArgs provider (L.sha256Hex v.body) event v.draws)) d with
      | (.error e, d) => (.error (domainRefusal e), seen, d)
      | (.ok duplicate, d) => (.ok duplicate, seen, d)
  | _, _ => (.error (.http "正式支付回调未启用" 404), seen, d)

/-- The instances of the gateway, each with its own bridge, over the tables they share. -/
structure Site (I : Type) where
  seen : I → Seen
  db : DB

inductive Arrival (I : Type) where
  | webhook (i : I) (v : Delivery)
  | restart (i : I)
  | call (op : Op)

section Site

variable {I : Type} [DecidableEq I] (L : Library) (settings : LiveSettings)

def Arrival.step (x : Arrival I) (s : Site I) : Site I :=
  match x with
  | .webhook i v =>
    let answer := livePaymentWebhook L settings v (s.seen i) s.db
    ⟨Function.update s.seen i answer.2.1, answer.2.2⟩
  | .restart i => ⟨Function.update s.seen i ⟨[], []⟩, s.db⟩
  | .call op => ⟨s.seen, exec op s.db⟩

variable {L settings} {b : Bridge} {provider : String} {v : Delivery} {seen : Seen} {d : DB}
  {r : WebhookResult}

theorem livePaymentWebhook_refused (hbridge : settings.bridge = some b)
    (hprovider : settings.provider.filter (· ≠ "") = some provider) {message code : String}
    (h : parseWebhook L b seen v.clock v.body v.headers = .error (bridgeError message code)) :
    livePaymentWebhook L settings v seen d = (.error (.http "支付回调验证失败" 401), seen, d) := by
  unfold livePaymentWebhook verifyWebhook
  simp only [hbridge, hprovider, h]
  rfl

theorem livePaymentWebhook_read (hbridge : settings.bridge = some b)
    (hprovider : settings.provider.filter (· ≠ "") = some provider)
    (h : parseWebhook L b seen v.clock v.body v.headers = .ok r) :
    livePaymentWebhook L settings v seen d =
      ((Tx.run (applyWebhook (webhookArgs provider (L.sha256Hex v.body) r v.draws)) d).1.mapError
        domainRefusal, seen.record r.nonce (L.sha256Hex v.body) r.eventId,
        (Tx.run (applyWebhook (webhookArgs provider (L.sha256Hex v.body) r v.draws)) d).2) := by
  unfold livePaymentWebhook verifyWebhook
  simp only [hbridge, hprovider, h]
  rcases Tx.run (applyWebhook (webhookArgs provider (L.sha256Hex v.body) r v.draws))
    d with ⟨_ | _, _⟩ <;> rfl

theorem exec_applyWebhook (a : WebhookArgs) (d : DB) :
    exec (.applyWebhook a) d = (Tx.run (applyWebhook a) d).2 := by
  rw [exec, Op.service, run_discard]

theorem livePaymentWebhook_db (L : Library) (settings : LiveSettings) (v : Delivery)
    (seen : Seen) (d : DB) :
    (livePaymentWebhook L settings v seen d).2.2 = d ∨
      ∃ a, (livePaymentWebhook L settings v seen d).2.2 = exec (.applyWebhook a) d := by
  unfold livePaymentWebhook
  split
  · split
    · exact .inl rfl
    · split <;> exact .inr ⟨_, ((exec_applyWebhook ..).trans (congrArg Prod.snd ‹_›)).symm⟩
  · exact .inl rfl

theorem step_eventsGrow (x : Arrival I) (s : Site I) :
    eventsGrow.rel s.db (x.step L settings s).db := by
  cases x with
  | webhook i v =>
    show eventsGrow.rel s.db (livePaymentWebhook L settings v (s.seen i) s.db).2.2
    rcases livePaymentWebhook_db L settings v (s.seen i) s.db with heq | ⟨a, heq⟩
    · rw [heq]
      exact eventsGrow.refl _
    · rw [heq]
      exact exec_keeps keepsAll_eventsGrow _ _
  | restart i => exact eventsGrow.refl _
  | call op => exact exec_keeps keepsAll_eventsGrow _ _

theorem after_eventsGrow (s : Site I) (xs : List (Arrival I)) :
    eventsGrow.rel s.db (Run.after (Arrival.step L settings) s xs).db := by
  have along : Run.Along (Arrival.step L settings) (fun _ _ => True) s xs :=
    Run.along_of_forall s fun _ _ _ => trivial
  exact Run.relates (R := fun s t => eventsGrow.rel s.db t.db) (fun _ => eventsGrow.refl _)
    (fun _ _ _ => eventsGrow.trans)
    (fun s x _ => step_eventsGrow x s) along

theorem restarted_db (s : Site I) (i : I) :
    (Run.after (Arrival.step L settings) s [.restart i]).db = s.db := rfl

/-- The instance accepts the body, and the route answers without an error. -/
structure Acknowledged (L : Library) (settings : LiveSettings) (s : Site I) (i : I) (v : Delivery)
    (b : Bridge) (provider : String)
    (event : WebhookResult) : Prop where
  live : settings.bridge = some b
  named : settings.provider.filter (· ≠ "") = some provider
  read : (verifyWebhook L b (s.seen i) v.clock v.body v.headers).1 = .ok event
  answered : (livePaymentWebhook L settings v (s.seen i) s.db).1.isOk

/-- The tables take the event to them. -/
structure Processed (L : Library) (settings : LiveSettings) (s : Site I) (i : I) (v : Delivery)
    (b : Bridge) (provider : String) (event : WebhookResult) : Prop
    extends Acknowledged L settings s i v b provider event where
  recorded : ¬ PaidReplay (webhookArgs provider (L.sha256Hex v.body) event v.draws) s.db

theorem Acknowledged.accepted {s : Site I} {i : I}
    (h : Acknowledged L settings s i v b provider r) :
    Op.accepted (.applyWebhook (webhookArgs provider (L.sha256Hex v.body) r v.draws)) s.db =
        some (webhookArgs provider (L.sha256Hex v.body) r v.draws) ∧
      ((Arrival.webhook i v).step L settings s).db =
        exec (.applyWebhook (webhookArgs provider (L.sha256Hex v.body) r v.draws)) s.db := by
  have hparse := h.read
  rw [verifyWebhook_result] at hparse
  have hread := livePaymentWebhook_read (d := s.db) h.live h.named hparse
  constructor
  · have hok := h.answered
    rw [hread, Tx.run] at hok
    apply accepted_of
    rcases hrun : applyWebhook (webhookArgs provider (L.sha256Hex v.body) r v.draws)
      (.fresh s.db) with ⟨_ | _, _⟩
    · rw [hrun] at hok
      cases hok
    · rfl
  · show (livePaymentWebhook L settings v (s.seen i) s.db).2.2 = _
    rw [hread, exec_applyWebhook]

theorem Processed.recorded_after {s : Site I} {i : I}
    (h : Processed L settings s i v b provider r) (xs : List (Arrival I)) :
    Recorded (webhookArgs provider (L.sha256Hex v.body) r v.draws)
      (Run.after (Arrival.step L settings) ((Arrival.webhook i v).step L settings s) xs).db := by
  obtain ⟨haccepted, hstep⟩ := h.accepted
  exact (hstep ▸ accepted_records haccepted h.recorded).grow (after_eventsGrow _ xs)

/-- Whatever has happened since an event was processed, a signed delivery of the same body leaves
the tables as they are, and is acknowledged if it comes with the same nonce and to an instance
that has seen nothing else under the nonce or the event. -/
theorem redelivered (hdigest : ∀ body, (L.sha256Hex body).length = 64) {s : Site I}
    (hu : uniqueEvents s.db.events.rows) {i : I} (h : Processed L settings s i v b provider r)
    (xs : List (Arrival I)) (j : I)
    {v' : Delivery} (hbody : v'.body = v.body)
    (hsigned : checkSignedHeaders L b v'.clock v'.headers v'.body = .ok ()) :
    let t := Run.after (Arrival.step L settings) ((Arrival.webhook i v).step L settings s) xs
    let answer := livePaymentWebhook L settings v' (t.seen j) t.db
    answer.2.2 = t.db ∧ answer.1 =
      if ¬ (t.seen j).Admits (header L v'.headers "x-kunlun-nonce")
        (L.sha256Hex v.body) r.eventId then
        .error (.http "支付回调验证失败" 401)
      else if header L v'.headers "x-kunlun-nonce" = header L v.headers
        "x-kunlun-nonce" then .ok true
      else .error (.http "同一支付事件正文不一致" 409) := by
  intro t answer
  have hgrow : eventsGrow.rel s.db t.db := eventsGrow.trans (step_eventsGrow (.webhook i v) s)
    (after_eventsGrow _ xs)
  have hrecorded : Recorded (webhookArgs provider (L.sha256Hex v.body) r v.draws) t.db :=
    h.recorded_after xs
  have hparse := h.read
  rw [verifyWebhook_result] at hparse
  rw [hbody] at hsigned
  obtain ⟨hagain, hconflict⟩ := parseWebhook_again hparse hsigned (t.seen j)
  by_cases hadmits : (t.seen j).Admits (header L v'.headers "x-kunlun-nonce")
    (L.sha256Hex v.body) r.eventId
  · obtain ⟨duplicate, hread⟩ := hagain hadmits
    rw [← hbody] at hread
    have hwell := parseWebhook_ok hread
    have hrun := applyWebhook_recorded (hgrow.2 hu) hrecorded
        (webhookArgs_complete (x := v'.draws) hwell (hdigest v'.body))
      rfl rfl
    have hanswer := livePaymentWebhook_read (d := t.db) h.live h.named hread
    rw [hrun] at hanswer
    refine ⟨congrArg (fun x => x.2.2) hanswer, (congrArg Prod.fst hanswer).trans ?_⟩
    rw [if_neg (not_not.2 hadmits), webhookArgs_nonceText hwell,
      webhookArgs_nonceText (parseWebhook_ok hparse), parseWebhook_nonce hparse]
    have hsame : text (header L v'.headers "x-kunlun-nonce") = text
      (header L v.headers "x-kunlun-nonce") ↔
        header L v'.headers "x-kunlun-nonce" = header L v.headers "x-kunlun-nonce" := by
      refine ⟨text_inj hwell.nonce ?_, congrArg text⟩
      rw [← parseWebhook_nonce hparse]
      exact (parseWebhook_ok hparse).nonce
    by_cases hnonce : header L v'.headers "x-kunlun-nonce" = header L v.headers "x-kunlun-nonce"
    · rw [if_pos ⟨by rw [webhookArgs, webhookArgs, hbody], hsame.2 hnonce⟩, if_pos hnonce]
      rfl
    · rw [if_neg fun h => hnonce (hsame.1 h.2), if_neg hnonce]
      rfl
  · obtain ⟨message, hrefused⟩ := hconflict hadmits
    rw [← hbody] at hrefused
    have hanswer := livePaymentWebhook_refused (d := t.db) h.live h.named hrefused
    exact ⟨congrArg (fun x => x.2.2) hanswer, (congrArg Prod.fst hanswer).trans
      (if_pos hadmits).symm⟩

/-- What the tables answer under a nonce that is in none of their rows. -/
theorem applyWebhook_fresh {a : WebhookArgs}
    (hfresh : eventWithNonce a.provider a.nonceText d = none) :
    ((Tx.run (applyWebhook a) d).1 = .ok true ∧ (Tx.run (applyWebhook a) d).2 = d) ↔
      ∃ o, PaidAgain a d o := by
  constructor
  · rintro ⟨hok, hsame⟩
    rcases hrun : applyWebhook a (.fresh d) with ⟨answer, t⟩
    rw [Tx.run, hrun] at hok hsame
    dsimp only at hok hsame
    subst hok
    rcases applyWebhook_records (fun _ hw => absurd hw List.not_mem_nil) rfl hrun with
      hrecorded | ⟨hreplay, -⟩
    · rw [hsame] at hrecorded
      obtain ⟨e, he, hprovider, -, hnonce, -⟩ := hrecorded
      have hno := List.find?_eq_none.1 hfresh e he
      simp [hprovider, hnonce] at hno
    · exact PaidReplay.again (s := .fresh d) hreplay hrun
  · rintro ⟨o, ho⟩
    rw [Tx.run, PaidAgain.accepted (s := .fresh d) ho]
    exact ⟨rfl, rfl⟩

/-- A body that was accepted once is acknowledged again under a fresh nonce only if its event went
out by the exit that leaves no row, and exactly where it goes out by it again. -/
theorem freshly_redelivered_iff {s : Site I} {i : I}
    (h : Acknowledged L settings s i v b provider r) (xs : List (Arrival I)) (j : I)
    {v' : Delivery} (hbody : v'.body = v.body)
    (hsigned : checkSignedHeaders L b v'.clock v'.headers v'.body = .ok ()) :
    let t := Run.after (Arrival.step L settings) ((Arrival.webhook i v).step L settings s) xs
    let nonce := header L v'.headers "x-kunlun-nonce"
    let a := webhookArgs provider (L.sha256Hex v.body) { r with nonce := nonce } v'.draws
    let answer := livePaymentWebhook L settings v' (t.seen j) t.db
    eventWithNonce provider (text nonce) t.db = none →
      (answer.1 = .ok true ∧ answer.2.2 = t.db ↔
        PaidReplay (webhookArgs provider (L.sha256Hex v.body) r v.draws) s.db ∧
        (t.seen j).Admits nonce (L.sha256Hex v.body) r.eventId ∧ ∃ o, PaidAgain a t.db o) := by
  intro t nonce a answer hfresh
  have hparse := h.read
  rw [verifyWebhook_result] at hparse
  rw [hbody] at hsigned
  obtain ⟨hagain, hconflict⟩ := parseWebhook_again hparse hsigned (t.seen j)
  by_cases hadmits : (t.seen j).Admits nonce (L.sha256Hex v.body) r.eventId
  · obtain ⟨duplicate, hread⟩ := hagain hadmits
    have hwell := parseWebhook_ok hread
    have hnonce : a.nonceText = text nonce := by
      show Option.getD (Option.filter _ (some (text nonce))) _ = _
      rw [Option.filter_some_pos (by simpa using text_ne_empty (isId_length hwell.nonce).1),
        Option.getD_some]
    rw [← hbody] at hread
    have hanswer := livePaymentWebhook_read (d := t.db) h.live h.named hread
    rw [hbody] at hanswer
    have hdomain := applyWebhook_fresh (a := a) (d := t.db) (by rwa [hnonce])
    have hok : answer.1 = .ok true ↔ (Tx.run (applyWebhook a) t.db).1 = .ok true := by
      rw [congrArg Prod.fst hanswer]
      show Except.mapError domainRefusal (Tx.run (applyWebhook a) t.db).1 = .ok true ↔ _
      cases (Tx.run (applyWebhook a) t.db).1 <;> simp [Except.mapError]
    have hdb : answer.2.2 = (Tx.run (applyWebhook a) t.db).2 := congrArg (fun x => x.2.2) hanswer
    rw [hok, hdb, hdomain]
    refine ⟨fun ⟨o, ho⟩ => ⟨?_, hadmits, o, ho⟩, fun hright => hright.2.2⟩
    by_contra hrecorded
    obtain ⟨e, he, hprovider, hid, -, -⟩ :=
      (Processed.mk h hrecorded).recorded_after xs
    have hno := List.find?_eq_none.1 ho.newId e he
    simp [hprovider, hid, a, webhookArgs] at hno
  · obtain ⟨message, hrefused⟩ := hconflict hadmits
    rw [← hbody] at hrefused
    have hanswer := livePaymentWebhook_refused (d := t.db) h.live h.named hrefused
    refine ⟨fun hleft => ?_, fun hright => absurd hright.2.1 hadmits⟩
    have hok := (congrArg Prod.fst hanswer).symm.trans hleft.1
    cases hok

end Site

/-! ## A fresh nonce -/

def freshSignature : PyStr := py "0e364654ef07c531bee636522dade39223dbedee552e7e13ec773f8f0d437cbf"

/-- The library on one body with two nonces. -/
def resignedLibrary : Library := { smallLibrary with
  hmacHex := fun key message =>
    if message = py "1700000100.nonce_2." ++ smallBody then freshSignature
      else smallLibrary.hmacHex key message }

def smallSettings : LiveSettings := ⟨some smallBridge, some "p"⟩

def firstDelivery : Delivery := ⟨some 1700000000, smallBody, smallHeaders, firstDraws⟩

/-- The same body a hundred seconds later, signed with a nonce of its own. -/
def freshDelivery : Delivery where
  clock := some 1700000100
  body := smallBody
  headers := [(py "x-kunlun-timestamp", py "1700000100"), (py "x-kunlun-nonce", py "nonce_2"),
    (py "x-kunlun-signature", freshSignature)]
  draws := firstDraws

/-- Two instances, over the order that the event is about. -/
def smallSite : Site Bool :=
  ⟨fun _ => ⟨[], []⟩,
    withOrder (matchingOrder (webhookArgs "p" (smallLibrary.sha256Hex smallBody) smallResult
      firstDraws) .pending)⟩

/-- The instances as they start, over what some calls have made of the tables. -/
def startedSite (ops : List Op) : Site Bool := ⟨fun _ => ⟨[], []⟩, Run.after exec DB.empty ops⟩

/-- An order that the event fits. -/
def ordered : List Op := [
  .registerIdentity ⟨"u", "u@example.com", "", .active, some 0⟩,
  .createOrder ⟨"u", "p", 1, "CNY", true, 5, "q", 5, 1, "key", some 3, "ord_1"⟩]

/-- The event as it comes to the tables. -/
def firstArgs : WebhookArgs :=
  webhookArgs "p" (resignedLibrary.sha256Hex smallBody) smallResult firstDraws

def freshArgs : WebhookArgs :=
  webhookArgs "p" (resignedLibrary.sha256Hex smallBody)
    { smallResult with nonce := header resignedLibrary freshDelivery.headers "x-kunlun-nonce" }
    firstDraws

theorem read_and_signed :
    (verifyWebhook resignedLibrary smallBridge ⟨[], []⟩ firstDelivery.clock firstDelivery.body
      firstDelivery.headers).1 = .ok smallResult ∧
    checkSignedHeaders resignedLibrary smallBridge freshDelivery.clock freshDelivery.headers
      freshDelivery.body = .ok () ∧
    (resignedLibrary.sha256Hex smallBody).length = 64 ∧
    header resignedLibrary freshDelivery.headers "x-kunlun-nonce" ≠
      header resignedLibrary firstDelivery.headers "x-kunlun-nonce" := by decide +kernel

theorem tables_answer :
    validEvent firstArgs.eventType ≠ some .paid ∧
    ((Tx.run (applyWebhook firstArgs) smallSite.db).1.mapError domainRefusal).isOk ∧
    ((Tx.run (applyWebhook firstArgs) (startedSite ordered).db).1.mapError domainRefusal).isOk ∧
    eventWithNonce "p" (text (header resignedLibrary freshDelivery.headers "x-kunlun-nonce"))
      (exec (.applyWebhook firstArgs) (startedSite ordered).db) = none ∧
    (Tx.run (applyWebhook freshArgs) (exec (.applyWebhook firstArgs)
      (startedSite ordered).db)).1.mapError domainRefusal ≠ .ok true := by decide +kernel

theorem parse_first : parseWebhook resignedLibrary smallBridge ⟨[], []⟩ firstDelivery.clock
    firstDelivery.body firstDelivery.headers = .ok smallResult := by
  rw [← verifyWebhook_result]
  exact read_and_signed.1

/-- What the domain makes of the event is what the first instance answers. -/
theorem acknowledged_first {s : Site Bool} (hseen : s.seen false = ⟨[], []⟩)
    (h : ((Tx.run (applyWebhook firstArgs) s.db).1.mapError domainRefusal).isOk) :
    Acknowledged resignedLibrary smallSettings s false firstDelivery smallBridge "p" smallResult where
  live := rfl
  named := by decide
  read := hseen ▸ read_and_signed.1
  answered := by
    rw [hseen, livePaymentWebhook_read rfl (by decide : _ = some "p") parse_first]
    exact h

theorem processed_small : Processed resignedLibrary smallSettings smallSite false firstDelivery
    smallBridge "p" smallResult where
  toAcknowledged := acknowledged_first rfl tables_answer.2.1
  recorded := fun ⟨_, htype, _⟩ => tables_answer.1 htype

/-- The fresh nonce that the contract asks of a callback makes the other instance refuse it. -/
theorem redelivered_fresh :
    let t := Run.after (Arrival.step resignedLibrary smallSettings)
      ((Arrival.webhook false firstDelivery).step resignedLibrary smallSettings smallSite)
      [.restart false]
    let answer := livePaymentWebhook resignedLibrary smallSettings freshDelivery (t.seen true) t.db
    answer.2.2 = t.db ∧ answer.1 = .error (.http "同一支付事件正文不一致" 409) := by
  obtain ⟨-, hsigned, hlength, hfresh⟩ := read_and_signed
  have hdigest : ∀ body, (resignedLibrary.sha256Hex body).length = 64 := fun _ => hlength
  have hu : uniqueEvents smallSite.db.events.rows := rfl
  have hadmits : ((Run.after (Arrival.step resignedLibrary smallSettings)
      ((Arrival.webhook false firstDelivery).step resignedLibrary smallSettings smallSite)
        [.restart false]).seen true).Admits
      (header resignedLibrary freshDelivery.headers "x-kunlun-nonce")
      (resignedLibrary.sha256Hex firstDelivery.body) smallResult.eventId := by
    constructor <;> exact .inl rfl
  have h := redelivered hdigest hu processed_small [.restart false] true
    (rfl : freshDelivery.body = firstDelivery.body) hsigned
  dsimp only at h ⊢
  rwa [if_neg (not_not.2 hadmits), if_neg hfresh] at h

theorem acknowledged_ordered : Acknowledged resignedLibrary smallSettings (startedSite ordered)
    false firstDelivery smallBridge "p" smallResult :=
  acknowledged_first rfl tables_answer.2.2.1

/-- The tables and the memory of the instances after the event and a new start of one of them. -/
def redeliverySite : Site Bool :=
  Run.after (Arrival.step resignedLibrary smallSettings)
    ((Arrival.webhook false firstDelivery).step resignedLibrary smallSettings
      (startedSite ordered)) [.restart false]

theorem redeliverySite_db :
    redeliverySite.db = exec (.applyWebhook firstArgs) (startedSite ordered).db := by
  rw [redeliverySite, restarted_db, acknowledged_ordered.accepted.2]
  rfl

theorem redeliverySite_fresh : eventWithNonce "p"
    (text (header resignedLibrary freshDelivery.headers "x-kunlun-nonce")) redeliverySite.db =
      none := by
  rw [redeliverySite_db]
  exact tables_answer.2.2.2.1

theorem redeliverySite_conflicts : (livePaymentWebhook resignedLibrary smallSettings freshDelivery
    (redeliverySite.seen true) redeliverySite.db).1 ≠ .ok true := by
  have hadmits : (redeliverySite.seen true).Admits
      (header resignedLibrary freshDelivery.headers "x-kunlun-nonce")
      (resignedLibrary.sha256Hex firstDelivery.body) smallResult.eventId := by
    constructor <;> exact .inl rfl
  obtain ⟨duplicate, hread⟩ := (parseWebhook_again parse_first read_and_signed.2.1 _).1 hadmits
  rw [livePaymentWebhook_read rfl (by decide : _ = some "p") hread, redeliverySite_db]
  exact tables_answer.2.2.2.2

theorem fresh_nonce_refused :
    ¬ ∀ (ops : List Op) (i j : Bool) (v v' : Delivery) (event : WebhookResult)
      (xs : List (Arrival Bool)),
      Acknowledged resignedLibrary smallSettings (startedSite ops) i v smallBridge "p" event →
      v'.body = v.body →
      checkSignedHeaders resignedLibrary smallBridge v'.clock v'.headers v'.body = .ok () →
      let t := Run.after (Arrival.step resignedLibrary smallSettings)
        ((Arrival.webhook i v).step resignedLibrary smallSettings (startedSite ops)) xs
      let answer := livePaymentWebhook resignedLibrary smallSettings v' (t.seen j) t.db
      eventWithNonce "p" (text (header resignedLibrary v'.headers "x-kunlun-nonce")) t.db = none →
        answer.1 = .ok true ∧ answer.2.2 = t.db := by
  intro hclaim
  have h := hclaim ordered false true firstDelivery freshDelivery smallResult [.restart false]
    acknowledged_ordered rfl read_and_signed.2.1 redeliverySite_fresh
  exact absurd h.1 redeliverySite_conflicts

theorem freshly_redelivered_ordered :
    let t := Run.after (Arrival.step resignedLibrary smallSettings)
      ((Arrival.webhook false firstDelivery).step resignedLibrary smallSettings
        (startedSite ordered)) [.restart false]
    let answer := livePaymentWebhook resignedLibrary smallSettings freshDelivery (t.seen true) t.db
    ¬ (answer.1 = .ok true ∧ answer.2.2 = t.db) := by
  have hiff := freshly_redelivered_iff acknowledged_ordered [.restart false] true
    (rfl : freshDelivery.body = firstDelivery.body) read_and_signed.2.1
  dsimp only at hiff ⊢
  rw [hiff redeliverySite_fresh]
  rintro ⟨⟨-, htype, -⟩, -⟩
  exact tables_answer.1 htype

end Kunlun.LivePayments
