import Kunlun.Completions.Failover

/-!
# What content safety lets through

Where a safety service is set, each prompt goes out as the service has allowed it, and each
response comes back as the service has allowed it, and an audit of either says so.
-/

namespace Kunlun.Completions

/-- What the output check looks at. -/
def choicesOf (content : Json) : Json := (content.get? (py "choices")).getD (.arr [])

/-- The service has allowed the content, and an audit says so. -/
def Cleared (a : ChatArgs) (kind : String) (auditId : Id) (content : Json) (g : Own) : Prop :=
  ∀ check, a.contentSafety = some check →
    (∃ decision, check kind a.payload.model content = .decision decision ∧ decision.allowed) ∧
      ∃ x ∈ g.audits.rows, x.id = auditId ∧ x.phase = kind ∧ x.outcome = "allowed"

/-- Each client has been called with the payload that was checked. -/
def Sent (a : ChatArgs) (g : Own) : Prop :=
  ∀ call ∈ g.called, call.2 = a.upstreamPayload ∧ Cleared a "input" a.inputAuditId
    a.upstreamPayload g

/-- What a response carries of a client has been checked. -/
def Response.Vetted (a : ChatArgs) (g : Own) : Response → Prop
  | .error .. => True
  | .completion content _ _ => Cleared a "output" a.outputAuditId (choicesOf content) g
  | .synthesized s _ _ => Cleared a "output" a.outputAuditId (choicesOf s.response) g
  | .forwarded .. => a.contentSafety = none

/-! ## Audits stay -/

/-- The same clients have been called, and each audit is still there, whatever request it is
given. -/
structure Own.Under (g g' : Own) : Prop where
  called : g'.called = g.called
  audits : ∀ x ∈ g.audits.rows, ∃ y ∈ g'.audits.rows, y.id = x.id ∧ y.phase = x.phase ∧
    y.outcome = x.outcome

variable {a : ChatArgs} {c : Admitted} {g g' : Own} {others : Neighbour → Prop}

theorem Cleared.under {kind : String} {auditId : Id} {content : Json}
    (h : Cleared a kind auditId content g)
    (hunder : g.Under g') : Cleared a kind auditId content g' := by
  intro check hcheck
  obtain ⟨hallowed, x, hx, hid, hphase, houtcome⟩ := h check hcheck
  obtain ⟨y, hy, hsame⟩ := hunder.audits x hx
  exact ⟨hallowed, y, hy, hsame.1.trans hid, hsame.2.1.trans hphase, hsame.2.2.trans houtcome⟩

/-- The prompt may be sent. -/
structure Ready (a : ChatArgs) (g : Own) : Prop where
  sent : Sent a g
  cleared : Cleared a "input" a.inputAuditId a.upstreamPayload g

theorem Ready.under (h : Ready a g) (hunder : g.Under g') : Ready a g' where
  sent call hcall := by
    rw [hunder.called] at hcall
    exact ⟨(h.sent call hcall).1, h.cleared.under hunder⟩
  cleared := h.cleared.under hunder

theorem sent_of_nil (h : g.called = []) : Sent a g := by
  intro call hcall
  rw [h] at hcall
  cases hcall

/-- A condition on what the handler owns does not see its sessions. -/
theorem meets_aside {α : Type} {P : Own → Prop} (x : Service α) :
    Handler.Meets others (fun _ => P) (session x) (fun _ _ => P) fun _ _ => P :=
  Handler.meets_session (fun _ _ _ _ h => h) (fun _ _ _ _ h _ => h) fun _ _ _ _ h _ => h

section Audits

variable {P : Own → Prop} (hP : ∀ g g', Own.Under g g' → P g → P g')

include hP

theorem meets_audit (audit : SafetyAudit) :
    Handler.Meets others (fun _ => P) (addAudit audit)
      (fun _ _ g => P g ∧ audit ∈ g.audits.rows) fun _ _ => P := by
  refine Handler.meets_note _ (fun d g u g' h heq => ?_) fun d g f h _ => h
  cases hinsert : g.audits.insert? audit with
  | none => simp [hinsert] at heq
  | some audits =>
    simp only [hinsert, Except.ok.injEq, Prod.mk.injEq, true_and] at heq
    obtain rfl := heq
    refine ⟨hP g _ ⟨rfl, fun x hx => ⟨x, (Table.mem_insert hinsert).2 (.inl hx), rfl, rfl, rfl⟩⟩ h,
      ?_⟩
    exact (Table.mem_insert hinsert).2 (.inr rfl)

theorem meets_bound (auditId requestId : Id) :
    Handler.Meets others (fun _ => P) (bindAudit auditId requestId)
      (fun _ _ => P) fun _ _ => P := by
  refine Handler.meets_note _ (fun d g u g' h heq => ?_) fun d g f h _ => h
  simp only [Except.ok.injEq, Prod.mk.injEq, true_and] at heq
  obtain rfl := heq
  refine hP g _ ⟨rfl, fun x hx => ?_⟩ h
  dsimp only
  refine ⟨_, Table.mem_update.2 ⟨x, hx, rfl⟩, ?_⟩
  split_ifs <;> exact ⟨rfl, rfl, rfl⟩

end Audits

/-! ## The two checks -/

theorem outcome_allowed {x : SafetyAnswer} {o : SafetyOutcome} (h : x.outcome = .ok o)
    (havailable : o.outcome ≠ "unavailable") (hblocked : o.outcome ≠ "blocked") :
    (∃ decision, x = .decision decision ∧ decision.allowed) ∧ o.outcome = "allowed" := by
  cases x with
  | decision decision =>
    obtain rfl := Except.ok.inj h
    cases hallowed : decision.allowed with
    | true => exact ⟨⟨decision, rfl, hallowed⟩, rfl⟩
    | false => simp [hallowed] at hblocked
  | unavailable =>
    obtain rfl := Except.ok.inj h
    exact absurd rfl havailable
  | interrupted i => cases h

theorem meets_input : Handler.Meets others (fun _ g => g.called = []) (checkInput a)
    (fun stop _ g => g.called = [] ∧ (∀ response, stop = some response → response.Vetted a g) ∧
      (stop = none → Cleared a "input" a.inputAuditId a.upstreamPayload g))
        fun _ _ g => g.called = [] := by
  unfold checkInput
  cases hsafety : a.contentSafety with
  | none =>
    refine Handler.meets_pure _ fun d g h => ⟨h, by simp, fun _ check hcheck => ?_⟩
    rw [hsafety] at hcheck
    cases hcheck
  | some check =>
    refine Handler.meets_bind
      (Q := fun o _ g => (check "input" a.payload.model a.upstreamPayload).outcome =
        .ok o ∧ g.called = [])
      (Handler.meets_lift _ (fun o ho d g h => ⟨ho, h⟩) fun _ _ _ _ h => h) fun o =>
        Handler.meets_assume fun ho => ?_
    refine Handler.meets_bind (meets_audit (fun g g' hunder h => hunder.called.trans h) _) fun _ =>
      ?_
    split_ifs with havailable hblocked
    · exact Handler.meets_pure _ fun d g h => ⟨h.1, by rintro _ ⟨⟩; trivial, by simp⟩
    · exact Handler.meets_pure _ fun d g h => ⟨h.1, by rintro _ ⟨⟩; trivial, by simp⟩
    · obtain ⟨hallowed, houtcome⟩ := outcome_allowed ho havailable hblocked
      refine Handler.meets_pure _ fun d g h => ⟨h.1, by simp, fun _ check' hcheck => ?_⟩
      obtain rfl := Option.some.inj (hsafety.symm.trans hcheck)
      exact ⟨hallowed, _, h.2, rfl, rfl, houtcome⟩

/-- What the output check says of a result. -/
def Judged (a : ChatArgs) (result : Json) (outcome : Option String) (g : Own) : Prop :=
  outcome ≠ some "unavailable" → outcome ≠ some "blocked" → Cleared a "output" a.outputAuditId
    (choicesOf result) g

theorem meets_output (result : Json) : Handler.Meets others (fun _ => Ready c.args)
    (checkOutput c result)
    (fun outcome _ g => Ready c.args g ∧ Judged c.args result outcome g)
      fun _ _ => Ready c.args := by
  unfold checkOutput
  cases hsafety : c.args.contentSafety with
  | none =>
    refine Handler.meets_pure _ fun d g h => ⟨h, fun _ _ check hcheck => ?_⟩
    rw [hsafety] at hcheck
    cases hcheck
  | some check =>
    refine Handler.meets_bind
      (Q := fun o _ g => (check "output" c.args.payload.model (choicesOf result)).outcome =
        .ok o ∧ Ready c.args g)
      (Handler.meets_lift _ (fun o ho d g h => ⟨ho, h⟩) fun _ _ _ _ h => h) fun o =>
        Handler.meets_assume fun ho => ?_
    refine Handler.meets_bind (meets_audit (fun g g' hunder h => h.under hunder) _) fun _ => ?_
    refine Handler.meets_pure _ fun d g h => ⟨h.1, fun havailable hblocked check' hcheck => ?_⟩
    obtain ⟨hallowed, houtcome⟩ :=
      outcome_allowed ho (fun h => havailable (congrArg some h)) fun h => hblocked (congrArg some h)
    obtain rfl := Option.some.inj (hsafety.symm.trans hcheck)
    exact ⟨hallowed, _, h.2, rfl, rfl, houtcome⟩

/-! ## The result of a client -/

theorem get?_setDefault (items : List (PyStr × Json)) (key : String) (value : Json)
    (hkey : py key ≠ py "choices") :
    (Json.obj (setDefault items key value)).get? (py "choices") =
      (Json.obj items).get? (py "choices") := by
  unfold setDefault
  split_ifs
  · rfl
  · simp [Json.get?, List.find?_append, hkey]

theorem choicesOf_completed (c : Admitted) (result : Json) :
    choicesOf (completed c result) = choicesOf result := by
  cases result with
  | obj items =>
    have hkeys : py "id" ≠ py "choices" ∧ py "object" ≠ py "choices" ∧ py "created" ≠ py "choices" ∧
        py "model" ≠ py "choices" := by decide +kernel
    simp only [completed, choicesOf, get?_setDefault _ _ _ hkeys.1, get?_setDefault _ _ _ hkeys.2.1,
      get?_setDefault _ _ _ hkeys.2.2.1, get?_setDefault _ _ _ hkeys.2.2.2]
  | _ => rfl

theorem vetted_refuse (statusCode : Int) (message code : String) :
    (c.refuse statusCode message code).Vetted a g := True.intro

section Client

variable {index : Nat} {client : Client}

theorem vetted_answer {result : Json} {outcome : Option String} {response : Response}
    (hjudged : Judged c.args result outcome g)
    (h : answer c index client result outcome = .ok response) : response.Vetted c.args g := by
  unfold answer respond at h
  by_cases havailable : outcome = some "unavailable"
  · rw [if_pos havailable] at h
    obtain rfl := Except.ok.inj h
    exact vetted_refuse ..
  by_cases hblocked : outcome = some "blocked"
  · rw [if_neg havailable, if_pos hblocked] at h
    obtain rfl := Except.ok.inj h
    exact vetted_refuse ..
  have hcleared : Cleared c.args "output" c.args.outputAuditId
      (choicesOf (completed c result)) g := by
    rw [choicesOf_completed]
    exact hjudged havailable hblocked
  rw [if_neg havailable, if_neg hblocked] at h
  split_ifs at h <;> cases h <;> exact hcleared

theorem meets_buffered : Handler.Meets others (fun _ => Ready c.args) (buffer c index client)
    (fun response _ g => Ready c.args g ∧ response.Vetted c.args g) fun _ _ => Ready c.args := by
  unfold buffer
  refine Handler.meets_bind (Q := fun _ _ => Ready c.args)
    (Handler.meets_lift _ (fun _ _ _ _ h => h) fun _ _ _ _ h => h) fun result => ?_
  refine Handler.meets_bind (meets_aside _) fun _ =>
    Handler.meets_bind (meets_output result) fun outcome => ?_
  refine Handler.meets_bind
    ((meets_aside (P := fun g => Ready c.args g ∧ Judged c.args result outcome g) _).mono
    (fun _ _ h => h) (fun _ _ _ h => h) fun _ _ _ h => h.1) fun settled => ?_
  split_ifs
  · exact Handler.meets_lift _ (fun response hr d g h => ⟨h.1, vetted_answer h.2 hr⟩)
      fun _ _ _ _ h => h.1
  · exact Handler.meets_pure _ fun d g h => ⟨h.1, vetted_refuse ..⟩

theorem meets_forwarded (openStream : Json → Except Failure UpstreamStream)
    (hsafety : c.args.contentSafety = none) :
    Handler.Meets others (fun _ => Ready c.args) (forward c index client openStream)
      (fun response _ g => Ready c.args g ∧ response.Vetted c.args g) fun _ _ => Ready c.args := by
  unfold forward
  refine Handler.meets_bind (Q := fun _ _ => Ready c.args)
    (Handler.meets_lift _ (fun _ _ _ _ h => h) fun _ _ _ _ h => h) fun stream => ?_
  refine Handler.meets_bind (Handler.meets_tryExcept (fun _ _ => Ready c.args) (meets_aside _)
    fun f => ?_) fun _ => ?_
  · unfold closeAndRaise
    split <;> exact Handler.meets_raise _ fun _ _ h => h
  · refine Handler.meets_lift _ (fun response hr d g h => ⟨h, ?_⟩) fun _ _ _ _ h => h
    split_ifs at hr
    obtain rfl := Except.ok.inj hr
    exact hsafety

theorem meets_called : Handler.Meets others (fun _ => Ready c.args)
    (noteCall index c.args.upstreamPayload)
    (fun _ _ => Ready c.args) fun _ _ => Ready c.args := by
  refine Handler.meets_note _ (fun d g u g' h heq => ?_) fun d g f h _ => h
  simp only [Except.ok.injEq, Prod.mk.injEq, true_and] at heq
  obtain rfl := heq
  refine ⟨fun call hcall => ?_, h.cleared⟩
  rcases List.mem_append.1 hcall with hcall | hcall
  · exact h.sent call hcall
  · obtain rfl := List.mem_singleton.1 hcall
    exact ⟨rfl, h.cleared⟩

theorem meets_served : Handler.Meets others (fun _ => Ready c.args) (serve c index client)
    (fun response _ g => Ready c.args g ∧ response.Vetted c.args g) fun _ _ => Ready c.args := by
  unfold serve
  refine Handler.meets_bind meets_called fun _ => ?_
  cases hopen : c.args.openStream client with
  | none => exact meets_buffered
  | some openStream =>
    obtain ⟨-, hdirect⟩ := Option.filter_eq_some_iff.1 hopen
    rw [ChatArgs.directUpstreamStream, Bool.and_eq_true, Option.isNone_iff_eq_none] at hdirect
    exact meets_forwarded openStream hdirect.2

theorem meets_handled (last : Bool) (f : Failure) : Handler.Meets others (fun _ => Ready c.args)
    (handle c index client last f)
    (fun served _ g => Ready c.args g ∧ ∀ response, served = .ok response →
      response.Vetted c.args g)
    fun _ _ => Ready c.args := by
  have refused {statusCode : Int} {message code : String} :
    Handler.Meets others (fun _ => Ready c.args)
      (pure (.ok (c.refuse statusCode message code)) : Chat (Except ProviderError Response))
      (fun served _ g => Ready c.args g ∧ ∀ response, served = .ok response →
        response.Vetted c.args g)
      fun _ _ => Ready c.args :=
    Handler.meets_pure _ fun d g h => ⟨h, by rintro _ ⟨⟩; exact vetted_refuse ..⟩
  cases f with
  | provider e =>
    refine Handler.meets_bind (meets_aside _) fun _ => ?_
    split_ifs
    · exact Handler.meets_bind (meets_aside _) fun _ => refused
    · exact Handler.meets_pure _ fun d g h => ⟨h, by simp⟩
    · exact Handler.meets_bind (meets_aside _) fun _ => refused
  | cancelled =>
    exact Handler.meets_bind (meets_aside _) fun _ => Handler.meets_raise _ fun _ _ h => h
  | raised | other => exact Handler.meets_bind (meets_aside _) fun _ => refused

end Client

theorem meets_tried (clients : List Client) (lastError : Option ProviderError) (index : Nat) :
    Handler.Meets others (fun _ => Ready c.args) (tryClients c lastError index clients)
      (fun response _ g => Ready c.args g ∧ response.Vetted c.args g) fun _ _ => Ready c.args := by
  induction clients generalizing lastError index with
  | nil =>
    exact Handler.meets_bind (meets_aside _) fun _ => Handler.meets_pure _ fun d g h =>
      ⟨h, vetted_refuse ..⟩
  | cons client rest ih =>
    refine Handler.meets_bind (Handler.meets_tryExcept (fun _ _ => Ready c.args)
      (Handler.meets_map meets_served fun response d g h => ⟨h.1, by rintro _ ⟨⟩; exact h.2⟩)
      fun f => meets_handled rest.isEmpty f) fun served => ?_
    cases served with
    | ok response => exact Handler.meets_pure _ fun d g h => ⟨h.1, h.2 response rfl⟩
    | error e =>
      exact (ih (some e) (index + 1)).mono (fun _ _ h => h.1) (fun _ _ _ h => h) fun _ _ _ h => h

theorem meets_admitted {P : Own → Prop} : Handler.Meets others (fun _ => P) (reserveOrRefuse a)
    (fun admitted _ g => P g ∧ ∀ response, admitted = .error response →
      response.Vetted a g) fun _ _ => P := by
  refine Handler.meets_tryExcept (fun _ _ => P) (Handler.meets_map (meets_aside _) fun v d g h =>
    ⟨h, by simp⟩) fun f => ?_
  split
  · exact Handler.meets_pure _ fun d g h => ⟨h, by rintro _ ⟨⟩; trivial⟩
  · exact Handler.meets_raise _ fun _ _ h => h

theorem meets_vetted : Handler.Meets others (fun _ g => g.called = []) (chatCompletions a)
    (fun response _ g => Sent a g ∧ response.Vetted a g) fun _ _ => Sent a := by
  have refused {statusCode : Int} {message code : String} {requestId : Option Id} :
    Handler.Meets others
      (fun _ g => g.called = []) (pure (.error statusCode message code requestId) : Chat Response)
      (fun response _ g => Sent a g ∧ response.Vetted a g) fun _ _ => Sent a :=
    Handler.meets_pure _ fun d g h => ⟨sent_of_nil h, trivial⟩
  unfold chatCompletions
  split_ifs
  · exact refused
  · exact refused
  · exact refused
  refine Handler.meets_bind (meets_input.mono (fun _ _ h => h) (fun _ _ _ h => h) fun _ _ _ h =>
    sent_of_nil h) fun stop => ?_
  cases stop with
  | some response => exact Handler.meets_pure _ fun d g h => ⟨sent_of_nil h.1, h.2.1 response rfl⟩
  | none =>
    refine Handler.meets_bind ((meets_admitted (P := Ready a)).mono
      (fun _ _ h => ⟨sent_of_nil h.1, h.2.2 rfl⟩) (fun _ _ _ h => h) fun _ _ _ h =>
        h.sent) fun admitted => ?_
    cases admitted with
    | error response => exact Handler.meets_pure _ fun d g h => ⟨h.1.sent, h.2 response rfl⟩
    | ok v =>
      have bound : Handler.Meets others (fun _ => Ready a) (bindInputAudit a v.requestId)
        (fun _ _ => Ready a)
          fun _ _ => Ready a := by
        unfold bindInputAudit
        split_ifs
        · exact meets_bound (fun _ _ hunder h => h.under hunder) ..
        · exact Handler.meets_pure _ fun _ _ h => h
      refine Handler.meets_bind (bound.mono (fun _ _ h => h.1) (fun _ _ _ h => h) fun _ _ _ h =>
        h.sent) fun _ => ?_
      exact (meets_tried (c := ⟨a, v⟩) a.eligible none 0).mono (fun _ _ h => h)
        (fun _ _ _ h => ⟨h.1.sent, h.2⟩)
        fun _ _ _ h => h.sent

/-- Whatever others do meanwhile, a client is called with nothing but the payload that the input
check has allowed, and nothing that a client has made is returned before the output check has
allowed it. -/
theorem content_cleared (d : DB) (turns : List (List Neighbour))
    (audits : Table SafetyAudit SafetyAudit.id)
    {result : Except Failure Response} {w : Scene DB Neighbour Own}
    (hrun : chatCompletions a ⟨d, turns, ⟨[], audits⟩⟩ = (result, w)) :
    Sent a w.own ∧ ∀ response, result = .ok response → response.Vetted a w.own := by
  have hmeets : Handler.Meets (fun _ => True) (fun _ g => g.called = []) (chatCompletions a)
      (fun response _ g => Sent a g ∧ response.Vetted a g) fun _ _ => Sent a := meets_vetted
  have hholds : Handler.Holds (fun _ => True) (fun _ g => g.called = [])
      (⟨d, turns, ⟨[], audits⟩⟩ : Scene DB Neighbour Own) := ⟨fun _ _ _ _ => trivial, rfl⟩
  cases result with
  | ok response =>
    obtain ⟨-, hsent, hvetted⟩ := hmeets.ok hholds hrun
    exact ⟨hsent, by rintro _ ⟨⟩; exact hvetted⟩
  | error f => exact ⟨(hmeets.error hholds hrun).2, by simp⟩

/-- The service allows the prompt, and then the answer. -/
def clearedAnswers : ChatArgs := { secondAnswers with
  contentSafety := some fun _ _ _ => .decision ⟨true, "ok", none⟩ }

theorem content_cleared_second :
    let run := chatCompletions clearedAnswers
      ⟨Run.after Neighbour.act shop ((chat.take 3).map .op), besideIt, ⟨[], .empty⟩⟩
    run.2.own.called.map Prod.fst = [0, 1] ∧ Sent clearedAnswers run.2.own ∧
      ∀ response, run.1 = .ok response → response.Vetted clearedAnswers run.2.own := by
  intro run
  exact ⟨by decide +kernel, content_cleared _ besideIt .empty rfl⟩

end Kunlun.Completions
