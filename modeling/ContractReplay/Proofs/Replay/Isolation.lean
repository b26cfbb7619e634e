import ContractReplay.Proofs.Replay.Binding
import ContractReplay.Proofs.Replay.Stages
import ContractReplay.Proofs.Report.Counts
import Mathlib.Data.List.Infix

/-!
# Cases are replayed apart

A run is taken apart into episodes, one for each selected case: the call that the case led to
with the answer of the client, if it led to one, and the outcome.  The client sees the calls of
the episodes one after the other and nothing else.  Its answers may depend on all that it has
seen before, but the outcome of a case is the one that the case has on its own, against a client
that knows no other answer than the one to this case.  So what goes wrong in one case is not
seen in another.
-/

namespace ContractReplay

/-! ## The selected cases -/

namespace Text

theorem occursIn_iff
    {part text : List Char} :
    occursIn part text = true ↔ part <:+: text := by
  induction text with
  | nil => simp [occursIn]
  | cons char later ih =>
      rw [occursIn, Bool.or_eq_true, ih, List.isPrefixOf_iff_prefix, List.infix_cons_iff]

end Text

/-- That a case is one of those that a run is for: its name contains a text, if one is given. -/
def Case.SelectedBy : Option String → Case → Prop
  | none, _ => True
  | some text, case => text.toList <:+: case.name.toList

instance : ∀ (part : Option String) (case : Case), Decidable (case.SelectedBy part)
  | none, _ => inferInstanceAs (Decidable True)
  | some text, case => inferInstanceAs (Decidable (text.toList <:+: case.name.toList))

theorem filtered_eq_filter
    (suite : Suite)
    (part : Option String) :
    suite.filtered part = suite.cases.filter fun case => case.SelectedBy part := by
  cases part with
  | none =>
      rw [Suite.filtered, List.filter_eq_self.mpr]
      intro case _
      exact decide_eq_true trivial
  | some text =>
      rw [Suite.filtered]
      apply List.filter_congr
      intro case _
      rw [Bool.eq_iff_iff, Text.contains, Text.occursIn_iff, decide_eq_true_iff]
      rfl

/-! ## Episodes -/

/-- A call that a client received, and its answer. -/
abbrev Exchange := Call × Answer

/-- What a run made of a case: the exchange that the case led to, if it led to one, and the
outcome. -/
structure Episode where
  case : Case
  exchange : Option Exchange
  outcome : Outcome

namespace Client

variable {σ : Type}

/-- The client that answers like another and keeps a transcript, the latest exchange first. -/
def transcribing (client : Client σ) : Client (σ × List Exchange) where
  methods := client.methods
  catalog := client.catalog
  call := fun method arguments (state, transcript) =>
    let (answer, next) := client.call method arguments state
    (answer, next, (⟨method.name, arguments⟩, answer) :: transcript)

/-- The client with some methods and a catalog that knows one answer only. -/
def answering (methods : List Method) (catalog : Catalog) (answer : Answer) : Client Unit where
  methods := methods
  catalog := catalog
  call := fun _ _ _ => (answer, ())

/-- The exchange that a case leads to in a state, if it leads to one. -/
def exchangeOf (client : Client σ) (case : Case) (state : σ) : Option Exchange :=
  match client.prepare case with
  | .error _ => none
  | .ok (method, arguments) =>
    some (⟨method.name, arguments⟩, (client.call method arguments state).1)

/-- The episodes of a run of some cases from a state. -/
def episodes (client : Client σ) (most : Nat) (state : σ) : List Case → List Episode
  | [] => []
  | case :: later =>
    ⟨case, client.exchangeOf case state, (client.replayCase most case state).1.outcome⟩ ::
      client.episodes most (client.replayCase most case state).2 later

end Client

/-- That a case is called for: its method is published, and its request fits the method. -/
def Case.CallsFor {σ : Type} (client : Client σ) (case : Case) (method : Method) : Prop :=
  resolveMethod client.methods case.method = .ok method ∧
    ∀ member ∈ case.request, method.Fits client.catalog member

/-- That an episode tells of its own case and of no other. -/
structure Episode.StandsAlone
    {σ : Type}
    (client : Client σ)
    (most : Nat)
    (episode : Episode) : Prop where
  /-- The outcome has the name of the case. -/
  named : episode.outcome.name = episode.case.name
  /-- There is an exchange exactly where the method and the whole request fit. -/
  called :
    (∃ exchange, episode.exchange = some exchange) ↔
      ∃ method, episode.case.CallsFor client method
  /-- The call is the one that the case asks for. -/
  asked :
    ∀ exchange,
      episode.exchange = some exchange →
        ∃ method,
          resolveMethod client.methods episode.case.method = .ok method ∧
            exchange.1.method = method.name ∧
              bindRequest client.catalog method episode.case.request =
                .ok exchange.1.arguments
  /-- The outcome is the one that the case has alone, with the same answer to its own call. -/
  alone :
    ∀ answer,
      (∀ exchange, episode.exchange = some exchange → exchange.2 = answer) →
        episode.outcome =
          ((Client.answering client.methods client.catalog answer).replayCase most
            episode.case ()).1.outcome

/-! ## One case -/

section

variable {σ : Type} {client : Client σ} {case : Case} {most : Nat}

theorem name_replayCase
    (client : Client σ)
    (most : Nat)
    (case : Case)
    (state : σ) :
    (client.replayCase most case state).1.outcome.name = case.name := by
  have named : ∀ check, (CaseResult.ofCheck case.name check).outcome.name = case.name := by
    intro check
    cases check <;> rfl
  cases prepared : client.prepare case with
  | error failure =>
      rw [replayCase_of_refused prepared]
      exact named _
  | ok call =>
      rw [replayCase_of_answer prepared rfl]
      exact named _

theorem prepare_eq_ok_iff
    {method : Method}
    {arguments : Arguments} :
    client.prepare case = .ok (method, arguments) ↔
      resolveMethod client.methods case.method = .ok method ∧
        bindRequest client.catalog method case.request = .ok arguments := by
  rw [Client.prepare]
  cases resolveMethod client.methods case.method with
  | error failure => simp
  | ok found =>
      simp only [Coercion.map_eq_ok_iff, Prod.mk.injEq, Except.ok.injEq]
      constructor
      · rintro ⟨bound, isBound, rfl, rfl⟩
        exact ⟨rfl, isBound⟩
      · rintro ⟨rfl, isBound⟩
        exact ⟨arguments, isBound, rfl, rfl⟩

/-- A case makes its call exactly when its method is published and its request fits. -/
theorem exists_prepare_eq_ok_iff :
    (∃ call, client.prepare case = .ok call) ↔ ∃ method, case.CallsFor client method := by
  simp only [Prod.exists, prepare_eq_ok_iff, exists_and_left, exists_bindRequest_eq_ok_iff]
  rfl

theorem exchangeOf_eq_some_iff
    {state : σ}
    {exchange : Exchange} :
    client.exchangeOf case state = some exchange ↔
      ∃ method arguments,
        client.prepare case = .ok (method, arguments) ∧
          (⟨method.name, arguments⟩, (client.call method arguments state).1) = exchange := by
  rw [Client.exchangeOf]
  cases client.prepare case with
  | error failure => simp
  | ok call => simp [Prod.ext_iff]

/-- A case ends as it does against a client with the same answer to its call and no other. -/
theorem replayCase_answering
    (client : Client σ)
    (most : Nat)
    (case : Case)
    (state : σ)
    (answer : Answer)
    (answered :
      ∀ exchange, client.exchangeOf case state = some exchange → exchange.2 = answer) :
    (client.replayCase most case state).1 =
      ((Client.answering client.methods client.catalog answer).replayCase most case ()).1 := by
  have samePreparation :
      (Client.answering client.methods client.catalog answer).prepare case =
        client.prepare case :=
    rfl
  cases prepared : client.prepare case with
  | error failure =>
      rw [replayCase_of_refused prepared,
        replayCase_of_refused (samePreparation.trans prepared)]
  | ok call =>
      rcases call with ⟨method, arguments⟩
      have sameAnswer : (client.call method arguments state).1 = answer :=
        answered _ (exchangeOf_eq_some_iff.mpr ⟨method, arguments, prepared, rfl⟩)
      rw [replayCase_of_answer prepared rfl,
        replayCase_of_answer (samePreparation.trans prepared) rfl, sameAnswer]
      rfl

/-- The episode of a case in a state of the client. -/
theorem standsAlone_exchangeOf
    (client : Client σ)
    (most : Nat)
    (case : Case)
    (state : σ) :
    Episode.StandsAlone client most
      ⟨case, client.exchangeOf case state, (client.replayCase most case state).1.outcome⟩ where
  named := name_replayCase client most case state
  called := by
    rw [← exists_prepare_eq_ok_iff]
    constructor
    · rintro ⟨exchange, exchanged⟩
      rcases exchangeOf_eq_some_iff.mp exchanged with ⟨method, arguments, prepared, -⟩
      exact ⟨(method, arguments), prepared⟩
    · rintro ⟨⟨method, arguments⟩, prepared⟩
      exact ⟨_, exchangeOf_eq_some_iff.mpr ⟨method, arguments, prepared, rfl⟩⟩
  asked := by
    intro exchange exchanged
    rcases exchangeOf_eq_some_iff.mp exchanged with ⟨method, arguments, prepared, rfl⟩
    rcases prepare_eq_ok_iff.mp prepared with ⟨resolved, bound⟩
    exact ⟨method, resolved, rfl, bound⟩
  alone := by
    intro answer answered
    exact congrArg CaseResult.outcome (replayCase_answering client most case state answer answered)

/-- The exchange of a case goes to the transcript, and nothing else is changed. -/
theorem replayCase_transcribing
    (client : Client σ)
    (most : Nat)
    (case : Case)
    (state : σ)
    (transcript : List Exchange) :
    client.transcribing.replayCase most case (state, transcript) =
      ((client.replayCase most case state).1, (client.replayCase most case state).2,
        (client.exchangeOf case state).toList ++ transcript) := by
  have samePreparation : client.transcribing.prepare case = client.prepare case := rfl
  rw [Client.exchangeOf]
  cases prepared : client.prepare case with
  | error failure =>
      rw [replayCase_of_refused prepared,
        replayCase_of_refused (samePreparation.trans prepared)]
      rfl
  | ok call =>
      rcases call with ⟨method, arguments⟩
      rw [replayCase_of_answer prepared rfl,
        replayCase_of_answer (samePreparation.trans prepared) rfl]
      rfl

end

/-! ## A run -/

section

variable {σ : Type}

theorem replayCases_cons
    (client : Client σ)
    (most : Nat)
    (state : σ)
    (case : Case)
    (later : List Case) :
    client.replayCases most state (case :: later) =
      ((client.replayCase most case state).1 ::
          (client.replayCases most (client.replayCase most case state).2 later).1,
        (client.replayCases most (client.replayCase most case state).2 later).2) :=
  rfl

/-- There is one episode for each case, in the order of the cases. -/
theorem cases_episodes
    (client : Client σ)
    (most : Nat)
    (state : σ)
    (cases : List Case) :
    (client.episodes most state cases).map (·.case) = cases := by
  induction cases generalizing state with
  | nil => rfl
  | cons case later ih => rw [Client.episodes, List.map_cons, ih]

theorem outcomes_episodes
    (client : Client σ)
    (most : Nat)
    (state : σ)
    (cases : List Case) :
    (client.episodes most state cases).map (·.outcome) =
      (client.replayCases most state cases).1.map (·.outcome) := by
  induction cases generalizing state with
  | nil => rfl
  | cons case later ih => rw [Client.episodes, replayCases_cons, List.map_cons, ih, List.map_cons]

/-- Whatever happened before, every episode of a run stands alone. -/
theorem standsAlone_of_mem_episodes
    (client : Client σ)
    (most : Nat)
    (state : σ)
    (cases : List Case) :
    ∀ episode ∈ client.episodes most state cases, episode.StandsAlone client most := by
  induction cases generalizing state with
  | nil => simp [Client.episodes]
  | cons case later ih =>
      rw [Client.episodes, List.forall_mem_cons]
      exact ⟨standsAlone_exchangeOf client most case state, ih _⟩

/-- The transcript of a run has the exchanges of its episodes, in their order. -/
theorem replayCases_transcribing
    (client : Client σ)
    (most : Nat)
    (state : σ)
    (transcript : List Exchange)
    (cases : List Case) :
    client.transcribing.replayCases most (state, transcript) cases =
      ((client.replayCases most state cases).1, (client.replayCases most state cases).2,
        ((client.episodes most state cases).filterMap (·.exchange)).reverse ++ transcript) := by
  induction cases generalizing state transcript with
  | nil => rfl
  | cons case later ih =>
      rw [replayCases_cons, replayCase_transcribing, ih, replayCases_cons, Client.episodes]
      cases client.exchangeOf case state with
      | none => rfl
      | some exchange => simp

end

/--
Cases are replayed apart.  For every client, state, suite and selection, the run is a list of
episodes: one for each selected case, in the order of the suite.  The outcomes of the run are
those of the episodes, the exchanges of the episodes are all that the client sees, and every
episode stands alone.  The report has these outcomes and counts how many of them passed and
failed.
-/
theorem replay_isolated
    {σ : Type}
    (client : Client σ)
    (part : Option String)
    (most : Nat)
    (suite : Suite)
    (state : σ) :
    ∃ episodes : List Episode,
      episodes.map (·.case) = suite.cases.filter (fun case => case.SelectedBy part) ∧
        (client.replay part most suite state).1.map (·.outcome) = episodes.map (·.outcome) ∧
          client.transcribing.replay part most suite (state, []) =
            ((client.replay part most suite state).1, (client.replay part most suite state).2,
              (episodes.filterMap (·.exchange)).reverse) ∧
            (∀ episode ∈ episodes, episode.StandsAlone client most) ∧
              (Report.ofResults (client.replay part most suite state).1).outcomes.toList =
                  episodes.map (·.outcome) ∧
                (Report.ofResults (client.replay part most suite state).1).passed =
                    (episodes.map (·.outcome)).countP (·.verdict = .passed) ∧
                  (Report.ofResults (client.replay part most suite state).1).failed =
                    (episodes.map (·.outcome)).countP (·.verdict ≠ .passed) := by
  have outcomes := outcomes_episodes client most state (suite.filtered part)
  refine ⟨client.episodes most state (suite.filtered part), ?_, outcomes.symm, ?_, ?_, ?_, ?_, ?_⟩
  · rw [cases_episodes, filtered_eq_filter]
  · rw [Client.replay, replayCases_transcribing, List.append_nil]
    rfl
  · exact standsAlone_of_mem_episodes client most state _
  · rw [outcomes, Report.ofResults, Report.outcomes_ofOutcomes]
    rfl
  · rw [outcomes, Report.ofResults, Report.passed_ofOutcomes]
    rfl
  · rw [outcomes, Report.ofResults, Report.failed_ofOutcomes]
    rfl

end ContractReplay
