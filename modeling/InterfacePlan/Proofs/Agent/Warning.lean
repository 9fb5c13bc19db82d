import InterfacePlan.Proofs.Agent.Echo
import InterfacePlan.Proofs.Agent.Lifecycle
import InterfacePlan.Proofs.Plan.Duplicates

set_option autoImplicit false

namespace InterfacePlan

open Log (Context Event)

variable {σ : Type}

/-- An event that an answer of the oracle comes with, inside a context. -/
def Oracle.Logs (oracle : Oracle σ) (context : Context) (event : Event) : Prop :=
  ∃ messages state, ∃ own ∈ (oracle.chat messages state).events, event = own.within context

theorem Answer.attempted_of_holds {repair : Bool} {answer : Answer σ} {members : Members}
    (holds : answer.Holds repair members) : answer.attempted repair = .ok (.ok members) := by
  obtain ⟨reply, given, extracted⟩ := holds
  rw [attempted, given]
  simp only [extracted]

namespace Synthesis

variable {oracle : Oracle σ} {repair : Bool}

/-- The events before the end of a synthesis: those of the oracle, and steps to other states. -/
inductive Preliminary (oracle : Oracle σ) : Event → Prop
  | own {messages : List ChatMessage} {state : σ} {event : Event}
      (inside : event ∈ (oracle.chat messages state).events) : Preliminary oracle event
  | step {state : SynthesisState} {fields : Context} (early : state ≠ .validated)
      (apart : "state" ∉ fields.map (·.1)) : Preliminary oracle (reached state fields)

theorem attemptEvents_preliminary (number : Nat) (prompt : List Text.Code) (start : σ) :
    ∀ event ∈ attemptEvents repair number (answerTo oracle prompt start),
      Preliminary oracle event := by
  refine List.forall_mem_cons.mpr ⟨.step (by decide) (by simp), ?_⟩
  refine List.forall_mem_append.mpr ⟨fun event inside => .own inside, ?_⟩
  split
  · exact List.forall_mem_singleton.mpr (.step (by decide) (by simp))
  · exact List.forall_mem_nil _

theorem objectEvents_preliminary (prompt : List Text.Code) (start : σ) :
    ∀ event ∈ objectEvents oracle repair prompt start, Preliminary oracle event := by
  refine List.forall_mem_append.mpr ⟨attemptEvents_preliminary 1 prompt start, ?_⟩
  split
  · refine List.forall_mem_cons.mpr ⟨.step (by decide) (by simp), ?_⟩
    exact attemptEvents_preliminary 2 _ _
  · exact List.forall_mem_nil _

/-- The event is no warning about ids and no step to `validated`. -/
def Inconspicuous (event : Event) : Prop :=
  event.name ≠ "duplicate_node_ids" ∧ step? event ≠ some ⟨.validated, none⟩

theorem Preliminary.logs_or_inconspicuous {event : Event} (preliminary : Preliminary oracle event)
    (context : Context) :
    oracle.Logs context (event.within context) ∨ Inconspicuous (event.within context) := by
  cases preliminary with
  | own inside => exact .inl ⟨_, _, event, inside, rfl⟩
  | @step state fields early apart =>
      refine .inr ⟨?_, ?_⟩
      · show "synthesis_state" ≠ "duplicate_node_ids"
        decide
      · rw [step?_reached context state apart]
        intro same
        exact early (congrArg Step.state (Option.some.inj same))

/-- The warning that a synthesis logs about ids that occur more than once. -/
structure WarnsOf (event : Event) (ids : List String) : Prop where
  level : event.level = .warning
  name : event.name = "duplicate_node_ids"
  lists : event.fields.get? "ids" = some (.list (ids.map .text))

/-- The end of a synthesis that gives a plan: at most one warning, and the step to `validated`. -/
structure Concludes (plan : Plan) (warnings : List Event) (last : Event) : Prop where
  silent : plan.root.duplicateIds = [] → warnings = []
  warned : plan.root.duplicateIds ≠ [] →
    ∃ warning, warnings = [warning] ∧ WarnsOf warning plan.root.duplicateIds
  validated : step? last = some ⟨.validated, none⟩
  counts : last.fields.get? "nodes" = some (.int plan.ids.length)

theorem acceptEvents_conclude {members : Members} {plan : Plan}
    (valid : Plan.validate (.object members) = .ok plan) (context : Context) :
    ∃ warnings last, (acceptEvents members).map (·.within context) = warnings ++ [last] ∧
      Concludes plan warnings last := by
  have counted : plan.root.preorder.length = plan.ids.length := (List.length_map _).symm
  have named : "state" ∉ ([("nodes", .int plan.ids.length)] : Context).map (·.1) := by simp
  have validated := step?_reached context .validated named
  have distinct : ((reached .validated [("nodes", .int plan.ids.length)]).fields.map (·.1)).Nodup := by
    simp [reached]
  have counts : ((reached .validated [("nodes", .int plan.ids.length)]).within context).fields.get?
      "nodes" = some (.int plan.ids.length) :=
    Context.get?_setAll distinct context "nodes"
  unfold acceptEvents
  simp only [valid, counted]
  by_cases none : plan.root.duplicateIds = []
  · rw [if_neg (not_not.mpr none)]
    refine ⟨[], _, rfl, fun _ => rfl, ?_, validated, counts⟩
    intro some
    exact absurd none some
  · rw [if_pos none, List.map_append]
    refine ⟨_, _, rfl, ?_, ?_, validated, counts⟩
    · intro some
      exact absurd some none
    · intro _
      have single : (([("ids", .list (plan.root.duplicateIds.map .text))] : Context).map (·.1)).Nodup :=
        List.nodup_singleton _
      exact ⟨_, rfl, rfl, rfl, Context.get?_setAll single context "ids"⟩

/-- Of the ids of a tree, which are taken in pre-order whatever the kinds of its nodes, exactly those that
occur more than once are listed, each once and in the order of first occurrence. Before a synthesis that
gives a plan ends, it warns of them once if there are any, and at its end it counts the ids. -/
theorem synthesize_duplicates (oracle : Oracle σ) (repair : Bool) (mode : String) (message : List Text.Code)
    (current : Option Plan) (journal : Journal σ) :
    (∀ id kind props children, (Node.mk id kind props children).ids =
      id :: (children.getD []).flatMap Node.ids) ∧
    (∀ root : Node, ListsRepeated root.ids root.duplicateIds ∧
      (root.duplicateIds = [] ↔ root.ids.Nodup)) ∧
    ∀ plan after, synthesize oracle repair mode message current journal = (.ok plan, after) →
      ∃ earlier warnings last, after.events = journal.events ++ (earlier ++ (warnings ++ [last])) ∧
        (∀ event ∈ earlier, oracle.Logs journal.context event ∨ Inconspicuous event) ∧
        Concludes plan warnings last := by
  refine ⟨Node.ids_mk, ?_, ?_⟩
  · intro root
    have repeated := root.duplicateIds_repeated
    exact ⟨repeated, repeated.eq_nil_iff⟩
  intro plan after given
  cases asked : Prompt.plannerUser message mode current with
  | error cause =>
      rw [synthesize_tells_unwritable asked journal rfl] at given
      cases given
  | ok prompt =>
      obtain ⟨answer, calls, isLast⟩ := exists_lastAnswer oracle repair prompt journal.oracle
      obtain ⟨result, settles, tells⟩ := synthesize_tells asked isLast
      rw [tells journal rfl, Prod.mk.injEq] at given
      obtain ⟨rfl, rfl⟩ := given
      obtain ⟨members, holds, valid⟩ := (settles.plan plan).mp rfl
      obtain ⟨warnings, last, ended, concludes⟩ := acceptEvents_conclude valid journal.context
      refine ⟨(drafting mode current :: objectEvents oracle repair prompt journal.oracle).map
        (·.within journal.context), warnings, last, ?_, ?_, concludes⟩
      · rw [← ended, ← List.map_append, List.cons_append]
        simp only [events, conclusionEvents, Answer.attempted_of_holds holds]
        rfl
      · have preliminary : ∀ event ∈ drafting mode current ::
            objectEvents oracle repair prompt journal.oracle, Preliminary oracle event :=
          List.forall_mem_cons.mpr
            ⟨.step (by decide) (by simp), objectEvents_preliminary prompt journal.oracle⟩
        intro event inside
        obtain ⟨own, member, rfl⟩ := List.mem_map.mp inside
        exact (preliminary own member).logs_or_inconspicuous journal.context

/-- A chart whose children, which are not shown, repeat its own id and that of one another. -/
def repeatedMembers : Members :=
  [(.text "layout", .object [(.text "layoutStyle", .text "custom")]),
    (.text "root", .object
      [(.text "id", .text "c"), (.text "kind", .text "chart"),
        (.text "children", .list
          [.object [(.text "id", .text "b"), (.text "kind", .text "card")],
            .object [(.text "id", .text "a"), (.text "kind", .text "card")],
            .object [(.text "id", .text " c "), (.text "kind", .text "card")],
            .object [(.text "id", .text "b"), (.text "kind", .text "modal")]])])]

theorem synthesize_duplicates_chart :
    ∃ text plan after earlier warning last,
      Json.encode none (.object repeatedMembers) = .ok text ∧
      synthesize textOracle false "initial" (Text.codes "A chart.") none { oracle := [text] } =
        (.ok plan, after) ∧
      after.events = earlier ++ [warning, last] ∧
      WarnsOf warning ["c", "b"] ∧ last.fields.get? "nodes" = some (.int 5) := by
  have json : (Value.object repeatedMembers).isJson .shortIntegers := by decide
  obtain ⟨text, written⟩ := Json.encode_isOk none
    (Value.isJson_mono (Json.Numbers.within_any _) json)
  obtain ⟨plan, valid, ids⟩ : ∃ plan, Plan.validate (.object repeatedMembers) = .ok plan ∧
      plan.ids = ["c", "b", "a", "c", "b"] := ⟨_, rfl, rfl⟩
  obtain ⟨prompt, asked⟩ : ∃ prompt,
      Prompt.plannerUser (Text.codes "A chart.") "initial" none = .ok prompt := ⟨_, rfl⟩
  have extracted : Json.extract false ([] ++ text.map .char ++ []) = .ok repeatedMembers :=
    Json.extract_written (Json.writes_of_encode written) json false List.not_mem_nil List.not_mem_nil
  rw [List.nil_append, List.append_nil] at extracted
  have holds : (answerTo textOracle prompt [text.map .char]).Holds false repeatedMembers :=
    ⟨_, rfl, extracted⟩
  obtain ⟨result, settles, tells⟩ := synthesize_tells asked
    (.first (Answer.not_unparsed_of_holds holds))
  rw [(settles.plan plan).mpr ⟨_, holds, valid⟩] at tells
  obtain ⟨-, -, reported⟩ := synthesize_duplicates textOracle false "initial"
    (Text.codes "A chart.") none { oracle := [text.map .char] }
  obtain ⟨earlier, warnings, last, logged, -, concludes⟩ := reported plan _ (tells _ rfl)
  have duplicates : plan.root.duplicateIds = ["c", "b"] := by
    rw [Node.duplicateIds, show plan.root.ids = _ from ids]
    rfl
  obtain ⟨warning, rfl, warns⟩ := concludes.warned (by rw [duplicates]; decide)
  rw [duplicates] at warns
  have counts := concludes.counts
  rw [ids] at counts
  exact ⟨_, plan, _, earlier, warning, last, written, tells _ rfl, logged, warns, counts⟩

end Synthesis

end InterfacePlan
