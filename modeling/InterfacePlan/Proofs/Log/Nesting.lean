import InterfacePlan.Log.Lines
import InterfacePlan.Proofs.Agent.Journal
import Mathlib.Data.List.Forall2

set_option autoImplicit false

namespace InterfacePlan

variable {σ α : Type}

/-- A run whose failure is handled by another one. What happened before the failure stays. -/
def Run.orElse (run handler : Run σ α) : Run σ α :=
  fun journal =>
    match run journal with
    | (.ok a, after) => (.ok a, after)
    | (.error _, after) => handler after

theorem Journal.extend_extend (journal : Journal σ) (first second : σ)
    (calls more : List (List ChatMessage)) (events others : List Log.Event) :
    (journal.extend first calls events).extend second more others =
      journal.extend second (calls ++ more) (events ++ others) := by
  simp only [extend, List.append_assoc]

theorem Journal.extend_nil (journal : Journal σ) :
    journal.extend journal.oracle [] [] = journal := by
  simp only [extend, List.append_nil]

namespace Log

/-- Fields given by name, no name twice. -/
structure Fields where
  entries : Context
  distinct : (entries.map (·.1)).Nodup := by decide

/-- What a program does, one statement after the other. A failure leaves the scopes around it, up to an
attempt that handles it; where nothing fails, a scope is left at the end of its body. -/
inductive Statement where
  | log (level : Level) (name : String) (fields : Fields)
  | scope (fields : Fields) (body : List Statement)
  | fail (cause : RunError)
  | attempt (body handler : List Statement)

namespace Statement

mutual

def run : Statement → Run σ Unit
  | .log level name fields => Run.log ⟨level, name, fields.entries⟩
  | .scope fields body => Run.within fields.entries (runAll body)
  | .fail cause => Run.fail cause
  | .attempt body handler => (runAll body).orElse (runAll handler)

def runAll : List Statement → Run σ Unit
  | [] => pure ()
  | s :: rest => do
    s.run
    runAll rest

end

/-- An event as its program has it: what it is given itself, and the scopes around it, the innermost
first. -/
structure Placed where
  level : Level
  name : String
  fields : Fields
  scopes : List Fields

/-- The events of a program with the scopes around them, and the failure that it ends with. -/
structure Outline where
  events : List Placed := []
  failure : Option RunError := none

namespace Outline

def andThen (first second : Outline) : Outline :=
  match first.failure with
  | none => ⟨first.events ++ second.events, second.failure⟩
  | some _ => first

def orElse (first second : Outline) : Outline :=
  match first.failure with
  | none => first
  | some _ => ⟨first.events ++ second.events, second.failure⟩

def result (outline : Outline) : Except RunError Unit :=
  match outline.failure with
  | none => .ok ()
  | some cause => .error cause

end Outline

mutual

def outline (scopes : List Fields) : Statement → Outline
  | .log level name fields => { events := [⟨level, name, fields, scopes⟩] }
  | .scope fields body => outlineAll (fields :: scopes) body
  | .fail cause => { failure := some cause }
  | .attempt body handler => (outlineAll scopes body).orElse (outlineAll scopes handler)

def outlineAll (scopes : List Fields) : List Statement → Outline
  | [] => {}
  | s :: rest => (outline scopes s).andThen (outlineAll scopes rest)

end

/-- The value that the innermost of some scopes gives to a name. -/
def innermost? (scopes : List Fields) (name : String) : Option Value :=
  scopes.findSome? fun fields => fields.entries.get? name

/-- The context inside some scopes. -/
def inside (context : Context) : List Fields → Context
  | [] => context
  | fields :: outer => (inside context outer).setAll fields.entries

def Placed.event (context : Context) (placed : Placed) : Event :=
  (Event.mk placed.level placed.name placed.fields.entries).within (inside context placed.scopes)

theorem get?_inside (context : Context) (scopes : List Fields) (name : String) :
    (inside context scopes).get? name = (innermost? scopes name).or (context.get? name) := by
  induction scopes with
  | nil => rfl
  | cons fields outer ih =>
      rw [inside, Context.get?_setAll fields.distinct, ih]
      unfold innermost?
      rw [List.findSome?_cons]
      cases fields.entries.get? name with
      | none => rfl
      | some v => rfl

/-- From a journal inside some scopes, a run comes to what an outline says and leaves the context as it
was. -/
def Follows (run : Run σ Unit) (outline : Outline) (context : Context) (scopes : List Fields) : Prop :=
  ∀ journal : Journal σ, journal.context = inside context scopes →
    run journal =
      (outline.result, journal.extend journal.oracle [] (outline.events.map (Placed.event context)))

variable {context : Context} {scopes : List Fields}

theorem follows_log (level : Level) (name : String) (fields : Fields) :
    Follows (Run.log ⟨level, name, fields.entries⟩ : Run σ Unit)
      { events := [⟨level, name, fields, scopes⟩] } context scopes := by
  intro journal here
  rw [Run.tells_log _ journal rfl, here]
  rfl

theorem follows_fail (cause : RunError) :
    Follows (Run.fail cause : Run σ Unit) { failure := some cause } context scopes :=
  fun journal _ => Run.tells_fail cause journal rfl

/-- A scope adds its fields to those around its body and takes them away again. -/
theorem Follows.within {run : Run σ Unit} {outline : Outline} {fields : Fields}
    (body : Follows run outline context (fields :: scopes)) :
    Follows (Run.within fields.entries run) outline context scopes := by
  intro journal here
  have deeper : journal.context.setAll fields.entries = inside context (fields :: scopes) := by
    rw [here]
    rfl
  rw [Run.within_eq fields.distinct
    (body { journal with context := journal.context.setAll fields.entries } deeper) rfl]
  rfl

theorem Follows.andThen {first second : Run σ Unit} {outline next : Outline}
    (head : Follows first outline context scopes) (tail : Follows second next context scopes) :
    Follows (first >>= fun _ => second) (outline.andThen next) context scopes := by
  intro journal here
  have began := head journal here
  have went := tail (journal.extend journal.oracle [] (outline.events.map (Placed.event context))) here
  rw [Journal.extend_extend] at went
  cases ended : outline.failure with
  | some cause =>
      rw [Outline.result, ended] at began
      rw [Run.bind_of_error began, Outline.andThen, ended, Outline.result, ended]
  | none =>
      rw [Outline.result, ended] at began
      rw [Run.bind_of_ok began, went]
      simp only [Outline.andThen, ended, List.map_append]
      rfl

theorem Follows.orElse {first second : Run σ Unit} {outline next : Outline}
    (head : Follows first outline context scopes) (tail : Follows second next context scopes) :
    Follows (first.orElse second) (outline.orElse next) context scopes := by
  intro journal here
  have began := head journal here
  have went := tail (journal.extend journal.oracle [] (outline.events.map (Placed.event context))) here
  rw [Journal.extend_extend] at went
  cases ended : outline.failure with
  | none =>
      rw [Outline.result, ended] at began
      simp only [Run.orElse, began, Outline.orElse, ended, Outline.result]
  | some cause =>
      rw [Outline.result, ended] at began
      simp only [Run.orElse, began, Outline.orElse, ended, List.map_append]
      rw [went]
      rfl

mutual

theorem run_follows (context : Context) : ∀ (s : Statement) (scopes : List Fields),
    Follows (σ := σ) s.run (s.outline scopes) context scopes
  | .log level name fields, _ => follows_log level name fields
  | .scope fields body, scopes => (runAll_follows context body (fields :: scopes)).within
  | .fail cause, _ => follows_fail cause
  | .attempt body handler, scopes =>
      (runAll_follows context body scopes).orElse (runAll_follows context handler scopes)

theorem runAll_follows (context : Context) : ∀ (program : List Statement) (scopes : List Fields),
    Follows (σ := σ) (runAll program) (outlineAll scopes program) context scopes
  | [], _ => by
      intro journal _
      rw [outlineAll, List.map_nil, Journal.extend_nil]
      rfl
  | s :: rest, scopes => (run_follows context s scopes).andThen (runAll_follows context rest scopes)

end

/-- The names that a line keeps for the logger, which may put a failure under `exception`. -/
def reservedNames : List String :=
  "exception" :: ownNames

/-- An event shows each of its own fields, and for every other name the innermost scope that binds it or,
where none does, the context of the program. A line shows the same but for the names of the logger. -/
structure Shows (context : Context) (placed : Placed) (event : Event) : Prop where
  level : event.level = placed.level
  name : event.name = placed.name
  fields : ∀ name, event.fields.get? name = (placed.fields.entries.get? name).or
    ((innermost? placed.scopes name).or (context.get? name))
  line : ∀ logger, ∀ name ∉ reservedNames,
    Context.get? (event.record logger) name = event.fields.get? name

theorem get?_shownFields (event : Event) {name : String} (free : name ∉ ownNames) :
    (shownFields event).get? name = event.fields.get? name := by
  unfold shownFields Context.get?
  rw [List.find?_filter]
  congr 2
  funext field
  by_cases same : field.1 = name
  · simp [same, free]
  · simp [same]

theorem get?_record (event : Event) (logger : String) {name : String} (free : name ∉ ownNames) :
    Context.get? (event.record logger) name = event.fields.get? name := by
  have others : "event" ≠ name ∧ "logger" ≠ name ∧ "level" ≠ name := by
    refine ⟨?_, ?_, ?_⟩ <;> rintro rfl <;> exact free (by decide)
  rw [Event.record, Context.get?_cons, if_neg others.1, Context.get?_cons, if_neg others.2.1,
    Context.get?_cons, if_neg others.2.2, get?_shownFields event free]

theorem shows_event (context : Context) (placed : Placed) :
    Shows context placed (placed.event context) where
  level := rfl
  name := rfl
  fields name := by
    rw [Placed.event, Event.within, Context.get?_setAll placed.fields.distinct, get?_inside]
  line logger name free := get?_record _ logger fun own => free (List.mem_cons_of_mem _ own)

/-- A program of nested scopes comes to what its outline says, each of its events shows the innermost
scope that binds a name, and the context afterwards is the one before. -/
theorem run_nested (program : List Statement) (journal : Journal σ) :
    ∃ after events, runAll program journal = ((outlineAll [] program).result, after) ∧
      after.context = journal.context ∧ after.events = journal.events ++ events ∧
      List.Forall₂ (Shows journal.context) (outlineAll [] program).events events := by
  refine ⟨_, _, runAll_follows journal.context program [] journal rfl, rfl, rfl, ?_⟩
  rw [List.forall₂_map_right_iff, List.forall₂_same]
  exact fun placed _ => shows_event journal.context placed

/-- A scope that is left by a failure takes its binding along. -/
example : (runAll [.scope { entries := [("mode", .text "a")] }
      [.attempt [.scope { entries := [("mode", .text "b")] } [.fail .illFormedReply]]
        [.log .info "x" { entries := [] }]]] ({ oracle := () } : Journal Unit)).2.events =
    [⟨.info, "x", [("mode", .text "a")]⟩] := rfl

/-- An event with a mode of its own, in a scope that binds another mode and the level. -/
def ownMode : List Statement :=
  [.scope { entries := [("mode", .text "ctx"), ("level", .text "deep")] }
    [.log .info "x" { entries := [("mode", .text "own")] }]]

/-- Its own mode shows and not that of the scope, and its line has the level of the event. -/
theorem run_nested_own_mode :
    ∃ placed event, (outlineAll [] ownMode).events = [placed] ∧
      runAll ownMode ({ oracle := () } : Journal Unit) =
        (.ok (), { oracle := (), events := [event] }) ∧
      innermost? placed.scopes "mode" = some (.text "ctx") ∧
      event.fields.get? "mode" = some (.text "own") ∧
      innermost? placed.scopes "level" = some (.text "deep") ∧
      Context.get? (event.record "driver") "level" = some (.text "info") :=
  ⟨_, _, rfl, rfl, rfl, rfl, rfl, rfl⟩

end Statement

end Log

end InterfacePlan
