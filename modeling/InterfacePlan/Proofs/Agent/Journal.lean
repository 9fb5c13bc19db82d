import InterfacePlan.Agent.Basic
import InterfacePlan.Proofs.Log.Scopes

set_option autoImplicit false

namespace InterfacePlan

variable {σ α β : Type}

def Journal.extend (journal : Journal σ) (state : σ) (calls : List (List ChatMessage))
    (events : List Log.Event) : Journal σ :=
  { journal with
    oracle := state
    calls := journal.calls ++ calls
    events := journal.events ++ events }

namespace Run

/-- From a journal, a run comes to a result after these calls and leaves the oracle in a state. What
stood in the journal stays, and so does the context. -/
def Ends (run : Run σ α) (journal : Journal σ) (result : Except RunError α)
    (calls : List (List ChatMessage)) (state : σ) : Prop :=
  ∃ events, run journal = (result, journal.extend state calls events)

def Gives (run : Run σ α) (journal : Journal σ) (a : α) (calls : List (List ChatMessage))
    (state : σ) : Prop :=
  ∃ events, run journal = (.ok a, journal.extend state calls events)

/-- With the oracle in the state `start`, a run comes to a result after these calls, leaves the oracle
in another state, and logs these events inside the context that is bound. -/
def Tells (run : Run σ α) (start : σ) (result : Except RunError α)
    (calls : List (List ChatMessage)) (state : σ) (events : List Log.Event) : Prop :=
  ∀ journal : Journal σ, journal.oracle = start → run journal =
    (result, journal.extend state calls (events.map fun e => e.within journal.context))

variable {start state : σ} {calls : List (List ChatMessage)} {events : List Log.Event}

theorem tells_pure (a : α) : Tells (Pure.pure a : Run σ α) start (.ok a) [] start [] := by
  rintro journal rfl
  simp only [Journal.extend, List.append_nil, List.map_nil]
  rfl

theorem tells_log (event : Log.Event) :
    Tells (log event) start (.ok ()) [] start [event] := by
  rintro journal rfl
  simp only [log, Journal.extend, List.append_nil, List.map_cons, List.map_nil]

theorem tells_fail (e : RunError) : Tells (fail e : Run σ α) start (.error e) [] start [] := by
  rintro journal rfl
  simp only [fail, Journal.extend, List.append_nil, List.map_nil]

theorem tells_ask (oracle : Oracle σ) (messages : List ChatMessage) :
    Tells (ask oracle messages) start
      ((oracle.chat messages start).result.mapError RunError.ofFailure) [messages]
      (oracle.chat messages start).state (oracle.chat messages start).events := by
  rintro journal rfl
  rfl

theorem Tells.bind {first : Run σ α} {next : α → Run σ β} {a : α} {result : Except RunError β}
    {more : List (List ChatMessage)} {last : σ} {others : List Log.Event}
    (head : first.Tells start (.ok a) calls state events)
    (tail : (next a).Tells state result more last others) :
    (first >>= next).Tells start result (calls ++ more) last (events ++ others) := by
  intro journal here
  rw [bind_of_ok (head journal here), tail _ rfl]
  simp only [Journal.extend, List.append_assoc, List.map_append]

theorem Tells.after_log {event : Log.Event} {next : Unit → Run σ β} {result : Except RunError β}
    (tail : (next ()).Tells start result calls state events) :
    (log event >>= next).Tells start result calls state (event :: events) :=
  (tells_log event).bind tail

theorem Tells.bind_error {first : Run σ α} {next : α → Run σ β} {e : RunError}
    (head : first.Tells start (.error e) calls state events) :
    (first >>= next).Tells start (.error e) calls state events :=
  fun journal here => bind_of_error (head journal here)

/-- A scope around a run that leaves the context as it finds it takes its fields away again. -/
theorem within_eq {run : Run σ α} {fields : Log.Context} (distinct : (fields.map (·.1)).Nodup)
    {journal after : Journal σ} {result : Except RunError α}
    (ran : run { journal with context := journal.context.setAll fields } = (result, after))
    (kept : after.context = journal.context.setAll fields) :
    within fields run journal = (result, { after with context := journal.context }) := by
  have left := Log.Scopes.leave_enter ⟨journal.context, []⟩ distinct
  rw [within]
  simp only [Log.Scopes.enter, ran, kept] at left ⊢
  rw [left]

/-- A scope around a run changes nothing but the fields of its events. -/
theorem Tells.within {run : Run σ α} {fields : Log.Context} {result : Except RunError α}
    (inner : run.Tells start result calls state events) (distinct : (fields.map (·.1)).Nodup)
    {journal : Journal σ} (here : journal.oracle = start) :
    within fields run journal = (result, journal.extend state calls
      (events.map fun e => e.within (journal.context.setAll fields))) := by
  rw [within_eq distinct (inner { journal with context := journal.context.setAll fields } here) rfl]
  rfl

theorem Tells.ends {run : Run σ α} {result : Except RunError α}
    (tells : run.Tells start result calls state events) {journal : Journal σ}
    (here : journal.oracle = start) : run.Ends journal result calls state :=
  ⟨_, tells journal here⟩

end Run

end InterfacePlan
