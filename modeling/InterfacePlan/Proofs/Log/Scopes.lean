import InterfacePlan.Log.Basic

set_option autoImplicit false

namespace InterfacePlan.Log

namespace Context

/-- Gives one name back what it was bound to. -/
def undo (context : Context) (saved : String × Option Value) : Context :=
  match saved.2 with
  | some v => context.set saved.1 v
  | none => context.erase saved.1

theorem restore_cons (context : Context) (s : String × Option Value)
    (saved : List (String × Option Value)) :
    context.restore (s :: saved) = (context.undo s).restore saved := by
  obtain ⟨name, - | v⟩ := s <;> rfl

theorem setAll_cons (context : Context) (name : String) (v : Value) (fields : Context) :
    context.setAll ((name, v) :: fields) = (context.set name v).setAll fields := rfl

theorem set_cons (field : String × Value) (context : Context) (name : String) (v : Value) :
    set (field :: context) name v =
      if field.1 = name then (field.1, v) :: context else field :: set context name v := rfl

theorem get?_cons (field : String × Value) (context : Context) (name : String) :
    get? (field :: context) name = if field.1 = name then some field.2 else get? context name := by
  rw [get?, List.find?_cons]
  by_cases same : field.1 = name
  · simp only [same, decide_true, ↓reduceIte, Option.map_some]
  · simp only [same, decide_false, ↓reduceIte]
    rfl

theorem get?_set (context : Context) (name other : String) (v : Value) :
    (context.set name v).get? other = if name = other then some v else context.get? other := by
  induction context with
  | nil => exact get?_cons (name, v) [] other
  | cons field rest ih =>
      obtain ⟨third, w⟩ := field
      rw [set_cons]
      by_cases here : third = name
      · subst here
        simp only [↓reduceIte, get?_cons]
        split <;> rfl
      · simp only [here, ↓reduceIte, get?_cons, ih]
        by_cases there : third = other
        · subst there
          simp only [Ne.symm here, ↓reduceIte]
        · simp only [there, ↓reduceIte]

theorem get?_setAll_of_agree {name : String} {v : Value} {fields : Context}
    (agree : ∀ w, (name, w) ∈ fields → w = v) {context : Context}
    (bound : context.get? name = some v) : (context.setAll fields).get? name = some v := by
  induction fields generalizing context with
  | nil => exact bound
  | cons field rest ih =>
      obtain ⟨other, w⟩ := field
      rw [setAll_cons]
      apply ih fun u inside => agree u (List.mem_cons_of_mem _ inside)
      rw [get?_set]
      split
      · rename_i same
        subst same
        rw [agree w List.mem_cons_self]
      · exact bound

theorem get?_eq_none {context : Context} {name : String} (lacks : name ∉ context.map (·.1)) :
    context.get? name = none := by
  induction context with
  | nil => rfl
  | cons field rest ih =>
      rw [List.map_cons, List.mem_cons, not_or] at lacks
      rw [get?_cons, if_neg (Ne.symm lacks.1), ih lacks.2]

/-- Fields that are given by name win, and every other name keeps what it was bound to. -/
theorem get?_setAll {fields : Context} (distinct : (fields.map (·.1)).Nodup) (context : Context)
    (name : String) :
    (context.setAll fields).get? name = (fields.get? name).or (context.get? name) := by
  induction fields generalizing context with
  | nil => rfl
  | cons field rest ih =>
      obtain ⟨other, w⟩ := field
      rw [List.map_cons, List.nodup_cons] at distinct
      rw [setAll_cons, ih distinct.2, get?_set, get?_cons]
      by_cases same : other = name
      · subst same
        rw [get?_eq_none distinct.1]
        simp only [↓reduceIte, Option.none_or, Option.some_or]
      · simp only [same, ↓reduceIte]

theorem erase_cons (field : String × Value) (context : Context) (name : String) :
    erase (field :: context) name =
      if field.1 = name then erase context name else field :: erase context name := by
  rw [erase, List.filter_cons]
  by_cases same : field.1 = name
  · simp only [same, ne_eq, not_true_eq_false, decide_false, Bool.false_eq_true, ↓reduceIte]
    rfl
  · simp only [same, ne_eq, not_false_eq_true, decide_true, ↓reduceIte]
    rfl

/-- The bindings of a name are as they were before it was bound anew. -/
theorem undo_set (context : Context) (name : String) (v : Value) :
    (context.set name v).undo (name, context.get? name) = context := by
  induction context with
  | nil => exact (erase_cons (name, v) [] name).trans (if_pos rfl)
  | cons field rest ih =>
      obtain ⟨other, w⟩ := field
      rw [get?_cons, set_cons]
      by_cases same : other = name
      · subst same
        simp [undo, set_cons]
      · simp only [same, ↓reduceIte]
        cases bound : get? rest name with
        | none =>
            rw [bound] at ih
            simp only [undo] at ih ⊢
            rw [erase_cons, if_neg same, ih]
        | some u =>
            rw [bound] at ih
            simp only [undo] at ih ⊢
            rw [set_cons, if_neg same, ih]

def Binds (context : Context) (name : String) : Prop :=
  ∃ v, (name, v) ∈ context

theorem binds_set (context : Context) (name : String) (v : Value) :
    (context.set name v).Binds name := by
  induction context with
  | nil => exact ⟨v, List.mem_cons_self⟩
  | cons field rest ih =>
      obtain ⟨other, w⟩ := field
      rw [set_cons]
      split
      · rename_i same
        subst same
        exact ⟨v, List.mem_cons_self⟩
      · obtain ⟨u, inside⟩ := ih
        exact ⟨u, List.mem_cons_of_mem _ inside⟩

theorem Binds.set {context : Context} {name : String} (binds : context.Binds name)
    {other : String} (apart : other ≠ name) (v : Value) : (context.set other v).Binds name := by
  obtain ⟨w, inside⟩ := binds
  refine ⟨w, ?_⟩
  induction context with
  | nil => cases inside
  | cons field rest ih =>
      obtain ⟨third, u⟩ := field
      rw [set_cons]
      rcases List.mem_cons.mp inside with same | inside
      · cases same
        rw [if_neg (Ne.symm apart)]
        exact List.mem_cons_self
      · split
        · exact List.mem_cons_of_mem _ inside
        · exact List.mem_cons_of_mem _ (ih inside)

/-- A name that is bound keeps its place, so that it may as well be bound before another. -/
theorem set_comm {context : Context} {name other : String} (binds : context.Binds name)
    (apart : other ≠ name) (v w : Value) :
    (context.set other w).set name v = (context.set name v).set other w := by
  obtain ⟨u, inside⟩ := binds
  induction context with
  | nil => cases inside
  | cons field rest ih =>
      obtain ⟨third, x⟩ := field
      by_cases here : third = name
      · subst here
        simp only [set_cons, Ne.symm apart, ↓reduceIte]
      · have further : (name, u) ∈ rest := by
          rcases List.mem_cons.mp inside with same | inside
          · cases same
            exact absurd rfl here
          · exact inside
        by_cases there : third = other
        · subst there
          simp only [set_cons, here, ↓reduceIte]
        · simp only [set_cons, here, there, ↓reduceIte, ih further]

theorem erase_set {name other : String} (apart : other ≠ name) (context : Context) (w : Value) :
    (context.set other w).erase name = (context.erase name).set other w := by
  induction context with
  | nil => exact (erase_cons (other, w) [] name).trans (if_neg apart)
  | cons field rest ih =>
      obtain ⟨third, x⟩ := field
      rw [set_cons]
      by_cases there : third = other
      · subst there
        simp only [erase_cons, apart, ↓reduceIte, set_cons]
      · by_cases here : third = name
        · subst here
          simp only [there, ↓reduceIte, erase_cons, ih]
        · simp only [here, there, ↓reduceIte, erase_cons, ih, set_cons]

theorem undo_setAll {name : String} {fields : Context} (apart : name ∉ fields.map (·.1))
    {context : Context} (binds : context.Binds name) (before : Option Value) :
    (context.setAll fields).undo (name, before) = (context.undo (name, before)).setAll fields := by
  induction fields generalizing context with
  | nil => rfl
  | cons field rest ih =>
      obtain ⟨other, w⟩ := field
      simp only [List.map_cons, List.mem_cons, not_or] at apart
      have other_ne : other ≠ name := Ne.symm apart.1
      rw [setAll_cons, setAll_cons, ih apart.2 (binds.set other_ne w)]
      cases before with
      | none => simp only [undo, erase_set other_ne]
      | some v => simp only [undo, set_comm binds other_ne]

/-- What was saved before names were bound restores the context, unbound names included. -/
theorem restore_setAll {fields : Context} (distinct : (fields.map (·.1)).Nodup)
    (context : Context) :
    (context.setAll fields).restore (context.saved (fields.map (·.1))) = context := by
  induction fields with
  | nil => rfl
  | cons field rest ih =>
      obtain ⟨name, v⟩ := field
      rw [List.map_cons, List.nodup_cons] at distinct
      rw [List.map_cons, saved, List.map_cons, restore_cons, setAll_cons,
        undo_setAll distinct.1 (binds_set context name v), undo_set]
      exact ih distinct.2

end Context

/-- An event gives a name no value but this one. -/
def Event.Agrees (event : Event) (name : String) (v : Value) : Prop :=
  ∀ w, (name, w) ∈ event.fields → w = v

theorem Event.agrees_of_lacks {event : Event} {name : String}
    (lacks : name ∉ event.fields.map (·.1)) (v : Value) : event.Agrees name v := by
  intro w given
  exact absurd (List.mem_map_of_mem given) lacks

theorem Event.get?_within {event : Event} {context : Context} {name : String} {v : Value}
    (bound : context.get? name = some v) (agrees : event.Agrees name v) :
    (event.within context).fields.get? name = some v :=
  Context.get?_setAll_of_agree agrees bound

/-- Leaving a scope gives back what there was when it was entered. -/
theorem Scopes.leave_enter (scopes : Scopes) {fields : Context}
    (distinct : (fields.map (·.1)).Nodup) : (scopes.enter fields).leave = scopes := by
  obtain ⟨context, saved⟩ := scopes
  simp only [enter, leave, Context.restore_setAll distinct]

end InterfacePlan.Log
