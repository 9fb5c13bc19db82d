set_option autoImplicit false

namespace InterfacePlan

variable {ε ε' ε'' α β : Type}

theorem exists_of_map {result : Except ε α} {f : α → β} {b : β} (mapped : result.map f = .ok b) :
    ∃ a, result = .ok a ∧ f a = b := by
  cases result with
  | ok a =>
      cases mapped
      exact ⟨a, rfl, rfl⟩
  | error e => cases mapped

theorem ok_of_mapError {result : Except ε α} {f : ε → ε'} {a : α}
    (mapped : result.mapError f = .ok a) : result = .ok a := by
  cases result with
  | ok b =>
      cases mapped
      rfl
  | error e => cases mapped

/-- Results that are mapped alike are the same error, or they are both there and their values are mapped
alike. -/
theorem cases_of_map_eq {first second : Except ε α} {f : α → β}
    (same : first.map f = second.map f) :
    (∃ e, first = .error e ∧ second = .error e) ∨
      ∃ a b, first = .ok a ∧ second = .ok b ∧ f a = f b := by
  cases first with
  | error e =>
      cases second with
      | error e' =>
          cases same
          exact .inl ⟨e, rfl, rfl⟩
      | ok b => cases same
  | ok a =>
      cases second with
      | error e' => cases same
      | ok b => exact .inr ⟨a, b, rfl, rfl, Except.ok.inj same⟩

theorem mapError_mapError (result : Except ε α) (f : ε → ε') (g : ε' → ε'') :
    (result.mapError f).mapError g = result.mapError fun e => g (f e) := by
  cases result <;> rfl

end InterfacePlan
