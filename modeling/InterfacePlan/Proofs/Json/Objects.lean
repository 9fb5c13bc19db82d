import InterfacePlan.Value
import Mathlib.Data.List.Nodup

set_option autoImplicit false

namespace InterfacePlan

namespace Key

/-- Whether a key is a text, which may be ill-formed. -/
def isName : Key → Bool
  | .text _ | .illFormed _ => true
  | _ => false

theorem same_of_isName {a b : Key} (name : a.isName) (other : b.isName) :
    a.same b = decide (a = b) := by
  cases a with
  | text s | illFormed s =>
      cases b with
      | text t | illFormed t => rfl
      | _ => cases other
  | _ => cases name

theorem same_text (key : Key) (s : String) : key.same (.text s) = decide (key = .text s) := by
  cases key <;> rfl

theorem isName_ofCodes (codes : List Text.Code) : (ofCodes codes).isName := by
  rw [ofCodes]
  split <;> rfl

end Key

theorem Value.get_cons (key : Key) (v : Value) (rest : Members) (name : String) :
    (Value.object ((key, v) :: rest)).get name =
      if key = .text name then v else (Value.object rest).get name := by
  by_cases here : key = .text name
  · simp only [get, here, List.find?_cons, decide_true, Option.elim_some, ↓reduceIte]
  · simp only [get, here, List.find?_cons, decide_false, ↓reduceIte]

namespace Members

variable {members : Members} {key : Key} {v : Value}

def Named (members : Members) : Prop :=
  ∀ m ∈ members, m.1.isName

theorem Named.tail {m : Key × Value} (named : Named (m :: members)) : Named members :=
  fun other inside => named other (List.mem_cons_of_mem m inside)

theorem insert_cons {k : Key} {w : Value} (named : Named ((k, w) :: members)) (name : key.isName) :
    insert ((k, w) :: members) key v =
      if k = key then (k, v) :: members else (k, w) :: members.insert key v := by
  rw [insert, Key.same_of_isName (named _ List.mem_cons_self) name]
  simp only [decide_eq_true_eq]

/-- A key that is there keeps its place, and a new one goes to the end. -/
theorem keys_insert (named : Named members) (name : key.isName) :
    (members.insert key v).map (·.1) =
      if key ∈ members.map (·.1) then members.map (·.1) else members.map (·.1) ++ [key] := by
  induction members with
  | nil => rfl
  | cons m rest ih =>
      obtain ⟨k, w⟩ := m
      rw [insert_cons named name]
      by_cases here : k = key
      · subst here
        simp only [↓reduceIte, List.map_cons, List.mem_cons, true_or]
      · have apart : key ≠ k := fun same => here same.symm
        simp only [here, ↓reduceIte, List.map_cons, List.mem_cons, apart, false_or, ih named.tail]
        split <;> rfl

theorem of_mem_insert (named : Named members) (name : key.isName) {m : Key × Value}
    (inside : m ∈ members.insert key v) : m = (key, v) ∨ m ∈ members := by
  induction members with
  | nil => exact .inl (List.mem_singleton.mp inside)
  | cons first rest ih =>
      obtain ⟨k, w⟩ := first
      rw [insert_cons named name] at inside
      by_cases here : k = key
      · subst here
        rw [if_pos rfl] at inside
        rcases List.mem_cons.mp inside with rfl | inside
        · exact .inl rfl
        · exact .inr (List.mem_cons_of_mem _ inside)
      · rw [if_neg here] at inside
        rcases List.mem_cons.mp inside with rfl | inside
        · exact .inr List.mem_cons_self
        · exact (ih named.tail inside).imp_right (List.mem_cons_of_mem _)

/-- A member that is given or changed is no other member. -/
theorem get_insert_of_ne {name other : String} (apart : other ≠ name) (v : Value) :
    (Value.object (members.insert (.text name) v)).get other = (Value.object members).get other := by
  have unnamed : Key.text name ≠ .text other := fun same => apart (Key.text.inj same).symm
  induction members with
  | nil => rw [insert, Value.get_cons, if_neg unnamed]
  | cons m rest ih =>
      obtain ⟨key, w⟩ := m
      rw [insert, Key.same_text]
      by_cases here : key = .text name
      · rw [if_pos (decide_eq_true here), here, Value.get_cons, Value.get_cons, if_neg unnamed,
          if_neg unnamed]
      · rw [if_neg (by rwa [decide_eq_true_eq]), Value.get_cons, Value.get_cons, ih]

theorem nodup_insert (named : Named members) (name : key.isName)
    (distinct : (members.map (·.1)).Nodup) : ((members.insert key v).map (·.1)).Nodup := by
  rw [keys_insert named name]
  split
  · exact distinct
  · rename_i new
    refine List.nodup_append.mpr ⟨distinct, List.nodup_singleton key, ?_⟩
    intro k old other last same
    rw [List.mem_singleton.mp last] at same
    subst same
    exact new old

theorem named_insert (named : Named members) (name : key.isName) : Named (members.insert key v) := by
  intro m inside
  rcases of_mem_insert named name inside with rfl | old
  · exact name
  · exact named m old

/-- What is built of members has distinct keys and none but those members. -/
theorem foldl_insert_spec {front rest : Members} (named : Named front) (names : Named rest)
    (distinct : (front.map (·.1)).Nodup) :
    ((rest.foldl (fun ms e => insert ms e.1 e.2) front).map (·.1)).Nodup ∧
      ∀ m ∈ rest.foldl (fun ms e => insert ms e.1 e.2) front, m ∈ front ∨ m ∈ rest := by
  induction rest generalizing front with
  | nil => exact ⟨distinct, fun m inside => .inl inside⟩
  | cons first rest ih =>
      have name : first.1.isName := names first List.mem_cons_self
      obtain ⟨nodup, given⟩ := @ih (front.insert first.1 first.2) (named_insert named name) names.tail
        (nodup_insert named name distinct)
      refine ⟨nodup, ?_⟩
      intro m inside
      rcases given m inside with old | new
      · rcases of_mem_insert named name old with rfl | old
        · exact .inr List.mem_cons_self
        · exact .inl old
      · exact .inr (List.mem_cons_of_mem first new)

theorem nodup_ofList (names : Named members) : ((ofList members).map (·.1)).Nodup :=
  (@foldl_insert_spec [] members (fun _ inside => nomatch inside) names List.nodup_nil).1

theorem mem_of_mem_ofList (names : Named members) {m : Key × Value} (inside : m ∈ ofList members) :
    m ∈ members := by
  have given := (@foldl_insert_spec [] members (fun _ inside => nomatch inside) names List.nodup_nil).2
  exact (given m inside).resolve_left List.not_mem_nil

theorem insert_new (named : Named members) (name : key.isName) (new : key ∉ members.map (·.1)) :
    members.insert key v = members ++ [(key, v)] := by
  induction members with
  | nil => rfl
  | cons m rest ih =>
      obtain ⟨k, w⟩ := m
      simp only [List.map_cons, List.mem_cons, not_or] at new
      rw [insert_cons named name, if_neg fun same => new.1 same.symm, ih named.tail new.2,
        List.cons_append]

theorem foldl_insert_of_nodup {front rest : Members} (named : Named (front ++ rest))
    (distinct : ((front ++ rest).map (·.1)).Nodup) :
    rest.foldl (fun ms e => insert ms e.1 e.2) front = front ++ rest := by
  induction rest generalizing front with
  | nil =>
      rw [List.append_nil]
      rfl
  | cons m rest ih =>
      obtain ⟨key, v⟩ := m
      have name : key.isName := named (key, v) (List.mem_append_right front List.mem_cons_self)
      have new : key ∉ front.map (·.1) := by
        rw [List.map_append, List.map_cons] at distinct
        intro old
        exact (List.nodup_append.mp distinct).2.2 _ old _ List.mem_cons_self rfl
      have frontNamed : Named front := fun m inside => named m (List.mem_append_left _ inside)
      rw [List.foldl_cons, insert_new frontNamed name new, ih]
      · rw [List.append_assoc, List.singleton_append]
      · rwa [List.append_assoc, List.singleton_append]
      · rwa [List.append_assoc, List.singleton_append]

theorem ofList_of_nodup (named : Named members) (distinct : (members.map (·.1)).Nodup) :
    ofList members = members :=
  @foldl_insert_of_nodup [] members named distinct

end Members

end InterfacePlan
