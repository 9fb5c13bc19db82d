set_option autoImplicit false

namespace InterfacePlan.Text

variable {α : Type}

def join (separator : List α) : List (List α) → List α
  | [] => []
  | [part] => part
  | part :: rest => part ++ separator ++ join separator rest

end InterfacePlan.Text
