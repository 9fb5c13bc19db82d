import InterfacePlan.Service.Launch

set_option autoImplicit false

namespace InterfacePlan.Command

def environment : IO (List (String × String)) := do
  let mut found := []
  for name in Settings.names do
    let key := "UIPLAN_" ++ name.toUpper
    if let some value ← IO.getEnv key then
      found := found ++ [(key, value)]
  return found

def describe (launch : Service.Launch) : String :=
  launch.title ++ " " ++ launch.version ++ " on "
    ++ String.ofList (launch.host.filterMap Text.Code.char?) ++ ":" ++ toString launch.port
    ++ " (" ++ launch.logLevel ++ ")"

end InterfacePlan.Command

def main : IO UInt32 := do
  match InterfacePlan.Settings.load (← InterfacePlan.Command.environment) [] with
  | .ok settings =>
    match InterfacePlan.Service.Launch.ofSettings settings with
    | .ok launch =>
      IO.println (InterfacePlan.Command.describe launch)
      return 0
    | .error e =>
      IO.eprintln e.message
      return 1
  | .error issues =>
    for issue in issues do
      IO.eprintln (issue.place ++ ": " ++ issue.problem.name)
    return 1
