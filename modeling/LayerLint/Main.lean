import LayerLint.Command

/-!
# The program on a machine

Looks at the paths and variables that a call may need, performs the call, and
writes down what it leads to.
-/

namespace LayerLint.Main

/-- The number under which the system refuses to read a directory. -/
def directoryCode : UInt32 := 21

/-- What there is at a path.  A path that the system does not even look for is too long.
-/
def stateAt (path : String) : IO FileState := do
  try
    return .file (← IO.FS.readBinFile path).toList
  catch e =>
    match e with
    | .inappropriateType _ code _ =>
      return if code = directoryCode then .directory else .notDirectory
    | .invalidArgument .. => return .tooLong
    | _ => return .missing

/-- The variables among `names` that are set. -/
def settings (names : List String) : IO (List (String × String)) := do
  let values ← names.mapM fun name => do return (← IO.getEnv name).map fun value => (name, value)
  return values.filterMap id

/-- What there is to see for some arguments. -/
def workplace (args : List String) : IO Workplace := do
  let home := (← IO.getEnv "HOME").getD "/"
  let work := (← IO.currentDir).toString
  let paths := Command.pathsLookedAt home work args
  let states ← paths.mapM fun path => do return (path, ← stateAt path)
  let environment ← settings (Config.Field.all.map Config.variableName)
  return {
    files := fun path => (states.lookup path).getD .missing
    home := home
    work := work
    environment := fun name => environment.lookup name }

end LayerLint.Main

def main (args : List String) : IO UInt32 := do
  let outcome := LayerLint.Command.run (← LayerLint.Main.workplace args) args
  for record in outcome.log do
    IO.eprintln (record.level.name ++ " " ++ record.message)
  IO.eprint outcome.diagnostics
  if outcome.status = .unusable ∧ outcome.diagnostics = "" then
    IO.eprint LayerLint.Command.usage
  IO.print outcome.printed
  return outcome.status.code.toUInt32
