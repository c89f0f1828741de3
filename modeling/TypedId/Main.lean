import TypedId.CommandLine.Plan

/-!
# The program

Reads the environment and the input files of a call, makes its plan and carries the plan out on the file system.
-/

set_option autoImplicit false

namespace TypedId

open CommandLine

/-- What a path leads to. -/
def statusOf (path : String) : IO Files.Status := do
  if path.toList.contains (Char.ofNat 0) then return .refused
  try
    let bytes ← IO.FS.readBinFile path
    return .file (bytes.toList.map UInt8.toNat)
  catch _ =>
    if (← (← IO.FS.realPath path).isDir) then return .directory
    return .missing

/-- The values of the variables that options can be given by. -/
def optionVariables : IO (List (String × String)) := do
  let names := globalOptions.filterMap (fun spec => spec.environmentName? none)
    ++ Command.all.flatMap fun command => command.options.filterMap fun spec => spec.environmentName? (some command)
  let found ← names.mapM fun name => do return (name, (← IO.getEnv name))
  return found.filterMap fun (name, value) => value.map (name, ·)

/-- Takes a step on the file system. -/
def takeStep : Step → IO Unit
  | .print text => IO.print text
  | .printError text => IO.eprint text
  | .log record => IO.eprintln (record.level.label ++ " " ++ record.message)
  | .makeDirectories path => IO.FS.createDirAll path.text
  | .write path text => IO.FS.writeFile path text

/-- Carries a plan out and gives the exit status. -/
def carryOut (plan : Plan) : IO UInt32 := do
  try
    plan.steps.forM takeStep
    match plan.ending with
    | .exit status => return status.toUInt32
    | .failure failure =>
      IO.eprintln failure.message
      return 1
  catch error =>
    IO.eprintln (toString error)
    return 1

end TypedId

open TypedId in
/-- Runs the program on its arguments. -/
def main (arguments : List String) : IO UInt32 := do
  let found ← optionVariables
  let environment (name : String) : Option String := found.lookup name
  let statuses ← (CommandLine.inputPaths environment arguments).mapM fun path => do
    return (path, (← statusOf path))
  let status (path : String) : Files.Status := (statuses.lookup path).getD .missing
  carryOut (CommandLine.planCall environment status arguments)
