import ParameterExpansion.Command.Report

/-!
# The program

The outer layer of the program: it gathers the arguments, the variables of the environment that the
settings and the template name, and the octets of the source, and writes what the library answers.
-/

namespace ParameterExpansion

/-- The environment variables that settings are read from. -/
def settingVariables : List String :=
  ["SHX_BEQUIET", "SHX_MAXDEPTH", "SHX_NOUNSET", "SHX_NOEMPTY", "SHX_KEEPUNSET"]

/-- The variables of the environment with the given names. -/
def environmentOf (names : List String) : IO (List (Text × Text)) := do
  let entries ← names.mapM fun name => return (name, ← IO.getEnv name)
  return entries.filterMap fun entry => entry.2.map fun value => (entry.1.toList, value.toList)

/-- Why a file cannot be opened, as an error of the system tells. A path that leads through a file
fails with its name; a directory fails only when it is read, where no name is known. -/
def fileFaultOf : IO.Error → FileFault
  | .noFileOrDirectory .. => .missing
  | .permissionDenied .. => .denied
  | .inappropriateType (some _) .. => .notDirectory
  | .invalidArgument .. => .nameTooLong
  | _ => .directory

/-- The octets of a file, or why it cannot be opened. -/
def octetsOf (name : String) : IO (Except FileFault (List UInt8)) := do
  try return .ok (← IO.FS.readBinFile name).toList
  catch e => return .error (fileFaultOf e)

/-- The octets of standard input, to its end. -/
def inputOctets : IO (List UInt8) := do
  return (← (← IO.getStdin).readBinToEnd).toList

/-- The source that a request names, if it performs a task. -/
def sourceOf? : Except Misuse Request → Option Text
  | .ok (.perform _ source _) => some source
  | _ => none

/-- The names of the variables in the octets of a template. -/
def variablesIn (limit : Int) (octets : List UInt8) : List String :=
  match Text.Utf8.decode octets with
  | .error _ => []
  | .ok text =>
    match Session.parse limit text.withLineFeeds (.ofResolver (.store .empty)) with
    | .ok template _ => template.names.map String.ofList
    | .error .. => []

/-- Writes the messages of a log, unless the settings ask for quiet. -/
def writeLog (settings : Settings) (log : List Message) : IO Unit := do
  unless settings.beQuiet do
    for message in log do IO.eprintln (String.ofList message.text)

/-- Writes how a call of the program ends, and gives its exit code. -/
def conclude (settings : Settings) : Ending → IO UInt32
  | .report r => do
    writeLog settings r.log
    IO.print (String.ofList r.output)
    IO.eprint (String.ofList r.diagnostics)
    return r.code.toUInt32
  | .misuse m output => do
    IO.print (String.ofList output)
    unless m = .noArguments do IO.eprintln ("Error: " ++ String.ofList m.message)
    return 2
  | .fault f log => do
    writeLog settings log
    IO.eprintln (String.ofList f.text)
    return 1

/-- Runs the program with settings, on its arguments. -/
def runWith (settings : Settings) (arguments : List Text) : IO UInt32 := do
  let source := sourceOf? (Request.ofArguments arguments)
  let octets ← match source with
    | none => pure (.ok [])
    | some source =>
      if source = ['-'] then pure (.ok (← inputOctets)) else octetsOf (String.ofList source)
  let read := octets.toOption.getD []
  let environment := Store.ofList (← environmentOf (variablesIn settings.maxDepth read))
  conclude settings (runCommand ⟨settings, environment, read, fun _ => octets⟩ arguments)

/-- Runs the program on its arguments, with the settings of the environment. -/
def runProgram (arguments : List Text) : IO UInt32 := do
  match Settings.ofEnvironment (← environmentOf settingVariables) with
  | .error refused =>
    for entry in refused do IO.eprintln ("invalid setting: " ++ String.ofList entry.1.text)
    return 1
  | .ok settings => runWith settings arguments

end ParameterExpansion

/-- The program. -/
def main (arguments : List String) : IO UInt32 :=
  ParameterExpansion.runProgram (arguments.map String.toList)
