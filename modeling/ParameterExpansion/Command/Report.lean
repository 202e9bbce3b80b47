import ParameterExpansion.Command.Listing
import ParameterExpansion.Command.Outline
import ParameterExpansion.Command.Usage
import ParameterExpansion.Render
import ParameterExpansion.Text.Displayed
import ParameterExpansion.Text.Utf8

/-!
# Reports

What the program writes, and the code it exits with. A failure is reported on standard error, and
nothing is written to standard output then. A command line that misuses the program is answered with
the misuse alone.
-/

namespace ParameterExpansion

/-- What a command leaves behind: its exit code, what it wrote, and the messages noted. -/
structure Report where
  /-- The exit code. -/
  code : Nat
  /-- What was written to standard output. -/
  output : Text
  /-- What was written to standard error. -/
  diagnostics : Text
  /-- The messages noted, the first one first. -/
  log : List Message
  deriving DecidableEq

/-- How a call of the program ends. -/
inductive Ending where
  /-- A command came to its end. -/
  | report (r : Report)
  /-- The program was misused; `output` is what it had written. -/
  | misuse (m : Misuse) (output : Text)
  /-- A fault that no command expects ended the program. -/
  | fault (f : Fault) (log : List Message)

/-- The world of a call: settings, environment, standard input, and the files by their names. -/
structure Surroundings where
  /-- The settings. -/
  settings : Settings
  /-- The environment. -/
  environment : Store
  /-- The octets of standard input. -/
  input : List UInt8
  /-- The octets of the file of a name, or why it cannot be opened. -/
  file : Text → Except FileFault (List UInt8)

/-- A source that has been opened: its name and its octets. -/
structure Opened where
  /-- The name, as messages show it. -/
  name : Text
  /-- The octets. -/
  octets : List UInt8

/-- Opens a source: standard input for a dash, or else a file. -/
def Surroundings.opened (world : Surroundings) (source : Text) : Except FileFault Opened :=
  if source = ['-'] then .ok ⟨"<stdin>".toList, world.input⟩
  else (world.file source).map fun octets => ⟨source, octets⟩

namespace Report

/-- A command that came to a good end. -/
def success (output : Text) (log : List Message) : Report := ⟨0, output, [], log⟩

/-- A command that failed, with its diagnostic. -/
def failure (text : Text) (log : List Message) : Report :=
  ⟨1, [], Text.displayed ("Error: ".toList ++ text) ++ ['\n'], log⟩

/-- A command whose source is no text. -/
def unreadable (name : Text) (f : Text.Utf8.Failure) : Report :=
  failure
    ("input is not valid UTF-8 (byte ".toList ++ Text.ofNat f.start ++ ": ".toList ++
      f.reason.message ++ ") in ".toList ++ name)
    [.readFailed name f.message]

end Report

/-- Reads the text of a source, whatever its line ends, and goes on with it. -/
def Opened.withText (source : Opened) (next : Text → Ending) : Ending :=
  match Text.Utf8.decode source.octets with
  | .ok text => next text.withLineFeeds
  | .error f => .report (.unreadable source.name f)

/-- Reads the template of a source and reports what `write` makes of it. -/
def Opened.withTemplate (source : Opened) (levels : Int) (write : Template → Text) : Ending :=
  source.withText fun text =>
    match Session.parse levels text (.ofResolver (.store .empty)) with
    | .ok template s => .report (.success (write template) s.log)
    | .error fault s =>
      if fault.isReported then
        .report (.failure fault.text (s.log ++ [.parseFailed source.name fault.text]))
      else .fault fault s.log

/-- Renders the text of a source with a resolver. -/
def Opened.render (source : Opened) (levels : Int) (resolver : Resolver) (flags : Flags) : Ending :=
  source.withText fun text =>
    match ParameterExpansion.render levels flags text (.ofResolver resolver) with
    | .ok (.expanded output) s => .report (.success output s.log)
    | .ok (.failed error) s =>
      .report (.failure error (s.log ++ [.renderFailed source.name error]))
    | .error fault s => .fault fault s.log

/-- The outline of a template, as it is written. -/
def Template.outlined (t : Template) : Text :=
  unlines (Outline.entry "template".toList [t.root.outline]).lines

/-- The variables of a template, as they are written: every occurrence as JSON, or the names. -/
def Template.listed (occurrences : Bool) (t : Template) : Text :=
  if occurrences then unlines [ReferenceRecord.listing (t.records?.getD [])]
  else unlines t.names

/-- The flags that a rendering is done under: those of the command line, or else the settings'. -/
def effectiveFlags (given configured : Flags) : Except Misuse Flags :=
  if given.conflict then .error .conflictingFlags
  else if given ≠ Flags.none then .ok given
  else if configured.conflict then .error .conflictingSettings
  else .ok configured

/-- Performs a task on an opened source. -/
def Task.perform (world : Surroundings) (source : Opened) : Task → Ending
  | .tree => source.withTemplate world.settings.maxDepth (·.outlined)
  | .vars occurrences => source.withTemplate world.settings.maxDepth (·.listed occurrences)
  | .render overrides useEnvironment given =>
    match effectiveFlags given world.settings.flags with
    | .error misuse => .misuse misuse []
    | .ok flags => match Store.ofAssignments overrides with
      | .error reason => .misuse (.badAssignment reason) []
      | .ok overrides =>
        let environment := if useEnvironment then some world.environment else none
        source.render world.settings.maxDepth (.overriding overrides environment) flags

/-- Does what the arguments of the program ask for. The source is opened before anything else. -/
def Request.answer (world : Surroundings) : Request → Ending
  | .groupHelp => .report (.success (overview ++ ['\n']) [])
  | .version =>
    .report (.success (unlines [(programName ++ ", version " ++ programVersion).toList]) [])
  | .help command => .report (.success (unlines (framed command.page.lines) ++ ['\n']) [])
  | .perform task source extra =>
    if source.contains '\x00' then .fault (.invalid .nulInPath) []
    else match world.opened source with
      | .error fault => .misuse (.unopened source fault) []
      | .ok opened =>
        if extra ≠ [] then .misuse (.extraArguments extra) [] else task.perform world opened

/-- Runs the program on its arguments. -/
def runCommand (world : Surroundings) (arguments : List Text) : Ending :=
  match Request.ofArguments arguments with
  | .error .noArguments => .misuse .noArguments overview
  | .error misuse => .misuse misuse []
  | .ok request => request.answer world

end ParameterExpansion
