import ParameterExpansion.Assignment
import ParameterExpansion.Command.Directory
import ParameterExpansion.Command.Help
import ParameterExpansion.Settings
import ParameterExpansion.Text.Likeness
import ParameterExpansion.Text.Quoted

/-!
# Usage

What the arguments of the program ask for. Options may stand before and behind the source of a
template, and two dashes end them; an option may be joined with its value. Asking for help or the
version comes before all else, once the arguments can be read.
-/

namespace ParameterExpansion

/-- How the program is misused. -/
inductive Misuse where
  /-- There are no arguments. -/
  | noArguments
  /-- There are arguments, but none that names a command. -/
  | noCommand
  /-- There is no command of this name; these may be meant. -/
  | noSuchCommand (name : Text) (meant : List Text)
  /-- There is no option of this name; these may be meant. -/
  | noSuchOption (name : Text) (meant : List Text)
  /-- The value of an option is missing. -/
  | missingValue (option : Text)
  /-- An option is joined with a value but takes none. -/
  | unexpectedValue (option : Text)
  /-- More than one source is named. -/
  | extraArguments (arguments : List Text)
  /-- The file of this name cannot be opened. -/
  | unopened (name : Text) (fault : FileFault)
  /-- An override is no assignment. -/
  | badAssignment (reason : InvalidValue)
  /-- Flags on the command line exclude each other. -/
  | conflictingFlags
  /-- Flags in the settings exclude each other. -/
  | conflictingSettings
  deriving DecidableEq

/-- How many names a hint holds at most. -/
def hintLimit : Nat := 3

/-- The wording of a hint at the names that may be meant. -/
def hint (meant : List Text) : Text :=
  match meant.map Text.quoted with
  | [] => []
  | [name] => " Did you mean ".toList ++ name ++ ['?']
  | names => " (Did you mean one of: ".toList ++ Text.joined [',', ' '] names ++ "?)".toList

/-- The wording of a misuse. -/
def Misuse.message : Misuse → Text
  | .noArguments => []
  | .noCommand => "Missing command.".toList
  | .noSuchCommand name meant => "No such command ".toList ++ name.quoted ++ ['.'] ++ hint meant
  | .noSuchOption name meant => "No such option ".toList ++ name.quoted ++ ['.'] ++ hint meant
  | .missingValue option => "Option ".toList ++ option.quoted ++ " requires an argument.".toList
  | .unexpectedValue option =>
    "Option ".toList ++ option.quoted ++ " does not take a value.".toList
  | .extraArguments arguments =>
    "Got unexpected extra ".toList ++
      (if arguments.length = 1 then "argument".toList else "arguments".toList) ++
      " (".toList ++ Text.joined [' '] arguments ++ [')']
  | .unopened name fault =>
    "Invalid value for '[SOURCE]': '".toList ++ name ++ "': ".toList ++ fault.message
  | .badAssignment reason => "Invalid value for '--set': ".toList ++ reason.message
  | .conflictingFlags =>
    "--keep-unset cannot be combined with --no-unset/--no-empty".toList
  | .conflictingSettings =>
    "SHX_KEEPUNSET cannot be combined with SHX_NOUNSET/SHX_NOEMPTY".toList

/-- The options of the commands. -/
inductive CommandOption where
  /-- `--help` shows the help page. -/
  | help
  /-- `--version` shows the version. -/
  | version
  /-- `--set` overrides a value. -/
  | set
  /-- `--env` reads the environment. -/
  | env
  /-- `--no-env` does not read the environment. -/
  | noEnv
  /-- `--no-unset` refuses unset variables. -/
  | noUnset
  /-- `--no-empty` refuses empty variables. -/
  | noEmpty
  /-- `--keep-unset` leaves references to unset variables as they are written. -/
  | keepUnset
  /-- `--json` lists every occurrence. -/
  | json
  deriving DecidableEq

namespace CommandOption

/-- The long name of an option. -/
def long : CommandOption → String
  | .help => "--help"
  | .version => "--version"
  | .set => "--set"
  | .env => "--env"
  | .noEnv => "--no-env"
  | .noUnset => "--no-unset"
  | .noEmpty => "--no-empty"
  | .keepUnset => "--keep-unset"
  | .json => "--json"

/-- The letter of an option, if it has one. -/
def letter? : CommandOption → Option Char
  | .set => some 's'
  | .version => some 'V'
  | _ => none

/-- The options before the name of a command. -/
def ofGroup : List CommandOption := [.version, .help]

/-- The options of a command. -/
def ofCommand : CommandName → List CommandOption
  | .render => [.set, .env, .noEnv, .noUnset, .noEmpty, .keepUnset, .help]
  | .tree => [.help]
  | .vars => [.json, .help]

end CommandOption

/-- A part of a command line. -/
inductive Item where
  /-- An option without a value. -/
  | flag (option : CommandOption)
  /-- An override. -/
  | override (written : Text)
  /-- An argument that is no option. -/
  | positional (argument : Text)

namespace Item

/-- The override that the value of an option gives: the value joined with it, or else the next
argument. How many of the next arguments are used up is told as well. -/
def ofValue (option : Text) (joined : Option Text) (next : List Text) :
    Except Misuse (List Item × Nat) :=
  match joined, next with
  | some written, _ => .ok ([.override written], 0)
  | none, written :: _ => .ok ([.override written], 1)
  | none, [] => .error (.missingValue option)

/-- The options that stand by their letters in an argument with a single dash; the value of one may
be the rest of the argument. -/
def ofLetters (options : List CommandOption) (next : List Text) :
    Text → Except Misuse (List Item × Nat)
  | [] => .ok ([], 0)
  | c :: rest => match options.find? fun o => o.letter? = some c with
    | none => .error (.noSuchOption ['-', c] [])
    | some .set => ofValue ['-', c] (if rest = [] then none else some rest) next
    | some o => do
      let (items, used) ← ofLetters options next rest
      .ok (.flag o :: items, used)

/-- The option in an argument with two dashes; a value may be joined with it by an equals sign. -/
def ofLong (options : List CommandOption) (next : List Text) (argument : Text) :
    Except Misuse (List Item × Nat) :=
  let (name, joined) := match argument.cut? ['='] with
    | some (name, value) => (name, some value)
    | none => (argument, none)
  match options.find? fun o => o.long.toList = name with
  | none =>
    .error (.noSuchOption name (name.nearest hintLimit (options.map fun o => o.long.toList)))
  | some .set => ofValue name joined next
  | some o => if joined.isSome then .error (.unexpectedValue name) else .ok ([.flag o], 0)

end Item

/-- The parts of a command line whose options are `options`. Where `mixed` is false, the first
argument that is no option ends the options. -/
def itemsOf (options : List CommandOption) (mixed : Bool) :
    List Text → Except Misuse (List Item)
  | [] => .ok []
  | argument :: next =>
    if argument = ['-', '-'] then .ok (next.map .positional)
    else if argument.length < 2 || argument.head? ≠ some '-' then
      if mixed then do
        let items ← itemsOf options mixed next
        .ok (.positional argument :: items)
      else .ok ((argument :: next).map .positional)
    else do
      let (items, used) ←
        if ['-', '-'].isPrefixOf argument then Item.ofLong options next argument
        else Item.ofLetters options next argument.tail
      let more ← itemsOf options mixed (next.drop used)
      .ok (items ++ more)
termination_by arguments => arguments.length
decreasing_by all_goals simp only [List.length_cons, List.length_drop]; omega

namespace Item

/-- The options among some items, without values. -/
def flags (items : List Item) : List CommandOption := items.filterMap fun
  | .flag o => some o
  | _ => none

/-- The overrides among some items. -/
def overrides (items : List Item) : List Text := items.filterMap fun
  | .override written => some written
  | _ => none

/-- The arguments among some items. -/
def positionals (items : List Item) : List Text := items.filterMap fun
  | .positional argument => some argument
  | _ => none

end Item

/-- What a command is to do. -/
inductive Task where
  /-- Expand a template, with these overrides, with the environment or without, under these flags. -/
  | render (overrides : List Text) (useEnvironment : Bool) (flags : Flags)
  /-- Show the tree of a template. -/
  | tree
  /-- List the variables of a template, with all occurrences or by name. -/
  | vars (occurrences : Bool)
  deriving DecidableEq

/-- What the arguments of the program ask for. -/
inductive Request where
  /-- The help of the group of commands. -/
  | groupHelp
  /-- The version. -/
  | version
  /-- The help page of a command. -/
  | help (command : CommandName)
  /-- A task on the template from a source, `-` being standard input, and arguments left over. -/
  | perform (task : Task) (source : Text) (extra : List Text)
  deriving DecidableEq

/-- Whether the environment is read: the last option that says so counts. -/
def readsEnvironment (options : List CommandOption) : Bool :=
  options.foldl (fun reads o => if o = .env then true else if o = .noEnv then false else reads) true

/-- The task that the items behind a command's name describe. -/
def Task.ofItems (items : List Item) : CommandName → Task
  | .render =>
    let options := Item.flags items
    .render (Item.overrides items) (readsEnvironment options)
      ⟨options.contains .noUnset, options.contains .noEmpty, options.contains .keepUnset⟩
  | .tree => .tree
  | .vars => .vars ((Item.flags items).contains .json)

/-- What the arguments behind a command's name ask for. -/
def Request.ofCommand (command : CommandName) (arguments : List Text) : Except Misuse Request := do
  let items ← itemsOf (CommandOption.ofCommand command) true arguments
  if (Item.flags items).contains .help then .ok (.help command)
  else
    let task := Task.ofItems items command
    match Item.positionals items with
    | [] => .ok (.perform task ['-'] [])
    | source :: extra => .ok (.perform task source extra)

/-- What the options of the group ask for: the first one counts. -/
def Request.ofGroup? (items : List Item) : Option Request :=
  (Item.flags items).head?.map fun o => if o = .version then .version else .groupHelp

/-- What the arguments of the program ask for. An argument in the place of a command that names none
is read once more, since two dashes in front may have kept it from being read as an option. -/
def Request.ofArguments (arguments : List Text) : Except Misuse Request :=
  if arguments = [] then .error .noArguments
  else do
    let items ← itemsOf CommandOption.ofGroup false arguments
    match ofGroup? items, Item.positionals items with
    | some request, _ => .ok request
    | none, [] => .error .noCommand
    | none, name :: rest => match CommandName.ofText? name with
      | some command => Request.ofCommand command rest
      | none => do
        let again ← itemsOf CommandOption.ofGroup false (name :: rest)
        match ofGroup? again with
        | some request => .ok request
        | none =>
          .error (.noSuchCommand name
            (name.nearest hintLimit (CommandName.all.map fun c => c.text.toList)))

end ParameterExpansion
