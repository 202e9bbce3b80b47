import ParameterExpansion.Text

/-!
# Help

The help pages of the commands: plain lines for the group of commands, a framed page for each one.
-/

namespace ParameterExpansion

/-- The name of the program. -/
def programName : String := "shexpand"

/-- The version of the program. -/
def programVersion : String := "0.1.0"

/-- The commands. -/
inductive CommandName where
  /-- Expands a template. -/
  | render
  /-- Shows the tree of a template. -/
  | tree
  /-- Lists the variables of a template. -/
  | vars
  deriving DecidableEq

namespace CommandName

/-- Every command. -/
def all : List CommandName := [.render, .tree, .vars]

/-- How a command is called. -/
def text : CommandName → String
  | .render => "render"
  | .tree => "tree"
  | .vars => "vars"

/-- What a command does, in a few words. -/
def summary : CommandName → String
  | .render => "Expand a template"
  | .tree => "Show the syntax tree of a template"
  | .vars => "List variables referenced by a template"

/-- The command with a name, where there is one. -/
def ofText? (name : Text) : Option CommandName := all.find? fun c => c.text.toList = name

end CommandName

/-- Lines, each with its line feed. -/
def unlines (lines : List Text) : Text := lines.flatMap (· ++ ['\n'])

/-- The help of the group of commands, without the empty line that ends it. -/
def overview : Text :=
  unlines ((["Usage: " ++ programName ++ " [OPTIONS] COMMAND [ARGS]...", "",
    "Shell-style parameter expansion for text templates.", "", "Available Commands:"] ++
    CommandName.all.map (fun c => "- " ++ c.text ++ ": " ++ c.summary) ++
    ["", "Options:", "- -V, --version: Show the version and exit.",
     "- --help: Show this message and exit."]).map String.toList)

/-- A help page: what the command does, how it is called, and its arguments and options. -/
structure HelpPage where
  /-- What the command does. -/
  description : String
  /-- How it is called. -/
  usage : String
  /-- Each argument and option with its meaning. -/
  arguments : List (String × String)

/-- The lines of a help page, the empty one at its end included. -/
def HelpPage.lines (page : HelpPage) : List Text :=
  ([page.description, "", "Usage:", "    " ++ page.usage, "", "Arguments:"] ++
    page.arguments.map (fun a => "    " ++ a.1 ++ ": " ++ a.2) ++ [""]).map String.toList

/-- Lines in a frame, one blank between the frame and the longest one. -/
def framed (lines : List Text) : List Text :=
  let width := (lines.map List.length).foldl max 0
  let bar := List.replicate (width + 2) '─'
  let row (line : Text) := ['│', ' '] ++ line ++ List.replicate (width - line.length) ' ' ++ [' ', '│']
  [['╭'] ++ bar ++ ['╮']] ++ lines.map row ++ [['╰'] ++ bar ++ ['╯']]

/-- The meaning of the argument that all commands have. -/
def fileArgument : String × String := ("[FILE]", "Template file, '-' or omitted for stdin.")

/-- The help page of a command. -/
def CommandName.page : CommandName → HelpPage
  | .render => {
      description := "Expand shell-style $\x7b...\x7d references in a template."
      usage := programName ++ " render [OPTIONS] [FILE]"
      arguments := [fileArgument,
        ("-s, --set NAME=VALUE", "Value override, may be repeated."),
        ("--no-env", "Do not read the process environment."),
        ("--no-unset", "Fail on unset variables used without a default."),
        ("--no-empty", "Fail on empty variables used without a default."),
        ("--keep-unset", "Leave references to unset variables as written.")] }
  | .tree => {
      description := "Parse a template and print its syntax tree."
      usage := programName ++ " tree [FILE]"
      arguments := [fileArgument] }
  | .vars => {
      description := "List the variables a template refers to."
      usage := programName ++ " vars [--json] [FILE]"
      arguments := [fileArgument,
        ("--json", "Print every occurrence with operator and position.")] }

end ParameterExpansion
