import ParameterExpansion.Text

/-!
# Directories

A directory that holds files and no further directories, and what a path leads to from there. A path
is followed step by step, a step being what stands between two slashes; the directories outside,
which a path may lead through, hold nothing that is known.
-/

namespace ParameterExpansion

/-- Why a file cannot be opened. -/
inductive FileFault where
  /-- There is no file of this name. -/
  | missing
  /-- It is a directory. -/
  | directory
  /-- The path leads through a file as if it were a directory. -/
  | notDirectory
  /-- The path or a step of it is too long. -/
  | nameTooLong
  /-- It may not be read. -/
  | denied
  deriving DecidableEq

/-- The wording of a file fault. -/
def FileFault.message : FileFault → Text
  | .missing => "No such file or directory".toList
  | .directory => "Is a directory".toList
  | .notDirectory => "Not a directory".toList
  | .nameTooLong => "File name too long".toList
  | .denied => "Permission denied".toList

/-- The number of octets of a text. -/
def Text.octetCount (t : Text) : Nat := t.foldl (fun count c => count + c.utf8Size) 0

/-- The most octets of a step of a path. -/
def longestStep : Nat := 255

/-- The most octets of a path. -/
def longestPath : Nat := 4095

/-- The steps of a path: what stands between its slashes. -/
def Text.steps : Text → List Text
  | [] => [[]]
  | c :: rest =>
    if c = '/' then [] :: steps rest
    else match steps rest with
      | [] => [[c]]
      | step :: more => (c :: step) :: more

/-- Where a path has led to. -/
inductive Place where
  /-- The directory itself. -/
  | inside
  /-- A directory outside. -/
  | outside
  /-- A file with these octets. -/
  | file (octets : List UInt8)

/-- A directory: its files by name. -/
structure Directory where
  /-- The names of the files with their octets. -/
  files : List (Text × List UInt8)

namespace Directory

/-- Where a step leads to. No step and a dot stay in a directory, and two dots leave it. -/
def follow (d : Directory) (step : Text) : Place → Except FileFault Place
  | .file _ => .error .notDirectory
  | place =>
    if step = [] ∨ step = ['.'] then .ok place
    else if step = ['.', '.'] then .ok .outside
    else if longestStep < step.octetCount then .error .nameTooLong
    else match place, d.files.lookup step with
      | .inside, some octets => .ok (.file octets)
      | _, _ => .error .missing

/-- Where a path leads to. A slash in front leads outside at once. -/
def locate (d : Directory) (path : Text) : Except FileFault Place :=
  path.steps.foldlM (fun place step => d.follow step place)
    (if path.head? = some '/' then .outside else .inside)

/-- The octets of the file that a path leads to. -/
def read (d : Directory) (path : Text) : Except FileFault (List UInt8) :=
  if path = [] then .error .missing
  else if longestPath < path.octetCount then .error .nameTooLong
  else match d.locate path with
    | .error fault => .error fault
    | .ok (.file octets) => .ok octets
    | .ok _ => .error .directory

end Directory

end ParameterExpansion
