import ActionRelay.CommandLine
/-!
# Folders

A folder of text files in memory, and the program run inside it. Paths start
in the folder; folders inside it are there as far as files lie in them. Of
what is around it only the devices are known, and in how many folders it lies
itself, in which a new file can be written. A run changes the folder only by
its output file.
-/

namespace ActionRelay

/-- A folder with text files in it, somewhere below the top. -/
structure Folder where
  /-- The files by their names, which have slashes between the folders they
  lie in. -/
  files : List (String × String)
  /-- How many levels the folder lies below the top. -/
  depth : Nat

namespace Folder

/-- Files that are no texts on a disk. -/
inductive Device where
  /-- It is empty, whatever is written to it. -/
  | empty
  /-- What is written to it goes to the output of the run. -/
  | output
  /-- What is written to it goes to the error output of the run. -/
  | errors
deriving DecidableEq

/-- The folder that steps of a path lead to. -/
inductive Place where
  /-- The top of everything. -/
  | root
  /-- The folder of the devices. -/
  | devices
  /-- A folder that lies in the folder, or the folder itself. -/
  | inside (path : List String)
  /-- A folder that the folder lies in, so many levels above it. -/
  | above (levels : Nat)
deriving DecidableEq

/-- The file that a path leads to, whether it is there or not. -/
inductive Destination where
  /-- A file in the folder. -/
  | file (name : String)
  /-- A new file in a folder that the folder lies in. -/
  | elsewhere
  | device (device : Device)
deriving DecidableEq

/-- The device of a name. -/
def Device.ofName? : String → Option Device
  | "null" => some empty
  | "stdin" => some empty
  | "stdout" => some output
  | "stderr" => some errors
  | _ => none

/-- The parts of a path between its slashes. -/
def parts (path : String) : List String :=
  path.splitOn "/"

/-- The longest path, in bytes. -/
def maxPath : Nat := 4095

/-- The longest name of a file, in bytes. -/
def maxName : Nat := 255

/-- Whether a row of parts leads to a folder. -/
def isFolder (folder : Folder) (path : List String) : Bool :=
  path.isEmpty ||
    folder.files.any fun (name, _) =>
      path.length < (parts name).length && path.isPrefixOf (parts name)

/-- The folder that is called `name` in the given one. -/
def enter? (folder : Folder) (name : String) : Place → Option Place
  | .root => if name = "dev" then some .devices else none
  | .devices => none
  | .inside here =>
    if folder.isFolder (here ++ [name]) then some (.inside (here ++ [name])) else none
  | .above _ => none

/-- The place so many levels above the folder; nothing is above the top. -/
def climb (folder : Folder) (levels : Nat) : Place :=
  if levels < folder.depth then .above levels else .root

/-- The folder that the given one lies in. -/
def leave (folder : Folder) : Place → Place
  | .root => .root
  | .devices => .root
  | .inside [] => folder.climb 1
  | .inside here => .inside here.dropLast
  | .above levels => folder.climb (levels + 1)

/-- Follows the parts of a path; each step has to lead to a folder. -/
def follow? (folder : Folder) : Place → List String → Option Place
  | place, [] => some place
  | place, "" :: rest => follow? folder place rest
  | place, "." :: rest => follow? folder place rest
  | place, ".." :: rest => follow? folder (folder.leave place) rest
  | place, name :: rest => (folder.enter? name place).bind (follow? folder · rest)

/-- The file that is called `name` in a folder, if that is no folder. -/
def fileAt? (folder : Folder) (name : String) : Place → Option Destination
  | .root => none
  | .devices => (Device.ofName? name).map .device
  | .inside here =>
    if folder.isFolder (here ++ [name]) then none
    else some (.file (String.intercalate "/" (here ++ [name])))
  | .above _ => some .elsewhere

/-- The file that a path leads to; `none` if it leads to no file, or is too
long. -/
def locate? (folder : Folder) (path : String) : Option Destination :=
  let start := if path.startsWith "/" then Place.root else .inside []
  match (parts path).reverse with
  | [] => none
  | name :: before =>
    if maxPath < path.utf8ByteSize ∨ maxName < name.utf8ByteSize ∨ name ∈ ["", ".", ".."] then none
    else (folder.follow? start before.reverse).bind (folder.fileAt? name)

/-- The text of the file that a path leads to. -/
def read? (folder : Folder) (path : String) : Option String :=
  match folder.locate? path with
  | some (.file name) => folder.files.lookup name
  | some (.device .empty) => some ""
  | _ => none

/-- The folder with the text in the file of that name. -/
def put (folder : Folder) (name text : String) : Folder :=
  { folder with files := (name, text) :: folder.files.filter (·.1 != name) }

/-- The files that are in the folder now and were not there before, or with
another text. -/
def changesSince (now before : Folder) : List (String × String) :=
  now.files.filter fun (name, text) => before.files.lookup name != some text

/-- Writes the output file of a report, if it has one. -/
def write (folder : Folder) (report : Report) : Folder × Report :=
  match report.output with
  | none => (folder, report)
  | some (path, text) =>
    match folder.locate? path with
    | none => (folder, report.cannotWrite path)
    | some (.file name) => (folder.put name text, report)
    | some .elsewhere => (folder, report)
    | some (.device .empty) => (folder, report)
    | some (.device .output) => (folder, { report with stdout := text })
    | some (.device .errors) => (folder, { report with stderr := [text] })

/-- Runs the program on its arguments inside the folder: the folder
afterwards, and the report. -/
def run (folder : Folder) (arguments : List String) : Folder × Report :=
  folder.write (runArguments arguments folder.read?)

end Folder

end ActionRelay
