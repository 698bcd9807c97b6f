/-
The files of a small Unix system: which paths there are, what can be run, and what happens when a
file is opened for writing.
-/

namespace DebugSession
namespace Host

/-- What stands at a path. -/
inductive Entry where
  | directory
  | file
  | program
deriving Repr, DecidableEq, Inhabited

/-- The names of the parts of a path from the root, with `.` and `..` taken out. -/
def resolvePath (path : String) : List String :=
  let parts := (path.toList.splitOn '/').map String.ofList
  let stack := parts.foldl (fun stack part =>
    if part = "" || part = "." then stack
    else if part = ".." then stack.drop 1
    else part :: stack) []
  stack.reverse

def programNames : List String := ["sh", "dash", "sleep", "true", "false", "echo"]

def programDirectories : List (List String) := [["bin"], ["usr", "bin"]]

def directories : List (List String) :=
  [[], ["bin"], ["sbin"], ["usr"], ["usr", "bin"], ["usr", "lib"], ["usr", "local"], ["etc"],
    ["tmp"], ["var"], ["var", "tmp"], ["dev"], ["proc"], ["root"], ["home"], ["lib"], ["opt"],
    ["run"], ["sys"]]

def plainFiles : List (List String) :=
  [["etc", "passwd"], ["etc", "group"], ["etc", "hosts"], ["etc", "hostname"], ["dev", "null"],
    ["dev", "zero"]]

/-- What stands at a path given by its parts. -/
def entryAt? (parts : List String) : Option Entry :=
  if directories.contains parts then some .directory
  else if plainFiles.contains parts then some .file
  else if programDirectories.contains parts.dropLast &&
      programNames.contains (parts.getLast?.getD "") then some .program
  else none

/-- A path that does not start at the root starts at a directory without entries. -/
def isRelative (path : String) : Bool := path.toList.head? != some '/'

/-- What a path leads to.  A slash at the end asks for a directory. -/
def lookup? (path : String) : Option Entry :=
  if path.isEmpty then none
  else if isRelative path then
    if (path.toList.splitOn '/').all fun part => part = [] || part = ['.'] || part = ['.', '.'] then
      some .directory
    else none
  else
    match entryAt? (resolvePath path) with
    | some .directory => some .directory
    | some e => if path.toList.getLast? = some '/' then none else some e
    | none => none

def noSuchFile : String := "No such file or directory (os error 2)"
def permissionDenied : String := "Permission denied (os error 13)"
def notADirectory : String := "Not a directory (os error 20)"
def isADirectory : String := "Is a directory (os error 21)"

/-- Opens a file for writing; a file that is not there is made if its directory is. -/
def openForWriting (path : String) : Except String Unit :=
  match lookup? path with
  | some .directory => .error isADirectory
  | some _ => .ok ()
  | none =>
    if path.isEmpty then .error noSuchFile
    else
      let parts := resolvePath path
      match entryAt? parts.dropLast with
      | some .directory => .ok ()
      | some _ => .error notADirectory
      | none => if isRelative path && parts.length = 1 then .ok () else .error noSuchFile

/-- A program found under a name, as the directories of programs list it. -/
def findProgram? (name : String) : Option String :=
  if name.toList.contains '/' then
    if lookup? name = some .program then some name else none
  else if programNames.contains name then some ("/usr/bin/" ++ name)
  else none

end Host
end DebugSession
