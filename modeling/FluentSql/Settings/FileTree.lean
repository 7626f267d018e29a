import FluentSql.Settings.Path

/-!
# File trees

Directories with files below them, and how a path is followed through them: from the root
or from the working directory, name by name. The first obstacle on the way tells why
nothing is found.
-/

namespace FluentSql

inductive FileTree where
  | file (content : String)
  | directory (children : List (String × FileTree))

/-- Why a file cannot be read. -/
inductive FileFault where
  | missing
  | notDirectory
  | isDirectory
  | nameTooLong
  /-- No path has a NUL in it. -/
  | unexpectedNul
  deriving DecidableEq

namespace FileFault

def text : FileFault → String
  | missing => "No such file or directory (os error 2)"
  | notDirectory => "Not a directory (os error 20)"
  | isDirectory => "Is a directory (os error 21)"
  | nameTooLong => "File name too long (os error 36)"
  | unexpectedNul => "file name contained an unexpected NUL byte"

end FileFault

namespace FileTree

/-- A node with the directories above it, the nearest first. -/
structure Place where
  node : FileTree
  above : List FileTree

/-- The longest name, in bytes. -/
def maxName : Nat := 255

/-- The longest path, in bytes. -/
def maxPath : Nat := 4095

/-- One name further. An empty name and a point stay at the place, which has to be a
directory all the same; above the root is the root. -/
def Place.follow (p : Place) (name : String) : Except FileFault Place :=
  match p.node with
  | file _ => .error .notDirectory
  | directory children =>
    if name = "" ∨ name = "." then .ok p
    else if name = ".." then
      match p.above with
      | [] => .ok p
      | parent :: rest => .ok ⟨parent, rest⟩
    else if maxName < name.utf8ByteSize then .error .nameTooLong
    else match children.lookup name with
      | some child => .ok ⟨child, p.node :: p.above⟩
      | none => .error .missing

/-- The place at the end of a chain of names. -/
def Place.followAll (p : Place) : List String → Except FileFault Place
  | [] => .ok p
  | name :: rest =>
    match p.follow name with
    | .ok next => next.followAll rest
    | .error fault => .error fault

/-- The content of the file at a path, which starts in an empty working directory below the
root unless it starts with a slash. -/
def read (root : FileTree) (path : String) : Except FileFault String :=
  if path.toList.contains '\x00' then .error .unexpectedNul
  else if path = "" then .error .missing
  else if maxPath < path.utf8ByteSize then .error .nameTooLong
  else
    let start := if path.toList.head? = some '/' then ⟨root, []⟩ else ⟨directory [], [root]⟩
    match Place.followAll start ((FilePath.pieces path.toList).map String.ofList) with
    | .error fault => .error fault
    | .ok place =>
      match place.node with
      | file content => .ok content
      | directory _ => .error .isDirectory

/-- What every host has: the usual directories and the null device. -/
def bare : FileTree :=
  directory
    [("dev", directory [("null", file ""), ("zero", file ""), ("random", file ""),
        ("urandom", file ""), ("tty", file "")]),
      ("etc", directory [("passwd", file "root:x:0:0::/root:/bin/sh\n")]),
      ("bin", directory []), ("home", directory []), ("opt", directory []),
      ("proc", directory []), ("root", directory []), ("sys", directory []),
      ("tmp", directory []), ("usr", directory []), ("var", directory [("tmp", directory [])])]

end FileTree

end FluentSql
