import TapeMachine.File.Path
import TapeMachine.Text.Quoted

/-!
# Files

A file tree holds files and empty directories under the directory one is in.  A path is followed
name by name: every name but the last has to lead to a directory, and the last one to a file.
Outside the tree nothing is known but the directories above it.
-/

set_option autoImplicit false

namespace TapeMachine

inductive FileTrouble where
  | missing
  | notDirectory
  | isDirectory
  | nameTooLong
  | other (code : Nat) (text : String)
  deriving DecidableEq, Repr

namespace FileTrouble

def code : FileTrouble → Nat
  | missing => 2
  | notDirectory => 20
  | isDirectory => 21
  | nameTooLong => 36
  | other code _ => code

def text : FileTrouble → String
  | missing => "No such file or directory"
  | notDirectory => "Not a directory"
  | isDirectory => "Is a directory"
  | nameTooLong => "File name too long"
  | other _ text => text

end FileTrouble

structure FileFault where
  path : Path
  trouble : FileTrouble
  deriving DecidableEq, Repr

namespace FileFault

def message (fault : FileFault) : String :=
  "[Errno " ++ toString fault.trouble.code ++ "] " ++ fault.trouble.text ++ ": "
    ++ Text.quoted fault.path.text

end FileFault

abbrev FileReader := Path → Except FileTrouble (List UInt8)

/-- Files with their bytes, and empty directories, by the names that lead to them. -/
structure FileTree where
  files : List (List String × List UInt8)
  directories : List (List String)
  deriving DecidableEq, Repr

namespace FileTree

inductive Entry where
  | file (bytes : List UInt8)
  | directory
  deriving DecidableEq, Repr

/-- Where one stands while a path is followed. -/
inductive Spot where
  | inside (names : List String)
  | atFile (bytes : List UInt8)
  /-- In a directory above the tree. -/
  | above
  deriving DecidableEq, Repr

/-- The longest name, in bytes. -/
def nameLimit : Nat := 255

/-- The length from which on a whole path is too long, in bytes. -/
def pathLimit : Nat := 4096

/-- Whether some names lead to a directory: to an empty one, or to one that holds something. -/
def isDirectory (tree : FileTree) (names : List String) : Bool :=
  names.isEmpty || tree.directories.any names.isPrefixOf
    || tree.files.any fun entry => names.isPrefixOf entry.1

def entry? (tree : FileTree) (names : List String) : Option Entry :=
  match tree.files.find? fun entry => entry.1 = names with
  | some entry => some (.file entry.2)
  | none => if tree.isDirectory names then some .directory else none

def enter (tree : FileTree) (spot : Spot) (name : String) : Except FileTrouble Spot :=
  match spot with
  | .atFile _ => .error .notDirectory
  | .above =>
    if name = ".." then .ok .above
    else if nameLimit < name.utf8ByteSize then .error .nameTooLong
    else .error .missing
  | .inside names =>
    if name = ".." then .ok (if names.isEmpty then .above else .inside names.dropLast)
    else if nameLimit < name.utf8ByteSize then .error .nameTooLong
    else
      match tree.entry? (names ++ [name]) with
      | some (.file bytes) => .ok (.atFile bytes)
      | some .directory => .ok (.inside (names ++ [name]))
      | none => .error .missing

def startOf (path : Path) : Spot :=
  match path.root with
  | .here => .inside []
  | .top | .doubleTop => .above

def read (tree : FileTree) : FileReader := fun path => do
  if pathLimit ≤ path.text.utf8ByteSize then throw .nameTooLong
  match ← path.names.foldlM tree.enter (startOf path) with
  | .atFile bytes => return bytes
  | .inside _ | .above => throw .isDirectory

/-- Adds a file, or an empty directory when there are no bytes, under the path a text stands for. -/
def add (tree : FileTree) (path : String) (bytes : Option (List UInt8)) : FileTree :=
  let names := (Path.ofString path).names
  match bytes with
  | some bytes => { tree with files := tree.files ++ [(names, bytes)] }
  | none => { tree with directories := tree.directories ++ [names] }

def empty : FileTree := ⟨[], []⟩

end FileTree

end TapeMachine
