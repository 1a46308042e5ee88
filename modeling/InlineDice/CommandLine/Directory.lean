import InlineDice.Text.Quoted

namespace InlineDice.CommandLine

/-- Why a file cannot be opened. -/
inductive OpenFailure where
  | missing
  | notDirectory
  | isDirectory
  | nameTooLong
  | other (number : Nat) (reason : Text)
  deriving DecidableEq

namespace OpenFailure

def number : OpenFailure → Nat
  | missing => 2
  | notDirectory => 20
  | isDirectory => 21
  | nameTooLong => 36
  | other number _ => number

def reason : OpenFailure → Text
  | missing => "No such file or directory".toList
  | notDirectory => "Not a directory".toList
  | isDirectory => "Is a directory".toList
  | nameTooLong => "File name too long".toList
  | other _ reason => reason

/-- The failure of a number. One that is not known by its number keeps the reason given. -/
def ofNumber (number : Nat) (reason : Text) : OpenFailure :=
  match number with
  | 2 => missing
  | 20 => notDirectory
  | 21 => isDirectory
  | 36 => nameTooLong
  | number => other number reason

def message (failure : OpenFailure) (path : Text) : Text :=
  "[Errno ".toList ++ Nat.toDigits 10 failure.number ++ "] ".toList ++ failure.reason ++
    ": ".toList ++ Quoted.encode path

end OpenFailure

abbrev Bytes := List UInt8

/-- How files are opened for reading. -/
abbrev Opener := Text → Except OpenFailure Bytes

/-- A directory that holds files and no directories. -/
abbrev Directory := List (Text × Bytes)

namespace Directory

def byteLength (s : Text) : Nat := s.foldl (fun length c => length + c.utf8Size) 0

/-- Where a path has led after some of its parts: to the directory of the files, to the root, to the
directory of devices, to another directory, or to a file. -/
inductive Place where
  | here
  | root
  | devices
  | elsewhere
  | file (content : Bytes)

/-- Directories that stand at every root. -/
def standing : List Text :=
  ["bin", "etc", "home", "lib", "opt", "proc", "root", "run", "sbin", "sys", "tmp", "usr", "var"].map
    String.toList

/-- What a place holds by a name. Of the devices only the empty one is known, and nothing of what other
directories hold. -/
def entry? (files : Directory) (name : Text) : Place → Option Place
  | .here => (files.lookup name).map .file
  | .root =>
    if name = "dev".toList then some .devices
    else if standing.contains name then some .elsewhere
    else none
  | .devices => if name = "null".toList then some (.file []) else none
  | .elsewhere | .file _ => none

/-- The directory above a place. -/
def above : Place → Place
  | .root | .devices => .root
  | _ => .elsewhere

def follow (files : Directory) (place : Place) (part : Text) : Except OpenFailure Place :=
  match place with
  | .file _ => .error .notDirectory
  | place =>
    if part = [] ∨ part = ['.'] then .ok place
    else if part = ['.', '.'] then .ok (above place)
    else if 255 < byteLength part then .error .nameTooLong
    else
      match entry? files part place with
      | some place => .ok place
      | none => .error .missing

/-- Opens a file by its path from the directory of the files or from the root. -/
def opener (files : Directory) : Opener := fun path =>
  if path = [] then .error .missing
  else if 4095 < byteLength path then .error .nameTooLong
  else do
    let start : Place := if path.head? = some '/' then .root else .here
    match ← (path.splitOn '/').foldlM (follow files) start with
    | .file content => return content
    | _ => .error .isDirectory

end Directory

end InlineDice.CommandLine
