import PartitionTest.Text.Blank

/-! Files as a program sees them: contents by path, and why there are none. -/
namespace PartitionTest

inductive FileError where
  | notFound
  | permissionDenied
  | notDirectory
  | isDirectory
  | exists
  | notEmpty
  | noSpace
  | nameTooLong
  | badDescriptor
  | notText
  /-- No path contains the character zero. -/
  | zeroInPath
deriving DecidableEq, Repr, Inhabited

def FileError.reason : FileError → String
  | .notFound => "No such file or directory"
  | .permissionDenied => "Permission denied"
  | .notDirectory => "Not a directory"
  | .isDirectory => "Is a directory"
  | .exists => "File exists"
  | .notEmpty => "Directory not empty"
  | .noSpace => "No space left on device"
  | .nameTooLong => "File name too long"
  | .badDescriptor => "Bad file descriptor"
  | .notText => "stream did not contain valid UTF-8"
  | .zeroInPath => "file name contained an unexpected NUL byte"

def FileError.number? : FileError → Option Nat
  | .notFound => some 2
  | .badDescriptor => some 9
  | .permissionDenied => some 13
  | .exists => some 17
  | .notDirectory => some 20
  | .isDirectory => some 21
  | .noSpace => some 28
  | .nameTooLong => some 36
  | .notEmpty => some 39
  | .notText | .zeroInPath => none

def FileError.message (e : FileError) : String :=
  match e.number? with
  | some n => e.reason ++ " (os error " ++ toString n ++ ")"
  | none => e.reason

/-- What can be read at some moment. -/
structure FileView where
  size : String → Except FileError Nat
  bytes : String → Except FileError ByteArray

def FileView.text (files : FileView) (path : String) : Except FileError String := do
  match String.fromUTF8? (← files.bytes path) with
  | some text => return text
  | none => throw .notText

namespace Path

def parts (path : String) : List (List Char) :=
  Text.split (· == '/') path.toList

def ofParts (parts : List (List Char)) : String :=
  String.ofList (Text.join ['/'] parts)

def isAbsolute (path : String) : Bool := path.toList.head? == some '/'

def join (base path : String) : String :=
  if isAbsolute path || base.isEmpty then path
  else if base.toList.getLast? == some '/' then base ++ path
  else base ++ "/" ++ path

/-- Drops trailing parts, last first, that lead nowhere. A single dot at the
very start of a relative path is no such part. -/
def dropIdle (rooted : Bool) : List (List Char) → List (List Char)
  | [] => []
  | ['.'] :: [] => if rooted then [] else [['.']]
  | part :: rest => if part = [] ∨ part = ['.'] then dropIdle rooted rest else part :: rest

def parent? (path : String) : Option String :=
  let rooted := isAbsolute path
  let parts := if rooted then (parts path).drop 1 else parts path
  match dropIdle rooted parts.reverse with
  | [] => none
  | _ :: rest =>
    let above := ofParts (dropIdle rooted rest).reverse
    some (if rooted then "/" ++ above else above)

end Path

end PartitionTest
