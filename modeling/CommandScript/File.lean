import CommandScript.Text.Quoted
import CommandScript.Text.Split

/-!
# Files

Paths of files in plain form, without parts that lead nowhere, what comes of opening a file, and
files laid down in advance. These lie in one directory; a name with slashes lies in a directory of
its own.

## Main definitions

- `CommandScript.Text.FileName.plain` — a path in plain form
- `CommandScript.Text.FileName.stem` — the name of a file without its ending
- `CommandScript.OpenError` — why a file is not opened
- `CommandScript.Opened` — what comes of opening a file
- `CommandScript.Files` — files laid down in advance
- `CommandScript.Files.opened` — what comes of opening one of them
-/

namespace CommandScript

namespace Text.FileName

/-- The slashes with which a plain path begins: exactly two are kept. -/
def root (cs : List Char) : List Char :=
  match cs.takeWhile (· = '/') with
  | [] => []
  | ['/', '/'] => ['/', '/']
  | _ => ['/']

/-- The parts of a path that lead somewhere. -/
def parts (cs : List Char) : List (List Char) :=
  (splitAt '/' cs).filter fun p => !p.isEmpty && p ≠ ['.']

/-- A path in plain form. -/
def plain (path : String) : String :=
  let cs := path.toList
  match root cs ++ ['/'].intercalate (parts cs) with
  | [] => "."
  | p => String.ofList p

/-- The name of a file without its ending. A dot in front or at the end begins no ending. -/
def stem (path : String) : String :=
  let name := (parts path.toList).getLast?.getD []
  let ending := name.reverse.takeWhile (· ≠ '.')
  let rest := name.take (name.length - ending.length - 1)
  String.ofList (if ending.isEmpty || rest.isEmpty then name else rest)

end Text.FileName

/-- Why a file is not opened. -/
inductive OpenError where
  | missing
  | directory
  /-- The path leads through a file. -/
  | blocked
  /-- The path, or a name in it, is too long. -/
  | tooLong
  /-- There is a null character in the path. -/
  | nullInPath
  deriving DecidableEq, Repr

namespace OpenError

/-- The word for the kind of an error. -/
def kind : OpenError → String
  | .missing => "FileNotFoundError"
  | .directory => "IsADirectoryError"
  | .blocked => "NotADirectoryError"
  | .tooLong => "OSError"
  | .nullInPath => "ValueError"

/-- The wording of an error, given the path. -/
def message (path : String) : OpenError → String
  | .missing => "[Errno 2] No such file or directory: " ++ Text.quoted path
  | .directory => "[Errno 21] Is a directory: " ++ Text.quoted path
  | .blocked => "[Errno 20] Not a directory: " ++ Text.quoted path
  | .tooLong => "[Errno 36] File name too long: " ++ Text.quoted path
  | .nullInPath => "embedded null byte"

/-- What is wrong with a path, whatever files there are. -/
def ofPath? (path : String) : Option OpenError :=
  let tooLong := fun (name : List Char) => 255 < (String.ofList name).utf8ByteSize
  if path.toList.contains '\x00' then some .nullInPath
  else if 4095 < path.utf8ByteSize ∨ (Text.FileName.parts path.toList).any tooLong then
    some .tooLong
  else none

end OpenError

/-- What comes of opening a file: its content, or why it is not opened. -/
abbrev Opened := Except OpenError (List UInt8)

/-- Files laid down in advance, by their paths. -/
abbrev Files := List (String × List UInt8)

namespace Files

/-- Whether a path names a directory. -/
def isDirectory (files : Files) (path : String) : Bool :=
  path == "." || (Text.FileName.parts path.toList).all (· = ['.', '.']) ||
    files.any fun f => (path ++ "/").toList.isPrefixOf f.1.toList

/-- Whether a path leads through a file. -/
def isBlocked (files : Files) (path : String) : Bool :=
  files.any fun f => (f.1 ++ "/").toList.isPrefixOf path.toList

/-- What comes of opening a file. -/
def opened (files : Files) (path : String) : Opened :=
  match files.lookup path with
  | some bytes => .ok bytes
  | none =>
    if files.isDirectory path then .error .directory
    else if files.isBlocked path then .error .blocked
    else .error ((OpenError.ofPath? path).getD .missing)

end Files

end CommandScript
