import ClassDiagram.Text.Quoted

/-!
# Files by their paths

The files that can be read, each given by its path and its text, and the search for one.  A path is walked
from left to right: empty parts and single dots stay in place, two dots go up, and any other part must name a
directory, or a file as the last part.
-/

set_option autoImplicit false

namespace ClassDiagram

/-- Files: paths and texts. -/
abbrev FileTree := List (String × String)

/-- Why there is no file at a path. -/
inductive FileFault where
  | missing
  | notDirectory
  | isDirectory
  | nameTooLong
  | nullInPath
  deriving Repr, DecidableEq

/-- The wording of a fault at a path. -/
def FileFault.message (path : String) : FileFault → String
  | missing => "[Errno 2] No such file or directory: " ++ Text.quoted path
  | notDirectory => "[Errno 20] Not a directory: " ++ Text.quoted path
  | isDirectory => "[Errno 21] Is a directory: " ++ Text.quoted path
  | nameTooLong => "[Errno 36] File name too long: " ++ Text.quoted path
  | nullInPath => "embedded null byte"

namespace FileTree

/-- The parts of a path. -/
def parts (path : String) : List String := path.splitOn "/"

/-- Whether a part of a path stays in place. -/
def staysInPlace (part : String) : Bool := part == "" || part == "."

/-- The parts of the path of a file that name something. -/
def namedParts (path : String) : List String := (parts path).filter (!staysInPlace ·)

/-- The file with exactly these parts. -/
def fileAt? (files : FileTree) (place : List String) : Option String :=
  (files.find? fun (path, _) => namedParts path == place).map Prod.snd

/-- Whether there is a file below a place. -/
def isDirectory (files : FileTree) (place : List String) : Bool :=
  files.any fun (path, _) => place.isPrefixOf (namedParts path)

/-- The most octets of a name. -/
def longestName : Nat := 255

/-- What a path leads to outside of the files. -/
def outside (rest : List String) : FileFault :=
  if rest.all fun part => staysInPlace part || part == ".." then .isDirectory else .missing

/-- The text of the file that the parts of a path lead to from a place. -/
def walk (files : FileTree) (place : List String) : List String → Except FileFault String
  | [] => throw .isDirectory
  | part :: rest =>
    if staysInPlace part then walk files place rest
    else if part == ".." then
      if place.isEmpty then throw (outside rest) else walk files place.dropLast rest
    else if longestName < part.utf8ByteSize then throw .nameTooLong
    else
      let place := place ++ [part]
      match files.fileAt? place with
      | some text => if rest.isEmpty then return text else throw .notDirectory
      | none => if files.isDirectory place then walk files place rest else throw .missing

/-- The least number of octets that no path has. -/
def overlongPath : Nat := 4096

/-- The text of the file at a path. -/
def find (files : FileTree) (path : String) : Except FileFault String :=
  if path.isEmpty then throw .missing
  else if path.toList.any fun c => c.toNat == 0 then throw .nullInPath
  else if overlongPath ≤ path.utf8ByteSize then throw .nameTooLong
  else
    match parts path with
    | "" :: rest => throw (outside rest)
    | all => walk files [] all

end FileTree

end ClassDiagram
