/-! # Files

Reading a file by its path, in a directory that holds files and nothing else. What lies outside of
the directory is taken to hold nothing.
-/

namespace DynamicDns.Command

/-- Why a file cannot be read. -/
inductive FileFault where
  | notFound
  | notDirectory
  | isDirectory
  | nameTooLong
  /-- The content is no text. -/
  | notText
  /-- Anything else, in the words of the system. -/
  | other (reason : String)
  deriving DecidableEq, Repr

def FileFault.message : FileFault → String
  | .notFound => "No such file or directory (os error 2)"
  | .notDirectory => "Not a directory (os error 20)"
  | .isDirectory => "Is a directory (os error 21)"
  | .nameTooLong => "File name too long (os error 36)"
  | .notText => "stream did not contain valid UTF-8"
  | .other reason => reason

/-- The files of the directory by name. -/
abbrev Directory := List (String × String)

namespace Directory

/-- The most bytes that a name and a path may have. -/
def maxName : Nat := 255

def maxPath : Nat := 4095

/-- Where the names of a path lead. -/
inductive Place where
  | inside
  | outside
  | file (content : String)

/-- Follows one name of a path. -/
def enter (d : Directory) (place : Place) (name : String) : Except FileFault Place :=
  match place with
  | .file _ => .error .notDirectory
  | .outside => if ["", ".", ".."].contains name then .ok .outside else .error .notFound
  | .inside =>
    if ["", "."].contains name then .ok .inside
    else if name = ".." then .ok .outside
    else if maxName < name.utf8ByteSize then .error .nameTooLong
    else
      match d.lookup name with
      | some content => .ok (.file content)
      | none => .error .notFound

/-- The names between the slashes of a path. -/
def names : List Char → List (List Char)
  | [] => [[]]
  | c :: rest =>
    if c = '/' then [] :: names rest
    else
      match names rest with
      | [] => [[c]]
      | name :: later => (c :: name) :: later

def read (d : Directory) (path : String) : Except FileFault String := do
  if maxPath < path.utf8ByteSize then .error .nameTooLong
  let start := if path.toList.head? = some '/' then Place.outside else .inside
  match ← ((names path.toList).map String.ofList).foldlM (enter d) start with
  | .file content => .ok content
  | _ => .error .isDirectory

end Directory

end DynamicDns.Command
