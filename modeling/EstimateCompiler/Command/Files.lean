import EstimateCompiler.OrderedMap

/-!
# Files that a command sees

The files of a system have names that lead to them from the root. A command is run in a directory of
the system, at which the paths begin that do not begin at the root. Paths are walked part by part,
and two dots lead to the directory above, which at the root is the root. The length of a path and of
each of its parts is limited. There are no links and no devices, and there is room for any bytes.
-/
namespace EstimateCompiler

/-- The bytes of the files by their names, the parts of the working directory, the names of
directories that may be empty, and names under which no file may be opened. -/
structure Files where
  contents : OrderedMap (List UInt8)
  workingDirectory : List Text
  directories : List Text
  forbidden : List Text

inductive FileError where
  | notFound
  | denied
  | notDirectory
  | isDirectory
  | nameTooLong
  deriving DecidableEq, Repr

def FileError.code : FileError → Nat
  | .notFound => 2
  | .denied => 13
  | .notDirectory => 20
  | .isDirectory => 21
  | .nameTooLong => 36

def FileError.text : FileError → Text
  | .notFound => "No such file or directory"
  | .denied => "Permission denied"
  | .notDirectory => "Not a directory"
  | .isDirectory => "Is a directory"
  | .nameTooLong => "File name too long"

/-- What stands at the end of a path. -/
inductive Spot where
  | file (name : Text)
  | absent (name : Text)
  | directory
  /-- a name with a slash behind it that is no directory, for the given reason -/
  | slashed (reason : FileError)
  deriving DecidableEq, Repr

namespace Files

def parts : List Rune → List (List Rune)
  | [] => [[]]
  | c :: cs =>
      match parts cs with
      | part :: rest => if c = '/' then [] :: part :: rest else (c :: part) :: rest
      | [] => [[c]]

example : parts ['a', '/', '/', 'b', 'c'] =
    [(['a'] : List Rune), [], (['b', 'c'] : List Rune)] := by decide

def nameOf (parts : List Text) : Text := Text.join (parts.map ("/" ++ ·))

example : nameOf ["a", "b"] = "/a/b" := by decide

/-- A directory is there if it is given or on the way to something that is there. -/
def hasDirectory (files : Files) (name : Text) : Bool :=
  let given := (nameOf files.workingDirectory :: files.directories).map (· ++ ("/" : Text))
  (given ++ files.contents.keys).any fun other =>
    (name.toList ++ [Rune.char '/']).isPrefixOf other.toList

def maxPathSize : Nat := 4095

def maxPartSize : Nat := 255

/-- Walks the parts of a path from a directory, given by its own parts. -/
def walk (files : Files) : List Text → List Text → Except FileError Spot
  | _, [] => .ok .directory
  | here, part :: rest =>
      if part = "" ∨ part = "." then walk files here rest
      else if part = ".." then walk files here.dropLast rest
      else
        let fail (reason : FileError) : Except FileError Spot :=
          if !rest.isEmpty && rest.all (· = "") then .ok (.slashed reason) else .error reason
        if maxPartSize < part.size then fail .nameTooLong
        else
          let name := nameOf (here ++ [part])
          if (files.contents.get? name).isSome then
            if rest.isEmpty then .ok (.file name) else fail .notDirectory
          else if hasDirectory files name then walk files (here ++ [part]) rest
          else if rest.isEmpty then .ok (.absent name)
          else fail .notFound

/-- What stands at a path. A path that is too long is refused before it is walked. -/
def locate (files : Files) (path : Text) : Except FileError Spot :=
  if path = "" then .error .notFound
  else if maxPathSize < path.size then .error .nameTooLong
  else
    let start := if path.toList.head? = some (.char '/') then [] else files.workingDirectory
    walk files start ((parts path.toList).map Text.ofList)

def read (files : Files) (path : Text) : Except FileError (List UInt8) :=
  match locate files path with
  | .error e => .error e
  | .ok (.file name) =>
      if name ∈ files.forbidden then .error .denied
      else .ok ((files.contents.get? name).getD [])
  | .ok .directory => .error .isDirectory
  | .ok (.slashed reason) => .error reason
  | .ok (.absent _) => .error .notFound

def put (files : Files) (name : Text) (bytes : List UInt8) : Files :=
  { files with contents := files.contents.put name bytes }

/-- Opens a file for writing, which makes it or empties it at once: its name, and the files with
nothing under it. A slash behind the last name asks for a directory, which is refused whatever
stands there. -/
def create (files : Files) (path : Text) : Except FileError (Text × Files) :=
  match locate files path with
  | .error e => .error e
  | .ok (.file name) | .ok (.absent name) =>
      if name ∈ files.forbidden then .error .denied else .ok (name, files.put name [])
  | .ok _ => .error .isDirectory

end Files

end EstimateCompiler
