import EstimateCompiler.Command.Arguments
import EstimateCompiler.Command.Files
import EstimateCompiler.Model.Payload
import EstimateCompiler.Target.Standard

/-!
# What a command is asked to do

The arguments are checked in a fixed order. A missing value, a value for a switch and an unknown
option come first. Then a wish for help or for the version wins over everything else. Then the
parameters are checked in the order in which they first appear, each with its last value. The input
comes after the parameters, and superfluous operands come last.
-/
namespace EstimateCompiler.Command

inductive UsageError where
  | unknownOption (option : Text)
  | unknownTarget (value : Text)
  | notInteger (value : Text)
  | belowOne (n : Int)
  | inputMissing
  | inputUnreadable (name : Text) (error : FileError)
  | extraOperands (operands : List Text)
  deriving DecidableEq, Repr

/-- A failure that the command does not catch. -/
inductive Escape where
  | notIterable (sort : ScalarSort)
  | nullByte
  | file (path : Text) (error : FileError)
  | encoding (reason : Text)
  deriving DecidableEq, Repr

/-- Why the command ends before it reads its input. -/
inductive Stop where
  | showVersion
  | showHelp
  | needsValue (option : Text)
  | takesNoValue (option : Text)
  | misused (error : UsageError)
  | escaped (escape : Escape)
  deriving DecidableEq, Repr

def targetNames : Text :=
  Text.intercalate ", " (Registry.standard.available.map fun name => "'" ++ name ++ "'")

def UsageError.message : UsageError → Text
  | .unknownOption option => "No such option: " ++ option
  | .unknownTarget value =>
      "Invalid value for '--backend' / '-b': " ++ Text.quote value ++ " is not one of " ++
        targetNames ++ "."
  | .notInteger value =>
      "Invalid value for '--max-name-length': " ++ Text.quote value ++
        " is not a valid integer range."
  | .belowOne n =>
      "Invalid value for '--max-name-length': " ++ intText n ++ " is not in the range x>=1."
  | .inputMissing => "Missing argument 'INPUT_FILE'."
  | .inputUnreadable name error =>
      "Invalid value for 'INPUT_FILE': '" ++ name ++ "': " ++ error.text
  | .extraOperands operands =>
      "Got unexpected extra argument" ++ (if operands.length = 1 then "" else "s") ++ " (" ++
        Text.intercalate " " operands ++ ")"

def Escape.message : Escape → Text
  | .notIterable sort => LoadError.message (.notIterable sort)
  | .nullByte => "embedded null byte"
  | .file path error =>
      "[Errno " ++ natText error.code ++ "] " ++ error.text ++ ": " ++ Text.quote path
  | .encoding reason => reason

/-- What is asked for. The input may be missing and operands may be superfluous, which is found
out when the input is opened. -/
structure Request where
  input : Option Text
  extra : List Text
  target : Text
  output : Option Text
  url : Option Text
  dryRun : Bool
  settings : Settings
  deriving DecidableEq

structure Values where
  target : Text
  output : Option Text
  url : Option Text
  settings : Settings
  deriving DecidableEq

def Values.standard (strict : Bool) : Values :=
  ⟨"squiggle", none, none, { Settings.standard with strict }⟩

def Values.set (values : Values) (p : Parameter) (text : Text) : Except Stop Values :=
  match p with
  | .target =>
      if text ∈ Registry.standard.keys then .ok { values with target := text }
      else .error (.misused (.unknownTarget text))
  | .output =>
      if .char '\x00' ∈ text.toList then .error (.escaped .nullByte)
      else .ok { values with output := some text }
  | .url => .ok { values with url := some text }
  | .maxNameLength =>
      match Integer.parse? text with
      | none => .error (.misused (.notInteger text))
      | some n =>
          if h : 1 ≤ n then
            let settings := { values.settings with maxNameLength := n, positive := h }
            .ok { values with settings }
          else .error (.misused (.belowOne n))

/-- The parameters in the order of their first appearance, each with its last value. -/
def givenValues (given : List Item) : List (Parameter × Text) :=
  let pairs := given.filterMap fun
    | .parameter p value => some (p, value)
    | _ => none
  (pairs.map Prod.fst).eraseDups.filterMap fun p => (pairs.reverse.lookup p).map (p, ·)

def operands (given : List Item) : List Text :=
  given.filterMap fun
    | .operand text => some text
    | _ => none

def wish? (given : List Item) : Option Stop :=
  given.findSome? fun
    | .switch .version => some .showVersion
    | .switch .help => some .showHelp
    | _ => none

def Request.ofItems (given : List Item) : Except Stop Request :=
  match wish? given with
  | some stop => .error stop
  | none => do
      let strict := given.contains (.switch .strict)
      let values ← (givenValues given).foldlM (fun values entry => values.set entry.1 entry.2)
        (Values.standard strict)
      return {
        input := (operands given).head?
        extra := (operands given).drop 1
        target := values.target
        output := values.output.filter (· ≠ "")
        url := values.url
        dryRun := given.contains (.switch .dryRun)
        settings := values.settings }

def Request.ofArguments (arguments : List Text) : Except Stop Request :=
  match items arguments with
  | .ok given => ofItems given
  | .error (.needsValue option) => .error (.needsValue option)
  | .error (.takesNoValue option) => .error (.takesNoValue option)
  | .error (.unknownOption option) => .error (.misused (.unknownOption option))

end EstimateCompiler.Command
