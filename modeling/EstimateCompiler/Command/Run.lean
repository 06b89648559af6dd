import EstimateCompiler.Command.Platform
import EstimateCompiler.Command.Request
import EstimateCompiler.Program

/-!
# Running the command

The command reads a model from a file or from its standard input, compiles it and writes the program
to a file or to its standard output; all it has to say besides goes to standard error.

What it comes to is a report, a function of the arguments, the standard input and the files. The
end of a run depends on the platform as well. A file is opened before it is known whether the code
can be encoded, so that a run may fail with an empty file left behind. The parts are functions of
their own, so that they serve with the files of a system as well.
-/
namespace EstimateCompiler.Command

structure Outcome where
  exitCode : Nat
  stdout : Text
  stderr : Text
  files : Files
  escape : Option Escape

def versionText : Text := "gs-compile, version 0.1.0"

def usageText : Text := "Usage: gs-compile [OPTIONS] INPUT_FILE"

def helpText : Text := Text.intercalate "\n" [
  usageText,
  "",
  "  Compile a Guesstimate model into a probabilistic program.",
  "",
  "  INPUT_FILE is a Guesstimate JSON export, or - to read from stdin.",
  "",
  "  Examples:",
  "",
  "      gs-compile model.json -b squiggle",
  "",
  "      gs-compile model.json -b python -o model.py",
  "",
  "      gs-compile model.json --strict --dry-run",
  "",
  "Options:",
  "  -b, --backend [python|squiggle]",
  "                                  Target language  [default: squiggle]",
  "  -o, --output PATH               Output file path (stdout if not specified)",
  "  --url TEXT                      Source URL for the header comment (default:",
  "                                  the model's url)",
  "  --strict                        Fail on references to metrics that do not",
  "                                  exist",
  "  --max-name-length INTEGER RANGE",
  "                                  Maximum length of generated identifiers",
  "                                  [default: 30; x>=1]",
  "  --dry-run                       Show the emission order without generating",
  "                                  code",
  "  --version                       Show the version and exit.",
  "  --help                          Show this message and exit."]

def errorLine (message : Text) : Text := "Error: " ++ message

def UsageError.lines (e : UsageError) : List Text :=
  [usageText, "Try 'gs-compile --help' for help.", "", errorLine e.message]

/-- What a run comes to, with the lines for standard error: it fails, it has lines for standard
output, or it has code for a file. -/
inductive Report where
  | fails (exitCode : Nat) (notes : List Text) (escape : Option Escape)
  | prints (notes : List Text) (lines : List Text)
  | writes (notes : List Text) (path code : Text)
  deriving DecidableEq, Repr

def Stop.report : Stop → Report
  | .showVersion => .prints [] [versionText]
  | .showHelp => .prints [] [helpText]
  | .needsValue option =>
      .fails 2 [errorLine ("Option '" ++ option ++ "' requires an argument.")] none
  | .takesNoValue option =>
      .fails 2 [errorLine ("Option '" ++ option ++ "' does not take a value.")] none
  | .misused e => .fails 2 e.lines none
  | .escaped escape => .fails 1 [] (some escape)

def nodeLine (program : Program) (r : Rendered) : Text :=
  let status := if r.assignment.hasCode then r.node.kind.name else "SKIPPED"
  let names := (program.nodes.filter fun other => other.node.id ∈ r.dependencies).map (·.node.name)
  let uses := Text.intercalate ", " names
  "  [" ++ status ++ "] " ++ r.node.name ++ ": depends on [" ++
    (if uses = "" then ("(none)" : Text) else uses) ++ "]"

/-- The nodes in emission order with what they depend on. -/
def listing (program : Program) : List Text :=
  "Nodes in emission order:" :: program.nodes.map (nodeLine program)

def Request.reportModel (request : Request) (model : Model) : Report :=
  let start := "Compiling " ++ natText model.guesstimates.length ++ " guesstimate(s) to " ++
    request.target ++ "..."
  match Program.compile .standard request.target request.settings model with
  | .error e => .fails 1 [start, errorLine e.message] none
  | .ok program =>
      let notes := start :: program.diagnostics.map fun d => "Warning: " ++ d.display
      if request.dryRun then .prints notes (listing program)
      else
        let counts := "Emitted " ++ natText program.emitted.length ++ " of " ++
          natText program.order.length ++ " node(s)"
        match request.output with
        | none => .prints (notes ++ [counts]) [program.code]
        | some path => .writes (notes ++ [counts]) path program.code

def Request.report (request : Request) (bytes : List UInt8) : Report :=
  match Text.Utf8.decode bytes with
  | .error e => .fails 1 [errorLine e.message] none
  | .ok text =>
      match Model.ofText (Text.ofList (Text.lineFeeds text.toList)) request.url with
      | .error (.malformed fault) => .fails 1 [errorLine fault.message] none
      | .error (.notIterable sort) => .fails 1 [] (some (.notIterable sort))
      | .ok model => request.reportModel model

def writtenLines (path code : Text) : List Text :=
  ["Written to " ++ path,
    "Code size: " ++ Text.ofList (groupThousands (natChars code.length)) ++ " bytes"]

/-- The end of a run. An output file is emptied before the code is encoded, and stays empty if the
code cannot be. -/
def Report.finish (platform : Platform) (files : Files) : Report → Outcome
  | .fails exitCode notes escape => ⟨exitCode, "", platform.noteLines notes, files, escape⟩
  | .prints notes lines =>
      match platform.printLines lines with
      | (shown, none) => ⟨0, shown, platform.noteLines notes, files, none⟩
      | (shown, some reason) =>
          ⟨1, shown, platform.noteLines notes, files, some (.encoding reason)⟩
  | .writes notes path code =>
      match files.create path with
      | .error e => ⟨1, "", platform.noteLines notes, files, some (.file path e)⟩
      | .ok (name, emptied) =>
          match Text.Utf8.encode code with
          | .error e =>
              ⟨1, "", platform.noteLines notes, emptied, some (.encoding e.message)⟩
          | .ok bytes =>
              ⟨0, "", platform.noteLines (notes ++ writtenLines path code),
                emptied.put name bytes, none⟩

def Request.readInput (request : Request) (stdin : List UInt8) (files : Files) :
    Except Stop (List UInt8) :=
  match request.input with
  | none => .error (.misused .inputMissing)
  | some name =>
      if name = "-" then .ok stdin
      else if .char '\x00' ∈ name.toList then .error (.escaped .nullByte)
      else
        match files.read name with
        | .error e => .error (.misused (.inputUnreadable name e))
        | .ok bytes => .ok bytes

def Request.checkExtra (request : Request) : Except Stop Unit :=
  if request.extra.isEmpty then .ok () else .error (.misused (.extraOperands request.extra))

def report (arguments : List Text) (stdin : List UInt8) (files : Files) : Report :=
  let report : Except Stop Report := do
    let request ← Request.ofArguments arguments
    let bytes ← request.readInput stdin files
    request.checkExtra
    return request.report bytes
  match report with
  | .error stop => stop.report
  | .ok report => report

def run (platform : Platform) (arguments : List Text) (stdin : List UInt8) (files : Files) :
    Outcome :=
  (report arguments stdin files).finish platform files

end EstimateCompiler.Command
