import EstimateCompiler.Text.Basic

/-!
# Arguments of the command

Arguments are switches, parameters with a value, and operands. A long option is written with two
dashes, its value behind an equals sign or in the next argument. A short option is written with one
dash, its value right behind the letter or in the next argument. The next argument is taken as a
value whatever it looks like. Two dashes alone end the options, and one dash alone is an operand.
-/
namespace EstimateCompiler.Command

inductive Switch where
  | strict
  | dryRun
  | version
  | help
  deriving DecidableEq, Repr

inductive Parameter where
  | target
  | output
  | url
  | maxNameLength
  deriving DecidableEq, Repr

inductive Item where
  | switch (s : Switch)
  | parameter (p : Parameter) (value : Text)
  | operand (text : Text)
  deriving DecidableEq, Repr

inductive ArgumentFault where
  | needsValue (option : Text)
  | takesNoValue (option : Text)
  | unknownOption (option : Text)
  deriving DecidableEq, Repr

def switches : List (Text × Switch) :=
  [("--strict", .strict), ("--dry-run", .dryRun), ("--version", .version), ("--help", .help)]

def parameters : List (Text × Parameter) :=
  [("--backend", .target), ("--output", .output), ("--url", .url),
    ("--max-name-length", .maxNameLength)]

def letters : List (Rune × Parameter) := [('b', .target), ('o', .output)]

/-- What one argument says by itself. -/
inductive Shape where
  | complete (item : Item)
  | awaitsValue (p : Parameter) (option : Text)
  | faulty (fault : ArgumentFault)
  deriving DecidableEq, Repr

def shortShape : List Rune → Shape
  | [] => .complete (.operand "-")
  | letter :: behind =>
      let option := Text.ofList ['-', letter]
      match letters.lookup letter with
      | none => .faulty (.unknownOption option)
      | some p =>
          if behind.isEmpty then .awaitsValue p option
          else .complete (.parameter p (Text.ofList behind))

/-- A long option, with the value behind its equals sign if it has one. -/
def longShape? (option : Text) (value : Option Text) : Option Shape :=
  match switches.lookup option, parameters.lookup option with
  | some s, _ =>
      some (if value.isSome then .faulty (.takesNoValue option) else .complete (.switch s))
  | none, some p =>
      some (match value with
        | some text => .complete (.parameter p text)
        | none => .awaitsValue p option)
  | none, none => none

def shape (argument : Text) : Shape :=
  match argument.toList with
  | '-' :: c :: cs =>
      let option := Text.ofList (argument.toList.takeWhile (· ≠ .char '='))
      let value := argument.toList.dropWhile (· ≠ .char '=')
      let attached := if value.isEmpty then none else some (Text.ofList (value.drop 1))
      match longShape? option attached with
      | some s => s
      | none => if c = '-' then .faulty (.unknownOption option) else shortShape (c :: cs)
  | _ => .complete (.operand argument)

def items : List Text → Except ArgumentFault (List Item)
  | [] => .ok []
  | argument :: rest =>
      if argument = "--" then .ok (rest.map .operand)
      else
        match shape argument with
        | .complete item => (items rest).map (item :: ·)
        | .faulty fault => .error fault
        | .awaitsValue p option =>
            match rest with
            | [] => .error (.needsValue option)
            | value :: others => (items others).map (.parameter p value :: ·)

end EstimateCompiler.Command
