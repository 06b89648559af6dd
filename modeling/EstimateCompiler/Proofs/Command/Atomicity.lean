import EstimateCompiler.Proofs.Command.Ending
import EstimateCompiler.Proofs.Command.Files
import EstimateCompiler.Proofs.Text.Utf8

/-!
# What a run of the command leaves behind

A run that fails prints nothing on standard output. It leaves the files as they are unless there is
half a character in the code, which cannot be encoded: the output file had been opened by then, and
is left behind empty. A run that succeeds has read a model from its input and compiled it, unless it
was asked for help or for the version. A listing touches no file. An output file gets exactly the
code of the program, which is read back from its bytes, and no other file changes. What is printed
is the code as the platform shows it, which is the code itself if there is no styling in it.
-/
namespace EstimateCompiler.Command

/-- What is left behind by a run that has compiled its input. -/
structure Leaves (platform : Platform) (request : Request) (program : Program) (files : Files)
    (outcome : Outcome) : Prop where
  listed : request.dryRun = true →
    outcome.stdout = joinLines (listing program) ∧ outcome.files = files
  written : request.dryRun = false → ∀ path, request.output = some path →
    outcome.stdout = "" ∧ ∃ name bytes, files.Names path name ∧
      outcome.files.read path = .ok bytes ∧ Text.Utf8.encode program.code = .ok bytes ∧
      Text.Utf8.decode bytes = .ok program.code ∧ outcome.files = files.put name bytes ∧
      ∀ other, other ≠ name → outcome.files.contents.get? other = files.contents.get? other
  printed : request.dryRun = false → request.output = none →
    outcome.files = files ∧ platform.print (program.code ++ "\n") = .ok outcome.stdout ∧
      (.char '\x1b' ∉ program.code.toList → outcome.stdout = program.code ++ "\n")

/-- What is left behind by a run that has opened its output file in vain. -/
inductive Emptied (request : Request) (program : Program) (files : Files) (outcome : Outcome) :
    Prop where
  | mk (path name : Text) (dryRun : request.dryRun = false) (output : request.output = some path)
      (half : ∃ n, .half n ∈ program.code.toList) (names : files.Names path name)
      (emptied : outcome.files = files.put name [])

variable {platform : Platform} {arguments : List Text} {stdin : List UInt8} {files : Files}
  {outcome : Outcome}

/-- A run that fails has no effect but one. -/
theorem Ending.of_exitCode_ne_zero (h : Ending platform arguments stdin files outcome)
    (hcode : outcome.exitCode ≠ 0) :
    outcome.stdout = "" ∧ (outcome.files = files ∨
      ∃ request text model program, Loaded arguments stdin files request text model ∧
        Program.compile .standard request.target request.settings model = .ok program ∧
        Emptied request program files outcome) := by
  cases h with
  | refused | undecodable | malformed | unlistable | failed | unprintable | unwritable =>
      exact ⟨rfl, .inl rfl⟩
  | unencodable loaded compiled dryRun output created fault =>
      obtain ⟨hnames, -, hemptied⟩ := Files.of_create_eq_ok created
      exact ⟨rfl, .inr ⟨_, _, _, _, loaded, compiled, _, _, dryRun, output,
        Text.Utf8.exists_half_of_encode fault, hnames, hemptied⟩⟩
  | informed | listed | printed | written => exact absurd rfl hcode

/-- A run that succeeds has compiled its input, or was asked for a text of its own. -/
theorem Ending.of_exitCode_eq_zero (h : Ending platform arguments stdin files outcome)
    (hcode : outcome.exitCode = 0) (hhelp : Request.ofArguments arguments ≠ .error .showHelp)
    (hversion : Request.ofArguments arguments ≠ .error .showVersion) :
    ∃ request text model program, Loaded arguments stdin files request text model ∧
      Program.compile .standard request.target request.settings model = .ok program ∧
      Leaves platform request program files outcome := by
  cases h with
  | informed asked wish =>
      rcases wish with rfl | rfl
      · exact absurd asked hversion
      · exact absurd asked hhelp
  | refused fails => exact absurd hcode fails
  | undecodable | malformed | unlistable | failed | unprintable | unwritable | unencodable =>
      cases hcode
  | listed loaded compiled dryRun =>
      refine ⟨_, _, _, _, loaded, compiled, ?_, ?_, ?_⟩
      · exact fun _ => ⟨rfl, rfl⟩
      · exact fun hdry => absurd (dryRun.symm.trans hdry) (by decide)
      · exact fun hdry => absurd (dryRun.symm.trans hdry) (by decide)
  | printed loaded compiled dryRun output done =>
      refine ⟨_, _, _, _, loaded, compiled, ?_, ?_, ?_⟩
      · exact fun hdry => absurd (dryRun.symm.trans hdry) (by decide)
      · intro _ path hpath
        cases output.symm.trans hpath
      · refine fun _ _ => ⟨rfl, done, fun hplain => platform.eq_of_print done ?_⟩
        rw [Text.toList_append, List.mem_append, not_or]
        exact ⟨hplain, by decide⟩
  | written loaded compiled dryRun output created done =>
      refine ⟨_, _, _, _, loaded, compiled, ?_, ?_, ?_⟩
      · exact fun hdry => absurd (dryRun.symm.trans hdry) (by decide)
      · intro _ path hpath
        cases output.symm.trans hpath
        obtain ⟨hnames, hallowed, rfl⟩ := Files.of_create_eq_ok created
        simp only [Files.put_put]
        refine ⟨trivial, _, _, hnames, hnames.read_put hallowed _, done,
          Text.Utf8.decode_of_encode done, rfl, ?_⟩
        intro other hother
        rw [Files.get?_put, if_neg hother]
      · intro _ hnone
        cases output.symm.trans hnone

/-- A run has no effect, or the effect that belongs to the program of its input, or it has opened
its output file in vain. -/
theorem run_atomic_and_faithful (platform : Platform) (arguments : List Text)
    (stdin : List UInt8) (files : Files) :
    ((run platform arguments stdin files).exitCode ≠ 0 →
      (run platform arguments stdin files).stdout = "" ∧
      ((run platform arguments stdin files).files = files ∨
        ∃ request text model program, Loaded arguments stdin files request text model ∧
          Program.compile .standard request.target request.settings model = .ok program ∧
          Emptied request program files (run platform arguments stdin files))) ∧
    ((run platform arguments stdin files).exitCode = 0 →
      Request.ofArguments arguments ≠ .error .showHelp →
      Request.ofArguments arguments ≠ .error .showVersion →
      ∃ request text model program, Loaded arguments stdin files request text model ∧
        Program.compile .standard request.target request.settings model = .ok program ∧
        Leaves platform request program files (run platform arguments stdin files)) := by
  have hending := ending_run platform arguments stdin files
  exact ⟨hending.of_exitCode_ne_zero, hending.of_exitCode_eq_zero⟩

/-- A model without guesstimates, with the address as it stands in quotes. -/
def addressed (url : String) : String := "\x7b\"url\":\"" ++ url ++ "\",\"graph\":\x7b\x7d\x7d"

/-- A model with styling in its address and one with half a character in the working directory, and
a file in another directory. -/
def shelf : Files where
  contents := .ofList [("/w/bold", Text.Utf8.bytes (addressed "\\u001b[1mu")),
    ("/w/half", Text.Utf8.bytes (addressed "\\ud800")), ("/t/out", [0x78])]
  workingDirectory := ["w"]
  directories := []
  forbidden := []

/-- Styling is kept in the output file, wherever it is; half a character empties the file. -/
theorem shelf_run_atomic_and_faithful :
    (run .piped ["half", "-o", "/t/out"] [] shelf).exitCode = 1 ∧
    (run .piped ["half", "-o", "/t/out"] [] shelf).stdout = "" ∧
    (∃ request text model program, Loaded ["half", "-o", "/t/out"] [] shelf request text model ∧
      Program.compile .standard request.target request.settings model = .ok program ∧
      Emptied request program shelf (run .piped ["half", "-o", "/t/out"] [] shelf)) ∧
    (run .piped ["bold", "-o", "../t/out"] [] shelf).exitCode = 0 ∧
    ∃ request text model program, Loaded ["bold", "-o", "../t/out"] [] shelf request text model ∧
      Program.compile .standard request.target request.settings model = .ok program ∧
      Leaves .piped request program shelf (run .piped ["bold", "-o", "../t/out"] [] shelf) ∧
      (run .piped ["bold", "-o", "../t/out"] [] shelf).files.read "/t/out" =
        .ok (Text.Utf8.bytes "// Generated from \x1b[1mu\n") := by
  have hfailed : (run .piped ["half", "-o", "/t/out"] [] shelf).exitCode = 1 := by decide +kernel
  have hchanged : (run .piped ["half", "-o", "/t/out"] [] shelf).files.contents.get? "/t/out" ≠
      shelf.contents.get? "/t/out" := by decide +kernel
  have hdone : (run .piped ["bold", "-o", "../t/out"] [] shelf).exitCode = 0 := by decide +kernel
  have hread : (run .piped ["bold", "-o", "../t/out"] [] shelf).files.read "/t/out" =
      .ok (Text.Utf8.bytes "// Generated from \x1b[1mu\n") := by decide +kernel
  obtain ⟨asked, hasked⟩ : ∃ request,
      Request.ofArguments ["bold", "-o", "../t/out"] = .ok request :=
    ⟨_, rfl⟩
  obtain ⟨hstdout, hfiles⟩ :=
    (run_atomic_and_faithful .piped ["half", "-o", "/t/out"] [] shelf).1 (by simp [hfailed])
  have hemptied := hfiles.resolve_left fun hsame => hchanged (by rw [hsame])
  obtain ⟨request, text, model, program, hloaded, hcompiled, hleaves⟩ :=
    (run_atomic_and_faithful .piped ["bold", "-o", "../t/out"] [] shelf).2 hdone
      (by simp [hasked]) (by simp [hasked])
  exact ⟨hfailed, hstdout, hemptied, hdone, request, text, model, program, hloaded, hcompiled,
    hleaves, hread⟩

/-- Styling does not reach the standard output: the printed line is not the code of the program. -/
theorem bold_code_is_printed_plain :
    (run .piped ["-"] (Text.Utf8.bytes (addressed "\\u001b[1mu")) bare).exitCode = 0 ∧
    (run .piped ["-"] (Text.Utf8.bytes (addressed "\\u001b[1mu")) bare).stdout =
      "// Generated from u\n\n" ∧
    ∃ model, Model.ofText (addressed "\\u001b[1mu") none = .ok model ∧
      ∃ program, Program.compile .standard "squiggle" .standard model = .ok program ∧
        program.code = "// Generated from \x1b[1mu\n" := by
  refine ⟨by decide +kernel, by decide +kernel, ⟨"\x1b[1mu", [], []⟩, by decide +kernel, ?_⟩
  exact exists_ok_of_any (by decide +kernel)

end EstimateCompiler.Command
