import EstimateCompiler.Proofs.Command.Printing
import EstimateCompiler.Proofs.Model.Loading

/-!
# How the command ends

A run comes to an end in one of twelve ways. It shows help or the version. It refuses its arguments,
or an input that it cannot open. It fails on bytes that are no text, on a malformed payload, on a
payload that cannot be gone through, or in the compilation. With a program it lists the nodes, or it
prints the code, or it writes it to a file. Printing and writing fail if the code cannot be encoded,
and writing fails if the file cannot be opened. What the run leaves behind is stated once for each
of these ends, with the reason for it.

Of the failures that the command does not catch, one is about what the input says: a scalar in
place of a list of entries.
-/
namespace EstimateCompiler.Command

def Stop.Refuses : Stop → Prop
  | .showVersion | .showHelp => False
  | .needsValue _ | .takesNoValue _ | .misused _ => True
  | .escaped escape => escape = .nullByte

/-- The arguments make a request, and the bytes of its input are there. -/
structure Opened (arguments : List Text) (stdin : List UInt8) (files : Files) (request : Request)
    (bytes : List UInt8) : Prop where
  asked : Request.ofArguments arguments = .ok request
  input : request.readInput stdin files = .ok bytes
  extra : request.checkExtra = .ok ()

/-- The text that the bytes of an input stand for. -/
def StandFor (bytes : List UInt8) (text : Text) : Prop :=
  ∃ raw, Text.Utf8.decode bytes = .ok raw ∧ text = Text.ofList (Text.lineFeeds raw.toList)

structure Loaded (arguments : List Text) (stdin : List UInt8) (files : Files) (request : Request)
    (text : Text) (model : Model) : Prop where
  opened : ∃ bytes, Opened arguments stdin files request bytes ∧ StandFor bytes text
  parsed : Model.ofText text request.url = .ok model

/-- What a run leaves behind, and why. -/
inductive Ending (platform : Platform) (arguments : List Text) (stdin : List UInt8)
    (files : Files) : Outcome → Prop where
  | informed {stop : Stop} {text shown stderr : Text}
      (asked : Request.ofArguments arguments = .error stop)
      (wish : stop = .showVersion ∨ stop = .showHelp)
      (done : platform.print text = .ok shown) :
      Ending platform arguments stdin files ⟨0, shown, stderr, files, none⟩
  | refused {exitCode : Nat} {stderr : Text} {escape : Option Escape} (fails : exitCode ≠ 0)
      (reason : ∀ sort, escape ≠ some (.notIterable sort)) :
      Ending platform arguments stdin files ⟨exitCode, "", stderr, files, escape⟩
  | undecodable {request : Request} {bytes : List UInt8} {error : Text.Utf8.DecodeError}
      {stderr : Text} (opened : Opened arguments stdin files request bytes)
      (reason : Text.Utf8.decode bytes = .error error) :
      Ending platform arguments stdin files ⟨1, "", stderr, files, none⟩
  | malformed {request : Request} {bytes : List UInt8} {text : Text} {fault : ModelFault}
      {stderr : Text} (opened : Opened arguments stdin files request bytes)
      (stand : StandFor bytes text)
      (reason : Model.ofText text request.url = .error (.malformed fault)) :
      Ending platform arguments stdin files ⟨1, "", stderr, files, none⟩
  | unlistable {request : Request} {bytes : List UInt8} {text : Text} {sort : ScalarSort}
      {stderr : Text} (opened : Opened arguments stdin files request bytes)
      (stand : StandFor bytes text)
      (reason : Model.ofText text request.url = .error (.notIterable sort)) :
      Ending platform arguments stdin files ⟨1, "", stderr, files, some (.notIterable sort)⟩
  | failed {request : Request} {text : Text} {model : Model} {error : CompileError}
      {stderr : Text} (loaded : Loaded arguments stdin files request text model)
      (reason : Program.compile .standard request.target request.settings model = .error error) :
      Ending platform arguments stdin files ⟨1, "", stderr, files, none⟩
  | listed {request : Request} {text : Text} {model : Model} {program : Program} {stderr : Text}
      (loaded : Loaded arguments stdin files request text model)
      (compiled : Program.compile .standard request.target request.settings model = .ok program)
      (dryRun : request.dryRun = true) :
      Ending platform arguments stdin files ⟨0, joinLines (listing program), stderr, files, none⟩
  | printed {request : Request} {text : Text} {model : Model} {program : Program}
      {shown stderr : Text} (loaded : Loaded arguments stdin files request text model)
      (compiled : Program.compile .standard request.target request.settings model = .ok program)
      (dryRun : request.dryRun = false) (output : request.output = none)
      (done : platform.print (program.code ++ "\n") = .ok shown) :
      Ending platform arguments stdin files ⟨0, shown, stderr, files, none⟩
  | unprintable {request : Request} {text : Text} {model : Model} {program : Program}
      {reason stderr : Text} (loaded : Loaded arguments stdin files request text model)
      (compiled : Program.compile .standard request.target request.settings model = .ok program)
      (dryRun : request.dryRun = false) (output : request.output = none)
      (fault : platform.print (program.code ++ "\n") = .error reason) :
      Ending platform arguments stdin files ⟨1, "", stderr, files, some (.encoding reason)⟩
  | unwritable {request : Request} {text : Text} {model : Model} {program : Program}
      {path stderr : Text} {error : FileError}
      (loaded : Loaded arguments stdin files request text model)
      (compiled : Program.compile .standard request.target request.settings model = .ok program)
      (dryRun : request.dryRun = false) (output : request.output = some path)
      (reason : files.create path = .error error) :
      Ending platform arguments stdin files ⟨1, "", stderr, files, some (.file path error)⟩
  | unencodable {request : Request} {text : Text} {model : Model} {program : Program}
      {path name stderr : Text} {emptied : Files} {error : Text.Utf8.EncodeError}
      (loaded : Loaded arguments stdin files request text model)
      (compiled : Program.compile .standard request.target request.settings model = .ok program)
      (dryRun : request.dryRun = false) (output : request.output = some path)
      (created : files.create path = .ok (name, emptied))
      (fault : Text.Utf8.encode program.code = .error error) :
      Ending platform arguments stdin files
        ⟨1, "", stderr, emptied, some (.encoding error.message)⟩
  | written {request : Request} {text : Text} {model : Model} {program : Program}
      {path name stderr : Text} {emptied : Files} {bytes : List UInt8}
      (loaded : Loaded arguments stdin files request text model)
      (compiled : Program.compile .standard request.target request.settings model = .ok program)
      (dryRun : request.dryRun = false) (output : request.output = some path)
      (created : files.create path = .ok (name, emptied))
      (done : Text.Utf8.encode program.code = .ok bytes) :
      Ending platform arguments stdin files ⟨0, "", stderr, emptied.put name bytes, none⟩

theorem Values.refuses_of_set {values : Values} {p : Parameter} {text : Text} {stop : Stop}
    (h : values.set p text = .error stop) : stop.Refuses := by
  cases p with
  | target =>
      simp only [set] at h
      split at h <;> cases h
      trivial
  | output =>
      simp only [set] at h
      split at h <;> cases h
      rfl
  | url => cases h
  | maxNameLength =>
      simp only [set] at h
      split at h
      · cases h
        trivial
      · split at h <;> cases h
        trivial

theorem Values.refuses_of_foldlM {entries : List (Parameter × Text)} {values : Values}
    {stop : Stop}
    (h : entries.foldlM (fun values entry => values.set entry.1 entry.2) values = .error stop) :
    stop.Refuses := by
  induction entries generalizing values with
  | nil => cases h
  | cons entry rest ih =>
      rw [List.foldlM_cons] at h
      rcases bind_eq_error.1 h with hset | ⟨later, -, hrest⟩
      · exact refuses_of_set hset
      · exact ih hrest

theorem wish?_eq_some {given : List Item} {stop : Stop} (h : wish? given = some stop) :
    stop = .showVersion ∨ stop = .showHelp := by
  obtain ⟨item, -, hitem⟩ := List.exists_of_findSome?_eq_some h
  split at hitem <;> cases hitem
  · exact .inl rfl
  · exact .inr rfl

/-- Arguments that make no request ask for help or for the version, or they are refused. -/
theorem Request.ofArguments_eq_error {arguments : List Text} {stop : Stop}
    (h : Request.ofArguments arguments = .error stop) :
    (stop = .showVersion ∨ stop = .showHelp) ∨ stop.Refuses := by
  unfold ofArguments at h
  split at h
  next given =>
    unfold ofItems at h
    split at h
    next wish hwish =>
      cases h
      exact .inl (wish?_eq_some hwish)
    next =>
      rcases bind_eq_error.1 h with hvalues | ⟨values, -, h⟩
      · exact .inr (Values.refuses_of_foldlM hvalues)
      · cases h
  all_goals
    cases h
    exact .inr trivial

theorem Request.readInput_eq_error {request : Request} {stdin : List UInt8} {files : Files}
    {stop : Stop} (h : request.readInput stdin files = .error stop) : stop.Refuses := by
  unfold readInput at h
  split at h
  · cases h
    trivial
  · split at h
    · cases h
    · split at h
      · cases h
        rfl
      · split at h <;> cases h
        trivial

theorem Request.checkExtra_eq_error {request : Request} {stop : Stop}
    (h : request.checkExtra = .error stop) : stop.Refuses := by
  unfold checkExtra at h
  split at h <;> cases h
  trivial

theorem Stop.Refuses.report {stop : Stop} (h : stop.Refuses) :
    ∃ exitCode notes escape, stop.report = .fails exitCode notes escape ∧ exitCode ≠ 0 ∧
      ∀ sort, escape ≠ some (.notIterable sort) := by
  cases stop with
  | showVersion | showHelp => exact h.elim
  | needsValue | takesNoValue | misused =>
      exact ⟨_, _, _, rfl, Nat.succ_ne_zero _, by simp⟩
  | escaped escape =>
      cases h
      exact ⟨_, _, _, rfl, Nat.succ_ne_zero _, by simp⟩

section
variable {platform : Platform} {arguments : List Text} {stdin : List UInt8} {files : Files}
  {request : Request}

/-- A single text is printed, or nothing is. -/
theorem finish_prints_singleton (notes : List Text) (text : Text) :
    (Report.prints notes [text]).finish platform files =
      match platform.print (text ++ "\n") with
      | .error reason => ⟨1, "", platform.noteLines notes, files, some (.encoding reason)⟩
      | .ok shown => ⟨0, shown, platform.noteLines notes, files, none⟩ := by
  simp only [Report.finish, Platform.printLines]
  cases platform.print (text ++ "\n") with
  | error reason => rfl
  | ok shown => simp only [Text.append_empty]

theorem ending_stop {stop : Stop} (h : stop.Refuses) :
    Ending platform arguments stdin files (stop.report.finish platform files) := by
  obtain ⟨exitCode, notes, escape, hreport, hfails, hreason⟩ := h.report
  rw [hreport]
  exact .refused hfails hreason

theorem ending_wish {stop : Stop} (hasked : Request.ofArguments arguments = .error stop)
    (hwish : stop = .showVersion ∨ stop = .showHelp) :
    Ending platform arguments stdin files (stop.report.finish platform files) := by
  obtain ⟨text, hreport⟩ : ∃ text, stop.report = .prints [] [text] := by
    rcases hwish with rfl | rfl
    · exact ⟨versionText, rfl⟩
    · exact ⟨helpText, rfl⟩
  rw [hreport, finish_prints_singleton]
  cases hprint : platform.print (text ++ "\n") with
  | error reason => exact .refused Nat.one_ne_zero (by simp)
  | ok shown => exact .informed hasked hwish hprint

theorem ending_lists {text : Text} {notes : List Text} {model : Model} {program : Program}
    (hloaded : Loaded arguments stdin files request text model)
    (hcompiled : Program.compile .standard request.target request.settings model = .ok program)
    (hdry : request.dryRun = true) :
    Ending platform arguments stdin files
      ((Report.prints notes (listing program)).finish platform files) := by
  rw [Report.finish, platform.printLines_plain (plain_listing hcompiled)]
  exact .listed hloaded hcompiled hdry

theorem ending_prints {text : Text} {notes : List Text} {model : Model} {program : Program}
    (hloaded : Loaded arguments stdin files request text model)
    (hcompiled : Program.compile .standard request.target request.settings model = .ok program)
    (hdry : request.dryRun = false) (houtput : request.output = none) :
    Ending platform arguments stdin files
      ((Report.prints notes [program.code]).finish platform files) := by
  rw [finish_prints_singleton]
  cases hprint : platform.print (program.code ++ "\n") with
  | error reason => exact .unprintable hloaded hcompiled hdry houtput hprint
  | ok shown => exact .printed hloaded hcompiled hdry houtput hprint

theorem ending_writes {text path : Text} {notes : List Text} {model : Model} {program : Program}
    (hloaded : Loaded arguments stdin files request text model)
    (hcompiled : Program.compile .standard request.target request.settings model = .ok program)
    (hdry : request.dryRun = false) (houtput : request.output = some path) :
    Ending platform arguments stdin files
      ((Report.writes notes path program.code).finish platform files) := by
  simp only [Report.finish]
  cases hcreate : files.create path with
  | error error => exact .unwritable hloaded hcompiled hdry houtput hcreate
  | ok created =>
      obtain ⟨name, emptied⟩ := created
      cases hencode : Text.Utf8.encode program.code with
      | error error =>
          exact .unencodable hloaded hcompiled hdry houtput hcreate hencode
      | ok bytes =>
          exact .written hloaded hcompiled hdry houtput hcreate hencode

theorem ending_reportModel {text : Text} {model : Model}
    (h : Loaded arguments stdin files request text model) :
    Ending platform arguments stdin files ((request.reportModel model).finish platform files) := by
  unfold Request.reportModel
  cases hcompiled : Program.compile .standard request.target request.settings model with
  | error error => exact .failed h hcompiled
  | ok program =>
      cases hdry : request.dryRun with
      | true => exact ending_lists h hcompiled hdry
      | false =>
          cases houtput : request.output with
          | none => exact ending_prints h hcompiled hdry houtput
          | some path => exact ending_writes h hcompiled hdry houtput

theorem ending_report {bytes : List UInt8} (h : Opened arguments stdin files request bytes) :
    Ending platform arguments stdin files ((request.report bytes).finish platform files) := by
  unfold Request.report
  cases hdecode : Text.Utf8.decode bytes with
  | error error => exact .undecodable h hdecode
  | ok raw =>
      have hstand : StandFor bytes (Text.ofList (Text.lineFeeds raw.toList)) := ⟨raw, hdecode, rfl⟩
      cases hparsed : Model.ofText (Text.ofList (Text.lineFeeds raw.toList)) request.url with
      | error error =>
          cases error with
          | malformed fault =>
              simp only [hparsed]
              exact .malformed h hstand hparsed
          | notIterable sort =>
              simp only [hparsed]
              exact .unlistable h hstand hparsed
      | ok model =>
          simp only [hparsed]
          exact ending_reportModel ⟨⟨bytes, h, hstand⟩, hparsed⟩

theorem Opened.report_eq {bytes : List UInt8} (h : Opened arguments stdin files request bytes) :
    report arguments stdin files = request.report bytes := by
  simp only [report, h.asked, h.input, h.extra, bind, Except.bind]
  rfl

end

theorem ending_run (platform : Platform) (arguments : List Text) (stdin : List UInt8)
    (files : Files) :
    Ending platform arguments stdin files (run platform arguments stdin files) := by
  cases hasked : Request.ofArguments arguments with
  | error stop =>
      simp only [run, report, hasked, bind, Except.bind]
      rcases Request.ofArguments_eq_error hasked with hwish | hrefuses
      · exact ending_wish hasked hwish
      · exact ending_stop hrefuses
  | ok request =>
      cases hinput : request.readInput stdin files with
      | error stop =>
          simp only [run, report, hasked, hinput, bind, Except.bind]
          exact ending_stop (Request.readInput_eq_error hinput)
      | ok bytes =>
          cases hextra : request.checkExtra with
          | error stop =>
              simp only [run, report, hasked, hinput, hextra, bind, Except.bind]
              exact ending_stop (Request.checkExtra_eq_error hextra)
          | ok _ =>
              have hopened : Opened arguments stdin files request bytes := ⟨hasked, hinput, hextra⟩
              rw [run, hopened.report_eq]
              exact ending_report hopened

theorem escape_eq_notIterable_iff {platform : Platform} {arguments : List Text}
    {stdin : List UInt8} {files : Files} {sort : ScalarSort} :
    (run platform arguments stdin files).escape = some (.notIterable sort) ↔
      ∃ request bytes text payload, Opened arguments stdin files request bytes ∧
        StandFor bytes text ∧ Json.read text = .ok payload ∧ payload.Unlistable sort := by
  constructor
  · intro h
    have hending := ending_run platform arguments stdin files
    generalize run platform arguments stdin files = outcome at h hending
    cases hending with
    | refused _ reason => exact absurd h (reason sort)
    | informed | undecodable | malformed | failed | listed | printed | unprintable | unwritable |
      unencodable | written => cases h
    | unlistable opened stand reason =>
        cases h
        obtain ⟨payload, hread, hunlistable⟩ := (Model.ofText_eq_notIterable_iff _).1 reason
        exact ⟨_, _, _, payload, opened, stand, hread, hunlistable⟩
  · rintro ⟨request, bytes, text, payload, hopened, ⟨raw, hdecode, rfl⟩, hread, hunlistable⟩
    have hparsed := (Model.ofText_eq_notIterable_iff request.url).2 ⟨payload, hread, hunlistable⟩
    rw [run, hopened.report_eq, Request.report, hdecode]
    simp only [hparsed, Report.finish]

/-- A payload is loaded or found malformed unless a scalar stands for one of its lists. This is what
escapes from loading, and then it escapes from the command as well. -/
theorem only_unlistable_payloads_escape (payload : Json) (url : Option Text)
    (platform : Platform) (arguments : List Text) (stdin : List UInt8) (files : Files) :
    ((∃ model, Model.ofPayload payload url = .ok model) ∨
        (∃ fault, Model.ofPayload payload url = .error (.malformed fault)) ↔
      ∀ sort, ¬ payload.Unlistable sort) ∧
    (∀ sort, Model.ofPayload payload url = .error (.notIterable sort) ↔ payload.Unlistable sort) ∧
    ∀ sort, (run platform arguments stdin files).escape = some (.notIterable sort) ↔
      ∃ request bytes text input, Opened arguments stdin files request bytes ∧
        StandFor bytes text ∧ Json.read text = .ok input ∧ input.Unlistable sort := by
  refine ⟨?_, fun _ => Model.ofPayload_eq_notIterable_iff url, fun _ => escape_eq_notIterable_iff⟩
  simp only [← Model.ofPayload_eq_notIterable_iff url]
  cases Model.ofPayload payload url with
  | ok model => simp
  | error error => cases error <;> simp

/-- A payload with a number for its metrics. -/
def countedText : String :=
  "\x7b\"url\":\"u\",\"graph\":\x7b\"metrics\":5,\"guesstimates\":[]\x7d\x7d"

def bare : Files := ⟨.empty, [], [], []⟩

def counted : Json := .object [("url", .text "u"),
  ("graph", .object [("metrics", .number (.integer 5)), ("guesstimates", .array [])])]

/-- It is neither loaded nor found malformed, and the command does not catch the failure. -/
theorem counted_escapes :
    Json.read countedText = .ok counted ∧
    Model.ofPayload counted none = .error (.notIterable .integer) ∧
    (run .piped ["-"] (Text.Utf8.bytes countedText) bare).exitCode = 1 ∧
    (run .piped ["-"] (Text.Utf8.bytes countedText) bare).stderr = "" ∧
    (run .piped ["-"] (Text.Utf8.bytes countedText) bare).escape =
      some (.notIterable .integer) := by
  refine ⟨?_, rfl, ?_, ?_, ?_⟩
  all_goals decide +kernel

end EstimateCompiler.Command
