import EstimateCompiler.Proofs.Program.Outcome

/-!
# Names that a program does not bind again

The lines at the top of a program in Python bind names: those of modules, of the functions that draw
and show samples, and of the number of samples. An assignment to one of them would break what comes
behind it, and an assignment to a word of the language could not even be read.

Most of these names are reserved, so that no node gets them. The number of samples is not. It is
safe for another reason: it is written in capitals, and a name never begins with a capital, however
long names may be and whatever words stand for the tokens of a label.
-/
namespace EstimateCompiler

namespace Target.Python

/-- The name that a line binds: a module, a function or a value. A line that is indented belongs to
a function and binds nothing outside of it. -/
def boundName? (line : Text) : Option Text :=
  match (line.toList.splitOn (.char ' ')).map fun word => (Text.ofList word).toString with
  | ["import", path] => some (String.ofList (path.toList.takeWhile (· ≠ '.')))
  | ["import", _, "as", name] => some name
  | ["from", _, "import", name] => some name
  | "def" :: signature :: _ => some (String.ofList (signature.toList.takeWhile (· ≠ '(')))
  | name :: "=" :: _ => some name
  | _ => none

/-- The names bound by the lines at the top of every program. -/
def topLevelNames : List Text := preamble.filterMap boundName?

theorem topLevelNames_eq :
    topLevelNames = ["inspect", "plt", "np", "norm", "SAMPLES", "make_uniform", "make_normal",
      "make_lognormal", "show"] := by decide +kernel

theorem reserved_or_not_isIdentifier :
    ∀ name ∈ topLevelNames,
      name ∈ python.reserved ∨ Identifier.isIdentifier name.toList = false := by
  rw [topLevelNames_eq]
  decide +kernel

theorem not_mem_topLevelNames {name : Text} (hreserved : name ∉ python.reserved)
    (hshape : Identifier.isIdentifier name.toList = true) : name ∉ topLevelNames := by
  intro hbound
  rcases reserved_or_not_isIdentifier name hbound with hmem | hno
  · exact hreserved hmem
  · rw [hshape] at hno
    cases hno

end Target.Python

namespace Program

variable {target : Target} {settings : Settings} {model : Model} {program : Program}

theorem Compiled.name_of_mem {nodes : NodeMap} (h : Compiled target settings model program nodes)
    {r : Rendered} (hr : r ∈ program.nodes) :
    r.node.name ∉ target.reserved ∧ Identifier.isIdentifier r.node.name.toList = true := by
  obtain ⟨node, log, hget, heq⟩ := h.eq_render r hr
  have hname : r.node.name = node.name := by
    rw [heq]
    exact Node.resolve_name _ node
  rw [hname]
  exact NodeMap.name_ofModel h.ofModel (OrderedMap.mem_values.2 ⟨_, hget⟩)

/-- A program in Python assigns no word of the language and no name that is bound at its top. -/
theorem python_assigns_no_bound_name (settings : Settings) (model : Model) :
    Target.Python.topLevelNames = ["inspect", "plt", "np", "norm", "SAMPLES", "make_uniform",
      "make_normal", "make_lognormal", "show"] ∧
    compile .standard "python" settings model = compileFor .python settings model ∧
    ∀ program, compileFor .python settings model = .ok program → ∀ r ∈ program.emitted,
      r.node.name ∉ Target.Python.keywords ∧ r.node.name ∉ Target.Python.topLevelNames := by
  refine ⟨Target.Python.topLevelNames_eq, compile_of_get? rfl settings model, ?_⟩
  intro program h r hr
  obtain ⟨nodes, hcompiled⟩ := compiled_of_compileFor h
  obtain ⟨hreserved, hshape⟩ := hcompiled.name_of_mem (List.mem_of_mem_filter hr)
  refine ⟨?_, Target.Python.not_mem_topLevelNames hreserved hshape⟩
  intro hkeyword
  exact hreserved (List.mem_append_left _ hkeyword)

/-- Labels that are words of the language or names bound at the top, one of them only once it is
cut. -/
def shadowy : Model where
  url := ""
  metrics := [⟨"k", "Class"⟩, ⟨"i", "Inspector"⟩, ⟨"s", "SAMPLES"⟩, ⟨"x", "x"⟩]
  guesstimates := [
    ⟨"k", .point, some "1", .text "", none⟩, ⟨"i", .point, some "2", .text "", none⟩,
    ⟨"s", .point, some "3", .text "", none⟩, ⟨"x", .normal, some "1 to 2", .text "", none⟩]

/-- Short names, and a word in capitals. -/
def loud : Settings := ⟨7, [("x", "SAMPLES")], false, by decide⟩

/-- The word is put in behind a space, which becomes an underscore. -/
theorem shadowy_assigns_no_bound_name :
    ∃ program,
      compileFor .python loud shadowy = .ok program ∧
      program.emitted.map (fun r => r.node.name) = ["class_2", "inspect_2", "samples", "_SAMPLE"] ∧
      ∀ r ∈ program.emitted,
        r.node.name ∉ Target.Python.keywords ∧ r.node.name ∉ Target.Python.topLevelNames := by
  obtain ⟨program, h, hnames⟩ : ∃ program,
      compileFor .python loud shadowy = .ok program ∧
      program.emitted.map (fun r => r.node.name) =
        ["class_2", "inspect_2", "samples", "_SAMPLE"] :=
    exists_ok_of_any (by decide +kernel)
  exact ⟨program, h, hnames, (python_assigns_no_bound_name loud shadowy).2.2 program h⟩

end Program

end EstimateCompiler
