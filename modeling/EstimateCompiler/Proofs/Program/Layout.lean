import EstimateCompiler.Proofs.Program.Calls
import EstimateCompiler.Proofs.Program.Shadowing
import EstimateCompiler.Proofs.Target.OneLine
import EstimateCompiler.Proofs.Text.Pieces
import Mathlib.Algebra.BigOperators.Group.List.Basic
import Mathlib.Algebra.GroupWithZero.Nat

/-!
# Lines of a program

The body of a program is the assignments of its nodes with line feeds between them. Names and code
have no line feed, as long as points and functions have none, so where a line ends is up to the
fixed text of the target and to the labels. A label is written as it is, behind the mark of a
comment. A comment ends with its line, and what a label has behind a line feed stands on lines of
its own, outside of the comment.

So labels stay in their comments exactly if none of them has a line feed, and in Python, where a
body has more lines than assignments, also if what they have behind it happens to read like the
other lines of the program.
-/
namespace EstimateCompiler

namespace Assignment

structure OneLine (a : Assignment) : Prop where
  name : .char '\n' ∉ a.name.toList
  code : .char '\n' ∉ a.codeText.toList

def line (a : Assignment) : List Rune := (a.name ++ " = " ++ a.codeText).toList

def showLine (a : Assignment) : List Rune := ("show(" ++ a.name ++ ")").toList

/-- What a label has in front of its first line feed. -/
def comment (a : Assignment) : List Rune := (a.label.toList.splitOn (.char '\n')).headD []

/-- What a label has behind its first line feed. -/
def spill (a : Assignment) : List (List Rune) := (a.label.toList.splitOn (.char '\n')).tail

variable {a : Assignment}

theorem length_spill (a : Assignment) : a.spill.length = a.label.toList.count (.char '\n') := by
  rw [spill, List.length_tail, Text.length_splitOn, Nat.add_sub_cancel]

theorem spill_eq_nil (h : .char '\n' ∉ a.label.toList) : a.spill = [] := by
  rw [spill, List.splitOn_eq_singleton h, List.tail_cons]

theorem OneLine.not_mem_line (h : a.OneLine) : .char '\n' ∉ a.line := by
  simp [line, h.name, h.code]

theorem OneLine.not_mem_showLine (h : a.OneLine) : .char '\n' ∉ a.showLine := by
  simp [showLine, h.name]

end Assignment

namespace Target

variable {a : Assignment}

theorem splitOn_squiggle (h : a.OneLine) :
    (squiggleAnswer (.assignment a)).toList.splitOn (.char '\n') =
      (a.line ++ (" // " : Text).toList ++ a.comment) :: a.spill := by
  have hfront : .char '\n' ∉ a.line ++ (" // " : Text).toList := by simp [h.not_mem_line]
  rw [squiggleAnswer, Text.toList_append, Text.toList_append]
  exact Text.splitOn_append_of_not_mem hfront a.label.toList

theorem toList_python (a : Assignment) :
    (Python.answer (.assignment a)).toList =
      [.char '\n'].intercalate ([] :: (("# " : Text).toList ++ a.label.toList) :: a.line ::
        if a.isPoint then [] else [a.showLine]) := by
  cases hpoint : a.isPoint with
  | true => simp [Assignment.line, hpoint]
  | false => simp [Assignment.line, Assignment.showLine, hpoint]

theorem splitOn_python (h : a.OneLine) :
    (Python.answer (.assignment a)).toList.splitOn (.char '\n') =
      [] :: (("# " : Text).toList ++ a.comment) ::
        (a.spill ++ a.line :: if a.isPoint then [] else [a.showLine]) := by
  have hline := List.splitOn_eq_singleton h.not_mem_line
  have hshow := List.splitOn_eq_singleton h.not_mem_showLine
  have hlabel := Text.splitOn_append_of_not_mem (by decide : .char '\n' ∉ ("# " : Text).toList)
    a.label.toList
  rw [toList_python, Text.splitOn_intercalate (List.cons_ne_nil _ _), List.flatMap_cons,
    List.flatMap_cons, List.flatMap_cons, hlabel, hline, List.splitOn_nil]
  cases a.isPoint with
  | true => rfl
  | false =>
      rw [if_neg Bool.false_ne_true, List.flatMap_singleton, hshow]
      rfl

end Target

namespace Program

variable {target : Target} {settings : Settings} {model : Model} {program : Program}

theorem assignmentLines_of_outspoken (htarget : target.Outspoken) (program : Program) :
    program.assignmentLines target =
      program.emitted.map fun r => target.answer [] (.assignment r.assignment) := by
  rw [assignmentLines, List.filter_eq_self]
  intro line hline
  obtain ⟨r, -, rfl⟩ := List.mem_map.1 hline
  rw [decide_eq_true_iff, Ne, htarget]
  exact Bool.false_ne_true

theorem lines_body (hstateless : target.Stateless) (htarget : target.Outspoken)
    (h : compileFor target settings model = .ok program) :
    Text.lines program.body.toList =
      program.emitted.flatMap fun r =>
        (target.answer [] (.assignment r.assignment)).toList.splitOn (.char '\n') := by
  have hbody := body_of_compileFor hstateless h
  rw [assignmentLines_of_outspoken htarget] at hbody
  have hseparator : ("\n" : Text).toList = [.char '\n'] := rfl
  rw [hbody, Text.toList_intercalate, hseparator, List.map_map, Text.lines, Text.pieces_intercalate,
    List.flatMap_map]
  · rfl
  · intro text htext
    obtain ⟨r, -, rfl⟩ := List.mem_map.1 htext
    rw [Function.comp_apply, Ne, Text.toList_eq_nil_iff, htarget]
    exact Bool.false_ne_true

theorem Compiled.oneLine_assignment {nodes : NodeMap}
    (h : Compiled target settings model program nodes) (htarget : target.KeepsLine)
    (hmodel : ∀ guesstimate ∈ model.guesstimates, guesstimate.OneLine) {r : Rendered}
    (hr : r ∈ program.emitted) : r.assignment.OneLine := by
  have hnode := List.mem_of_mem_filter hr
  have hshape := (h.name_of_mem hnode).2
  refine ⟨Identifier.not_mem_of_isIdentifier hshape (by decide), ?_⟩
  obtain ⟨node, log, hget, heq⟩ := h.eq_render r hnode
  have hnames : ∀ name ∈ nodes.names.values, .char '\n' ∉ name.toList := by
    intro name hname
    exact Identifier.not_mem_of_isIdentifier
      (NodeMap.isIdentifier_of_mem_names h.ofModel hname) (by decide)
  have hguesstimate := hmodel _ (NodeMap.guesstimate_mem_of_get? h.ofModel hget).1
  rw [heq]
  exact htarget.newline_not_mem_written (Node.oneLine_resolve hnames hguesstimate) log

/-- In Squiggle every line feed of a label makes one line more. -/
theorem length_lines_squiggle (hmodel : ∀ guesstimate ∈ model.guesstimates, guesstimate.OneLine)
    (h : compileFor .squiggle settings model = .ok program) :
    (Text.lines program.body.toList).length =
      program.emitted.length +
        (program.emitted.map fun r => r.node.label.toList.count (.char '\n')).sum := by
  obtain ⟨nodes, hcompiled⟩ := compiled_of_compileFor h
  have hlengths : ∀ r ∈ program.emitted,
      ((Target.squiggleAnswer (.assignment r.assignment)).toList.splitOn (.char '\n')).length =
        r.node.label.toList.count (.char '\n') + 1 := by
    intro r hr
    have hline := hcompiled.oneLine_assignment Target.keepsLine_squiggle hmodel hr
    rw [Target.splitOn_squiggle hline, List.length_cons, Assignment.length_spill]
    rfl
  rw [lines_body (fun _ _ => rfl) Target.outspoken_squiggle h, List.length_flatMap]
  simp only [Target.squiggle_answer]
  rw [List.map_congr_left hlengths,
    List.sum_map_add, List.map_const', List.sum_replicate]
  simp [Nat.add_comm]

/-- The line is empty, a comment, or a line that assigns or plots an emitted node. -/
def Explains (program : Program) (line : List Rune) : Prop :=
  line = [] ∨ ("# " : Text).toList <+: line ∨ ∃ r ∈ program.emitted,
    line = r.assignment.line ∨ r.node.kind ≠ .point ∧ line = r.assignment.showLine

instance (program : Program) (line : List Rune) : Decidable (program.Explains line) :=
  inferInstanceAs (Decidable (line = [] ∨ ("# " : Text).toList <+: line ∨ ∃ r ∈ program.emitted,
    line = r.assignment.line ∨ r.node.kind ≠ .point ∧ line = r.assignment.showLine))

theorem mem_splitOn_python {r : Rendered} (h : r.assignment.OneLine) {line : List Rune} :
    line ∈ (Target.Python.answer (.assignment r.assignment)).toList.splitOn (.char '\n') ↔
      line = [] ∨ line = ("# " : Text).toList ++ r.assignment.comment ∨ line ∈ r.assignment.spill ∨
        line = r.assignment.line ∨ r.node.kind ≠ .point ∧ line = r.assignment.showLine := by
  have hpoint : r.assignment.isPoint = true ↔ r.node.kind = .point := beq_iff_eq
  rw [Target.splitOn_python h]
  by_cases hkind : r.node.kind = .point
  · rw [if_pos (hpoint.2 hkind)]
    simp [hkind]
  · rw [if_neg (mt hpoint.1 hkind)]
    simp [hkind]

theorem explains_lines_python_iff
    (hmodel : ∀ guesstimate ∈ model.guesstimates, guesstimate.OneLine)
    (h : compileFor .python settings model = .ok program) :
    (∀ line ∈ Text.lines program.body.toList, program.Explains line) ↔
      ∀ r ∈ program.emitted, ∀ line ∈ r.assignment.spill, program.Explains line := by
  obtain ⟨nodes, hcompiled⟩ := compiled_of_compileFor h
  have hlines : ∀ r ∈ program.emitted, r.assignment.OneLine :=
    fun r hr => hcompiled.oneLine_assignment Target.keepsLine_python hmodel hr
  rw [lines_body (fun _ _ => rfl) Target.outspoken_python h]
  constructor
  · intro hall r hr line hline
    have hwritten := (mem_splitOn_python (hlines r hr)).2 (.inr (.inr (.inl hline)))
    exact hall line (List.mem_flatMap.2 ⟨r, hr, hwritten⟩)
  · intro hspill line hline
    obtain ⟨r, hr, hline⟩ := List.mem_flatMap.1 hline
    rcases (mem_splitOn_python (hlines r hr)).1 hline with rfl | rfl | hlater | hassigned
    · exact .inl rfl
    · exact .inr (.inl (List.prefix_append _ _))
    · exact hspill r hr line hlater
    · exact .inr (.inr ⟨r, hr, hassigned⟩)

/-- While points and functions are on one line, a program in Squiggle has one line for each node
that it assigns exactly if the labels of these nodes have no line feed. In a program in Python a
line that is neither empty nor a comment assigns or plots a node, except for what a label has behind
a line feed. -/
theorem labels_stay_in_comments_iff (settings : Settings)
    (hmodel : ∀ guesstimate ∈ model.guesstimates, guesstimate.OneLine) :
    (∀ program, compileFor .squiggle settings model = .ok program →
      ((Text.lines program.body.toList).length = program.emitted.length ↔
        ∀ r ∈ program.emitted, .char '\n' ∉ r.node.label.toList)) ∧
    ∀ program, compileFor .python settings model = .ok program →
      ((∀ line ∈ Text.lines program.body.toList, program.Explains line) ↔
        ∀ r ∈ program.emitted, ∀ line ∈ r.assignment.spill, program.Explains line) ∧
      ((∀ r ∈ program.emitted, .char '\n' ∉ r.node.label.toList) →
        ∀ line ∈ Text.lines program.body.toList, program.Explains line) := by
  refine ⟨?_, ?_⟩
  · intro program h
    rw [length_lines_squiggle hmodel h, Nat.add_eq_left, List.sum_eq_zero_iff_forall_eq_nat]
    simp [List.count_eq_zero]
  · intro program h
    have hiff := explains_lines_python_iff hmodel h
    refine ⟨hiff, fun hlabels => hiff.2 ?_⟩
    intro r hr line hline
    have hlabel : .char '\n' ∉ r.assignment.label.toList := hlabels r hr
    rw [Assignment.spill_eq_nil hlabel] at hline
    cases hline

/-- A label of one's choice, next to one with the marks of comments, and bounds on two lines. -/
def remarked (label : Text) : Model where
  url := "u"
  metrics := [⟨"a", label⟩, ⟨"d", "Samples // # \t[1]"⟩, ⟨"f", "Total"⟩, ⟨"u", "Range"⟩]
  guesstimates := [
    ⟨"a", .point, some "1", .text "", none⟩, ⟨"u", .uniform, some "1 to\n2", .text "", none⟩,
    ⟨"d", .data, none, .text "", some [.integer 1, .real (.ofDecimal false 25 (-1))]⟩,
    ⟨"f", .function, some "=max($\x7bmetric:a\x7d,2)", .text "", none⟩]

/-- In the second program the label has a line feed, and what is behind it is a comment again. -/
theorem remarked_labels_stay_in_comments :
    (∃ program, compileFor .squiggle .standard (remarked "Cost") = .ok program ∧
      program.assigned = ["a", "d", "f"] ∧
      (Text.lines program.body.toList).length = program.emitted.length) ∧
    ∃ program, compileFor .python .standard (remarked "Cost\n# of a year") = .ok program ∧
      program.emitted.flatMap (fun r => r.assignment.spill) = [("# of a year" : Text).toList] ∧
      ∀ line ∈ Text.lines program.body.toList, program.Explains line := by
  have hmodel : ∀ label, ∀ guesstimate ∈ (remarked label).guesstimates, guesstimate.OneLine := by
    intro label
    change ∀ guesstimate ∈ (remarked "").guesstimates, guesstimate.OneLine
    decide +kernel
  obtain ⟨program₁, h₁, hassigned, hlabels⟩ : ∃ program,
      compileFor .squiggle .standard (remarked "Cost") = .ok program ∧
      program.assigned = ["a", "d", "f"] ∧
      ∀ r ∈ program.emitted, .char '\n' ∉ r.node.label.toList :=
    exists_ok_of_any (by decide +kernel)
  obtain ⟨program₂, h₂, hspill⟩ : ∃ program,
      compileFor .python .standard (remarked "Cost\n# of a year") = .ok program ∧
      program.emitted.flatMap (fun r => r.assignment.spill) = [("# of a year" : Text).toList] :=
    exists_ok_of_any (by decide +kernel)
  have hsquiggle := (labels_stay_in_comments_iff .standard (hmodel _)).1 program₁ h₁
  have hpython := ((labels_stay_in_comments_iff .standard (hmodel _)).2 program₂ h₂).1
  refine ⟨⟨program₁, h₁, hassigned, hsquiggle.2 hlabels⟩, program₂, h₂, hspill, hpython.2 ?_⟩
  intro r hr line hline
  have hmem : line ∈ program₂.emitted.flatMap fun r => r.assignment.spill :=
    List.mem_flatMap.2 ⟨r, hr, hline⟩
  rw [hspill, List.mem_singleton] at hmem
  rw [hmem]
  exact .inr (.inl (by decide))

/-- A label with a statement behind a line feed. -/
def injected : Model where
  url := "u"
  metrics := [⟨"a", "Cost\nimport os"⟩]
  guesstimates := [⟨"a", .point, some "1", .text "", none⟩]

/-- The statement becomes part of the program. -/
theorem injected_label_escapes :
    (∀ guesstimate ∈ injected.guesstimates, guesstimate.OneLine) ∧
    (∃ program, compileFor .squiggle .standard injected = .ok program ∧
      program.body = "cost_import_os = 1 // Cost\nimport os" ∧
      (Text.lines program.body.toList).length = 2 ∧ program.emitted.length = 1) ∧
    ∃ program, compileFor .python .standard injected = .ok program ∧
      ("import os" : Text).toList ∈ Text.lines program.body.toList ∧
      ¬ program.Explains ("import os" : Text).toList := by
  refine ⟨by decide +kernel, ?_, ?_⟩
  · exact exists_ok_of_any (by decide +kernel)
  · exact exists_ok_of_any (by decide +kernel)

end Program

end EstimateCompiler
