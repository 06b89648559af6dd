import EstimateCompiler.Proofs.Graph.Anonymity
import EstimateCompiler.Proofs.Program.Accounting

/-!
# What is asked of a target

A compilation asks its target in three rounds. In the first round the nodes take their turns in
emission order, and a node that can be written asks once how. In the second round the nodes that got
code are assigned, in the same order. The last call asks for the top of the program. Nothing is
assumed of the target: it may answer any call with nothing, and it may answer by what it was asked
before. An empty answer in the first round means that the node is not assigned, and one in the
second round leaves its line out of the body, but not its node out of those that count as assigned.
-/
namespace EstimateCompiler

/-- How the bounds of a distribution are told to a target. -/
def Kind.bounded? : Kind → Option (Text → Text → Call)
  | .uniform => some .uniform
  | .normal => some .normal
  | .lognormal => some .lognormal
  | .point | .data | .function => none

namespace Guesstimate

/-- What is asked about a guesstimate, once the references of a function are resolved to names. -/
inductive Asks (names : OrderedMap Text) (guesstimate : Guesstimate) : Call → Prop where
  | point {value : Text} (kind : guesstimate.kind = .point)
      (expression : guesstimate.expression = some value) (ne_empty : value ≠ "") :
      Asks names guesstimate (.point value)
  | data {samples : List Number} (kind : guesstimate.kind = .data)
      (data : guesstimate.data = some samples) : Asks names guesstimate (.data samples)
  | distribution {make : Text → Text → Call} {bounds : Bounds}
      (kind : guesstimate.kind.bounded? = some make)
      (bounds_eq : Bounds.parse? guesstimate.expression = some bounds) :
      Asks names guesstimate (make bounds.low bounds.high)
  | function (kind : guesstimate.kind = .function) :
      Asks names guesstimate
        (.function (Reference.resolve names (Text.ofList guesstimate.body)).text)

/-- The calls of a turn: the one that is asked about the guesstimate, if there is one. -/
def Turn (names : OrderedMap Text) (guesstimate : Guesstimate) (calls : List Call) : Prop :=
  (∃ call, guesstimate.Asks names call ∧ calls = [call]) ∨
    (∀ call, ¬ guesstimate.Asks names call) ∧ calls = []

variable {names : OrderedMap Text} {metric : Metric} {guesstimate : Guesstimate} {name : Text}

theorem call_of_point (h : guesstimate.kind = .point) :
    ((Node.make metric guesstimate name).resolve names).node.call =
      .ok (if guesstimate.expression.getD "" = "" then none
        else some (.point (guesstimate.expression.getD ""))) := by
  obtain ⟨id, kind, expression, description, data⟩ := guesstimate
  cases h
  rfl

theorem call_of_data (h : guesstimate.kind = .data) :
    ((Node.make metric guesstimate name).resolve names).node.call =
      match guesstimate.data with
      | some samples => .ok (some (.data samples))
      | none => .error ⟨metric.id, .missingData⟩ := by
  obtain ⟨id, kind, expression, description, data⟩ := guesstimate
  cases h
  rfl

theorem call_of_bounded {make : Text → Text → Call}
    (h : guesstimate.kind.bounded? = some make) :
    ((Node.make metric guesstimate name).resolve names).node.call =
      Call.distribution make (Node.make metric guesstimate name) := by
  obtain ⟨id, kind, expression, description, data⟩ := guesstimate
  cases kind with
  | uniform | normal | lognormal =>
      obtain rfl := Option.some.inj h
      rfl
  | point | data | function => cases h

theorem call_of_function (h : guesstimate.kind = .function) :
    ((Node.make metric guesstimate name).resolve names).node.call =
      .ok (some (.function
        (Reference.resolve names (Text.ofList guesstimate.body)).text)) := by
  obtain ⟨id, kind, expression, description, data⟩ := guesstimate
  cases h
  rfl

theorem distribution_eq_ok {make : Text → Text → Call} {node : Node} {call : Call} :
    Call.distribution make node = .ok (some call) ↔
      ∃ bounds, Bounds.parse? node.expression = some bounds ∧
        make bounds.low bounds.high = call := by
  unfold Call.distribution
  cases Bounds.parse? node.expression <;> simp

/-- What is asked about a node is decided by its guesstimate and the names in its formula. -/
theorem asks_iff_call (names : OrderedMap Text) (metric : Metric) (guesstimate : Guesstimate)
    (name : Text) (call : Call) :
    guesstimate.Asks names call ↔
      ((Node.make metric guesstimate name).resolve names).node.call = .ok (some call) := by
  constructor
  · intro h
    cases h with
    | point hkind hexpression hne =>
        rw [call_of_point hkind, hexpression, Option.getD_some, if_neg hne]
    | data hkind hdata => rw [call_of_data hkind, hdata]
    | distribution hkind hbounds =>
        rw [call_of_bounded hkind, distribution_eq_ok]
        exact ⟨_, hbounds, rfl⟩
    | function hkind => rw [call_of_function hkind]
  · intro h
    have hbounded : ∀ make, guesstimate.kind.bounded? = some make →
        guesstimate.Asks names call := by
      intro make hkind
      rw [call_of_bounded hkind, distribution_eq_ok] at h
      obtain ⟨bounds, hbounds, rfl⟩ := h
      exact .distribution hkind hbounds
    cases hkind : guesstimate.kind with
    | point =>
        rw [call_of_point hkind] at h
        split at h
        · cases h
        · rename_i hne
          obtain rfl := Option.some.inj (Except.ok.inj h)
          cases hexpression : guesstimate.expression with
          | none => exact absurd (congrArg (·.getD "") hexpression) hne
          | some value =>
              rw [hexpression] at hne
              exact .point hkind hexpression hne
    | data =>
        rw [call_of_data hkind] at h
        split at h
        · rename_i samples hdata
          obtain rfl := Option.some.inj (Except.ok.inj h)
          exact .data hkind hdata
        · cases h
    | uniform | normal | lognormal => exact hbounded _ (congrArg Kind.bounded? hkind)
    | function =>
        rw [call_of_function hkind] at h
        obtain rfl := Option.some.inj (Except.ok.inj h)
        exact .function hkind

theorem turn_calls (names : OrderedMap Text) (metric : Metric) (guesstimate : Guesstimate)
    (name : Text) :
    guesstimate.Turn names ((Node.make metric guesstimate name).resolve names).node.calls := by
  have hasks := asks_iff_call names metric guesstimate name
  unfold Turn Node.calls
  split
  · rename_i call hcall
    exact .inl ⟨call, (hasks call).2 hcall, rfl⟩
  · rename_i hnone
    exact .inr ⟨fun call h => hnone call ((hasks call).1 h), rfl⟩

end Guesstimate

theorem NodeMap.names_resolved (nodes : NodeMap) : nodes.resolved.names = nodes.names := by
  apply OrderedMap.ext_entries
  simp [NodeMap.names, NodeMap.resolved, OrderedMap.map]

namespace Target

variable (target : Target)

/-- The answers to turns that are taken one after the other behind a log. A turn has one call or
none, and in a turn without a call the answer is empty. -/
def replies : List Call → List (List Call) → List Text
  | _, [] => []
  | log, turn :: rest => (turn.map (target.answer log)).headD "" :: replies (log ++ turn) rest

theorem replies_of_stateless (h : target.Stateless) (log : List Call) (turns : List (List Call)) :
    target.replies log turns = turns.map fun turn => (turn.map (target.answer [])).headD "" := by
  induction turns generalizing log with
  | nil => rfl
  | cons turn rest ih => rw [replies, ih, funext (h log), List.map_cons]

theorem Stateless.written {target : Target} (h : target.Stateless) (log : List Call) (node : Node) :
    target.written log node = target.written [] node := by
  simp only [Target.written, h log]

theorem getD_code_written (log : List Call) (node : Node) :
    (target.written log node).code.getD "" = (node.calls.map (target.answer log)).headD "" := by
  unfold written Node.calls
  cases node.call with
  | error diagnostic => rfl
  | ok asked =>
      cases asked with
      | none => rfl
      | some call => exact call.getD_code (target.answer log call)

theorem map_code_renderFrom (edges : Edges) (log : List Call) (nodes : List Node) :
    (target.renderFrom edges log nodes).map (fun r => r.code.getD "") =
      target.replies log (nodes.map Node.calls) := by
  induction nodes generalizing log with
  | nil => rfl
  | cons node rest ih =>
      rw [renderFrom, List.map_cons, List.map_cons, replies, ih, ← getD_code_written]
      rfl

/-- Every node with code is assigned by one call, and the empty answers are left out. -/
theorem assignAll_run (assignments : List Assignment) (log : List Call) :
    (target.assignAll assignments).run log =
      ((target.replies log ((assignments.filter Assignment.hasCode).map fun a =>
          [.assignment a])).filter (· ≠ ("" : Text)),
        log ++ (assignments.filter Assignment.hasCode).map Call.assignment) := by
  induction assignments generalizing log with
  | nil =>
      rw [List.filter_nil, List.map_nil, List.map_nil, List.append_nil]
      rfl
  | cons a rest ih =>
      by_cases hcode : a.hasCode = true
      · have hstep : (target.assignAll (a :: rest)).run log =
            let later := (target.assignAll rest).run (log ++ [.assignment a])
            (if target.answer log (.assignment a) = "" then later.1
              else target.answer log (.assignment a) :: later.1, later.2) := by
          rw [assignAll, if_pos hcode]
          rfl
        rw [hstep, ih, List.filter_cons_of_pos hcode, List.map_cons, replies]
        by_cases hline : target.answer log (.assignment a) = "" <;> simp [hline]
      · rw [assignAll, if_neg hcode, ih, List.filter_cons_of_neg hcode]

end Target

namespace Program

variable {target : Target} {settings : Settings} {model : Model} {program : Program}

theorem filter_hasCode (program : Program) :
    (program.nodes.map Rendered.assignment).filter Assignment.hasCode =
      program.emitted.map Rendered.assignment :=
  List.filter_map

/-- The lines of a body, where the target keeps no memory: what it answers about the nodes that are
assigned, unless this is nothing. -/
def assignmentLines (target : Target) (program : Program) : List Text :=
  (program.emitted.map fun r => target.answer [] (.assignment r.assignment)).filter (· ≠ "")

def firstCalls (program : Program) : List Call := program.nodes.flatMap fun r => r.node.calls

section Write
variable (target : Target) (url : Text) (graph : Graph) (order : List Text)

theorem log_renderAll :
    ((renderAll target graph.edges (order.filterMap graph.nodes.get?)).run []).2 =
      (write target url graph order).firstCalls := by
  have hmap := target.map_node_renderFrom graph.edges [] (order.filterMap graph.nodes.get?)
  rw [← nodes_write target url] at hmap
  rw [renderAll_run, firstCalls, ← hmap, List.flatMap_map]
  rfl

theorem assignAll_write :
    (target.assignAll ((write target url graph order).nodes.map Rendered.assignment)).run
        ((renderAll target graph.edges (order.filterMap graph.nodes.get?)).run []).2 =
      ((target.replies (write target url graph order).firstCalls
          ((write target url graph order).emitted.map fun r =>
            [.assignment r.assignment])).filter (· ≠ ("" : Text)),
        (write target url graph order).firstCalls ++
          (write target url graph order).emitted.map fun r => .assignment r.assignment) := by
  rw [log_renderAll target url, target.assignAll_run, filter_hasCode, List.map_map, List.map_map]
  rfl

theorem body_write :
    (write target url graph order).body = Text.intercalate "\n"
      ((target.replies (write target url graph order).firstCalls
        ((write target url graph order).emitted.map fun r =>
          [.assignment r.assignment])).filter (· ≠ ("" : Text))) :=
  congrArg (fun round : List Text × List Call => Text.intercalate "\n" round.1)
    (assignAll_write target url graph order)

theorem calls_write :
    (write target url graph order).calls =
      (write target url graph order).firstCalls ++
        (write target url graph order).emitted.map (fun r => .assignment r.assignment) ++
        [.header url] :=
  congrArg (fun round : List Text × List Call => round.2 ++ [.header url])
    (assignAll_write target url graph order)

theorem header_write :
    (write target url graph order).header =
      target.answer ((write target url graph order).firstCalls ++
        (write target url graph order).emitted.map fun r => .assignment r.assignment)
        (.header url) :=
  congrArg (fun round : List Text × List Call => target.answer round.2 (.header url))
    (assignAll_write target url graph order)

end Write

section Stateless
variable (htarget : target.Stateless) (h : compileFor target settings model = .ok program)
include htarget h

theorem body_of_compileFor :
    program.body = Text.intercalate "\n" (program.assignmentLines target) := by
  obtain ⟨nodes, hcompiled⟩ := compiled_of_compileFor h
  rw [(eq_write_of_compileFor hcompiled.ofModel h).2, body_write,
    target.replies_of_stateless htarget, List.map_map]
  rfl

theorem header_of_compileFor : program.header = target.answer [] (.header model.url) := by
  obtain ⟨nodes, hcompiled⟩ := compiled_of_compileFor h
  rw [(eq_write_of_compileFor hcompiled.ofModel h).2, header_write, htarget]

end Stateless

/-- Whatever the target answers, it is asked in three rounds: one turn for each id of the order, one
assignment for each node that got code in its turn, and the top of the program. Every answer is
given behind the log of the calls before. The body is made of the answers of the second round that
are not empty. -/
theorem calls_in_three_rounds (h : compileFor target settings model = .ok program) :
    ∃ graph turns,
      Graph.ofModel model settings target.reserved = .ok graph ∧
      List.Forall₂ (fun id turn => ∃ guesstimate, model.guesstimate? id = some guesstimate ∧
        guesstimate.Turn graph.nodes.names turn) program.order turns ∧
      program.nodes.map (fun r => r.node.id) = program.order ∧
      program.nodes.map (fun r => r.code.getD "") = target.replies [] turns ∧
      program.emitted = program.nodes.filter (fun r => r.code.getD "" ≠ ("" : Text)) ∧
      program.calls = turns.flatten ++
        program.emitted.map (fun r => .assignment r.assignment) ++ [.header model.url] ∧
      program.body = Text.intercalate "\n" ((target.replies turns.flatten
        (program.emitted.map fun r => [.assignment r.assignment])).filter (· ≠ ("" : Text))) ∧
      program.header = target.answer
        (turns.flatten ++ program.emitted.map fun r => .assignment r.assignment)
        (.header model.url) := by
  obtain ⟨nodes, hcompiled⟩ := compiled_of_compileFor h
  obtain ⟨hpassed, hwritten⟩ := eq_write_of_compileFor hcompiled.ofModel h
  have hflatten : (program.nodes.map fun r => r.node.calls).flatten = program.firstCalls :=
    List.flatMap_def.symm
  refine ⟨nodes.graph, program.nodes.map fun r => r.node.calls,
    Graph.ofModel_eq_ok_iff.2 ⟨nodes, hcompiled.ofModel, hpassed, rfl⟩, ?_, hcompiled.map_id, ?_,
    ?_, ?_, ?_, ?_⟩
  · rw [← hcompiled.map_id, List.forall₂_map_left_iff, List.forall₂_map_right_iff,
      List.forall₂_same]
    intro r hr
    obtain ⟨guesstimate, metric, name, log, hlast, heq, -⟩ := hcompiled.exists_guesstimate hr
    refine ⟨guesstimate, hlast, ?_⟩
    have hnames : NodeMap.names nodes.graph.nodes = nodes.names := nodes.names_resolved
    rw [hnames, heq]
    exact guesstimate.turn_calls nodes.names metric name
  · have hcodes := target.map_code_renderFrom nodes.graph.edges []
      (program.order.filterMap nodes.graph.nodes.get?)
    have hmap := target.map_node_renderFrom nodes.graph.edges []
      (program.order.filterMap nodes.graph.nodes.get?)
    rw [← nodes_write target model.url, ← hwritten] at hcodes hmap
    rw [hcodes, ← hmap, List.map_map]
    rfl
  · refine List.filter_congr fun r _ => ?_
    rw [Bool.eq_iff_iff, decide_eq_true_iff]
    exact bne_iff_ne
  · rw [hflatten, hwritten]
    exact calls_write target model.url nodes.graph program.order
  · rw [hflatten, hwritten]
    exact body_write target model.url nodes.graph program.order
  · rw [hflatten, hwritten]
    exact header_write target model.url nodes.graph program.order

/-- A target that has no words for samples, leaves points without a line and counts its calls. -/
def reticent : Target where
  reserved := ["cost"]
  answer log
    | .header url => url
    | .point value | .function value => value
    | .uniform low high | .normal low high | .lognormal low high => low ++ ".." ++ high
    | .data _ => ""
    | .assignment a =>
        if a.isPoint then "" else natText log.length ++ ": " ++ a.name ++ " := " ++ a.codeText

/-- One guesstimate of every sort that is asked about, and two that are not. -/
def surveyed : Model where
  url := "u"
  metrics := [⟨"a", "Cost"⟩, ⟨"b", "Samples"⟩, ⟨"c", "Range"⟩, ⟨"d", "Note"⟩, ⟨"e", "Odd"⟩,
    ⟨"f", "Total"⟩]
  guesstimates := [
    ⟨"f", .function, some "=$\x7bmetric:a\x7d", .text "", none⟩,
    ⟨"a", .point, some "1", .text "", none⟩, ⟨"b", .data, none, .text "", some [.integer 3]⟩,
    ⟨"c", .normal, some "[ 1 , 2]", .text "", none⟩, ⟨"d", .point, none, .text "", none⟩,
    ⟨"e", .uniform, some "5", .text "", none⟩]

theorem surveyed_calls_in_three_rounds :
    ∃ program graph turns,
      compileFor reticent .standard surveyed = .ok program ∧
      program.order = ["a", "f", "b", "c", "d", "e"] ∧
      program.calls = [.point "1", .function "cost_2", .data [.integer 3], .normal "1" "2",
        .assignment ⟨"a", "cost_2", "Cost", .point, some "1", []⟩,
        .assignment ⟨"f", "total", "Total", .function, some "cost_2", ["a"]⟩,
        .assignment ⟨"c", "range", "Range", .normal, some "1..2", []⟩, .header "u"] ∧
      program.body = "5: total := cost_2\n6: range := 1..2" ∧
      program.emitted.map (fun r => r.node.id) = ["a", "f", "c"] ∧
      Graph.ofModel surveyed .standard reticent.reserved = .ok graph ∧
      List.Forall₂ (fun id turn => ∃ guesstimate, surveyed.guesstimate? id = some guesstimate ∧
        guesstimate.Turn graph.nodes.names turn) program.order turns ∧
      program.calls = turns.flatten ++
        program.emitted.map (fun r => .assignment r.assignment) ++ [.header surveyed.url] := by
  obtain ⟨program, h, horder, hcalls, hbody, hemitted⟩ : ∃ program,
      compileFor reticent .standard surveyed = .ok program ∧
      program.order = ["a", "f", "b", "c", "d", "e"] ∧
      program.calls = [.point "1", .function "cost_2", .data [.integer 3], .normal "1" "2",
        .assignment ⟨"a", "cost_2", "Cost", .point, some "1", []⟩,
        .assignment ⟨"f", "total", "Total", .function, some "cost_2", ["a"]⟩,
        .assignment ⟨"c", "range", "Range", .normal, some "1..2", []⟩, .header "u"] ∧
      program.body = "5: total := cost_2\n6: range := 1..2" ∧
      program.emitted.map (fun r => r.node.id) = ["a", "f", "c"] :=
    exists_ok_of_any (by decide +kernel)
  obtain ⟨graph, turns, hgraph, hturns, -, -, -, hrounds, -⟩ := calls_in_three_rounds h
  exact ⟨program, graph, turns, h, horder, hcalls, hbody, hemitted, hgraph, hturns, hrounds⟩

end Program

end EstimateCompiler
