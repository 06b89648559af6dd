import EstimateCompiler.Program
import EstimateCompiler.Proofs.Graph.Extraction

/-!
# When there is something to assign

A target of this library answers with nothing only if it was told nothing: an empty value, or an
empty formula. All other answers have fixed parts. So whether a node is assigned is decided by what
it asks for, and this in turn by what its guesstimate said before references were resolved. For a
formula it takes that neither a resolved reference nor a replaced function can make a text vanish.
-/
namespace EstimateCompiler

namespace Text

variable {piece word text : List Rune}

theorem replaceAll_eq_nil_iff (hpiece : piece ≠ []) (hword : word ≠ []) :
    replaceAll piece word text = [] ↔ text = [] := by
  unfold replaceAll
  rw [if_neg (by simpa using hpiece)]
  cases text with
  | nil => simp [replaceSkipping]
  | cons c cs =>
      rw [replaceSkipping]
      split
      · simp [hword]
      · simp

end Text

/-- A text has something left after its references are resolved to names that are not empty, if it
had something before. -/
theorem Reference.resolveChars_eq_nil_iff {names : List (Text × Text)} {text : List Rune}
    (hnames : ∀ entry ∈ names, entry.2 ≠ "") :
    (resolveChars names text).1 = [] ↔ text = [] := by
  induction names generalizing text with
  | nil => rfl
  | cons entry rest ih =>
      have hrest : ∀ other ∈ rest, other.2 ≠ "" :=
        fun other hother => hnames other (List.mem_cons_of_mem _ hother)
      have hname : entry.2.toList ≠ [] := by
        rw [Ne, Text.toList_eq_nil_iff]
        exact hnames entry List.mem_cons_self
      rw [resolveChars]
      split
      · simp only [ih hrest]
        exact Text.replaceAll_eq_nil_iff (by simp [token, opening]) hname
      · exact ih hrest

theorem Reference.resolve_eq_empty_iff {names : OrderedMap Text} {text : Text}
    (hnames : ∀ name ∈ names.values, name ≠ "") : (resolve names text).text = "" ↔ text = "" := by
  have hentries : ∀ entry ∈ names.entries, entry.2 ≠ "" :=
    fun entry hentry => hnames entry.2 (List.mem_map_of_mem hentry)
  rw [← Text.toList_eq_nil_iff, ← Text.toList_eq_nil_iff, resolve, Text.toList_ofList]
  exact resolveChars_eq_nil_iff hentries

theorem Target.Python.vectorize_eq_empty_iff {body : Text} : vectorize body = "" ↔ body = "" := by
  rw [← Text.toList_eq_nil_iff, ← Text.toList_eq_nil_iff, vectorize, Text.toList_ofList,
    vectorizeChars, vectorCalls]
  have hminimum : ("np.minimum(" : Text).toList ≠ [] := by decide +kernel
  have hmaximum : ("np.maximum(" : Text).toList ≠ [] := by decide +kernel
  rw [List.foldl_cons, List.foldl_cons, List.foldl_nil,
    Text.replaceAll_eq_nil_iff (List.cons_ne_nil _ _) hmaximum,
    Text.replaceAll_eq_nil_iff (List.cons_ne_nil _ _) hminimum]

/-- Whether a call tells the target nothing. -/
def Call.isEmpty : Call → Bool
  | .point value => value == ""
  | .function body => body == ""
  | _ => false

theorem Call.getD_code (call : Call) (answer : Text) :
    (call.code answer).getD "" = answer := by
  unfold Call.code
  split
  · rename_i h
    simp only [Bool.and_eq_true, beq_iff_eq] at h
    exact h.2.symm
  · rfl

/-- A target that answers with nothing only if it was told nothing. -/
def Target.Outspoken (target : Target) : Prop :=
  ∀ log call, target.answer log call = "" ↔ call.isEmpty = true

theorem Target.outspoken_squiggle : squiggle.Outspoken := by
  intro log call
  cases call <;> simp [Call.isEmpty]

theorem Target.outspoken_python : python.Outspoken := by
  intro log call
  cases call <;> simp [Call.isEmpty, Python.header, Python.bounded, Python.vectorize_eq_empty_iff]

/-- A target whose answers depend on nothing but the call. -/
def Target.Stateless (target : Target) : Prop :=
  ∀ log call, target.answer log call = target.answer [] call

theorem Target.of_mem_standard {P : Target → Prop} (hpython : P python) (hsquiggle : P squiggle)
    {target : Target} (h : target ∈ Registry.standard.values) : P target := by
  have hvalues : Registry.standard.values = [.python, .squiggle] := rfl
  rw [hvalues] at h
  rcases List.mem_cons.1 h with rfl | h
  · exact hpython
  · rw [List.mem_singleton.1 h]
    exact hsquiggle

theorem Target.outspoken_of_mem_standard {target : Target}
    (h : target ∈ Registry.standard.values) : target.Outspoken :=
  of_mem_standard outspoken_python outspoken_squiggle h

theorem Target.stateless_of_mem_standard {target : Target}
    (h : target ∈ Registry.standard.values) : target.Stateless :=
  of_mem_standard (fun _ _ => rfl) (fun _ _ => rfl) h

/-- A point without a value, absent samples, a distribution without bounds, and a formula with
nothing behind its mark. -/
def Guesstimate.isVoid (guesstimate : Guesstimate) : Bool :=
  match guesstimate.kind with
  | .point => guesstimate.expression.getD "" == ""
  | .data => guesstimate.data.isNone
  | .uniform | .normal | .lognormal => (Bounds.parse? guesstimate.expression).isNone
  | .function => (guesstimate.expression.getD "").length ≤ 1

theorem Node.body_eq_empty_iff (node : Node) :
    node.body = "" ↔ (node.expression.getD "").length ≤ 1 := by
  rw [Node.body, ← Text.toList_eq_nil_iff, Text.toList_ofList, List.drop_eq_nil_iff,
    Text.length_toList]

theorem Call.distribution_asks_iff {make : Text → Text → Call}
    (hmake : ∀ low high, (make low high).isEmpty = false) (node : Node) :
    (∃ call, Call.distribution make node = .ok (some call) ∧ call.isEmpty = false) ↔
      (Bounds.parse? node.expression).isNone = false := by
  unfold Call.distribution
  cases Bounds.parse? node.expression with
  | none => simp
  | some bounds => simp [hmake]

/-- A node whose references are resolved to names that are not empty tells the target something
exactly if its guesstimate is not void. -/
theorem Guesstimate.asks_iff {names : OrderedMap Text} (hnames : ∀ name ∈ names.values, name ≠ "")
    (metric : Metric) (guesstimate : Guesstimate) (name : Text) :
    (∃ call, ((Node.make metric guesstimate name).resolve names).node.call = .ok (some call) ∧
      call.isEmpty = false) ↔ guesstimate.isVoid = false := by
  obtain ⟨id, kind, expression, description, data⟩ := guesstimate
  cases kind with
  | function =>
      let node := Node.make metric ⟨id, .function, expression, description, data⟩ name
      have hbody : (Reference.resolve names node.body).text = "" ↔
          (expression.getD "").length ≤ 1 :=
        (Reference.resolve_eq_empty_iff hnames).trans node.body_eq_empty_iff
      have hcall : (node.resolve names).node.call =
          .ok (some (.function (Reference.resolve names node.body).text)) := rfl
      change (∃ call, (node.resolve names).node.call = .ok (some call) ∧ _) ↔
        decide ((expression.getD "").length ≤ 1) = false
      rw [hcall, decide_eq_false_iff_not, ← hbody]
      simp [Call.isEmpty]
  | point =>
      change (∃ call, Except.ok (if expression.getD "" = "" then none
        else some (Call.point (expression.getD ""))) = .ok (some call) ∧ call.isEmpty = false) ↔
        (expression.getD "" == "") = false
      split
      · simp_all
      · simp_all [Call.isEmpty]
  | data =>
      cases data with
      | none => simp [Node.resolve, Node.call, Node.make, isVoid]
      | some samples => simp [Node.resolve, Node.call, Node.make, isVoid, Call.isEmpty]
  | uniform => exact Call.distribution_asks_iff (fun _ _ => rfl) (Node.make metric _ name)
  | normal => exact Call.distribution_asks_iff (fun _ _ => rfl) (Node.make metric _ name)
  | lognormal => exact Call.distribution_asks_iff (fun _ _ => rfl) (Node.make metric _ name)

theorem Reference.ids_resolveChars_nil (names : List (Text × Text)) :
    (resolveChars names []).2 = [] := by
  induction names with
  | nil => rfl
  | cons entry rest ih =>
      rw [resolveChars, if_neg (by simp [Text.occursIn, token, opening])]
      exact ih

theorem Guesstimate.isVoid_of_mem_ids {names : OrderedMap Text} {metric : Metric}
    {guesstimate : Guesstimate} {name id : Text}
    (h : id ∈ ((Node.make metric guesstimate name).resolve names).ids) :
    guesstimate.isVoid = false := by
  obtain ⟨hkind, h⟩ := Node.mem_ids_resolve.1 h
  have hkind : guesstimate.kind = .function := hkind
  simp only [isVoid, hkind, decide_eq_false_iff_not]
  intro hshort
  have hbody := (Node.make metric guesstimate name).body_eq_empty_iff.2 hshort
  have hids : (Reference.resolve names "").ids = [] :=
    Reference.ids_resolveChars_nil names.entries
  rw [hbody, hids] at h
  exact List.not_mem_nil h

end EstimateCompiler
