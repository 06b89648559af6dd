import EstimateCompiler.Proofs.Graph.Resolution
import EstimateCompiler.Proofs.Program.Writing
import EstimateCompiler.Proofs.Target.Answers
import EstimateCompiler.Proofs.Text.InTurn

/-!
# Functions on samples

In a Python program the calls of two functions on numbers become calls of functions on samples. The
calls are replaced one sort after the other, each time wherever its text stands. Neither replacement
makes or breaks a call of the other sort, so together they pass the text once from left to right.
The result has no call left.

Texts that are put together are vectorized one by one, unless a call lies across a seam between
them: then the whole has one call more than the parts. A formula is put together from its own texts
and from names. So its names stay as they are exactly as long as no call begins in one of its
segments and ends in a later one. A name that ends like a function and has a bracket behind it is
damaged.
-/
namespace EstimateCompiler

namespace Target.Python

theorem independent_vectorCalls : Text.Independent vectorCalls where
  pieces_ne_nil := by decide
  pieces_apart := by decide +kernel
  words_apart := by decide +kernel

theorem exists_call_eq {entry : List Rune × List Rune} (h : entry ∈ vectorCalls) :
    ∃ letters, entry.1 = .char 'm' :: letters := by
  have hheads : ∀ entry ∈ vectorCalls, entry.1.head? = some (.char 'm') := by decide
  exact List.head?_eq_some_iff.1 (hheads entry h)

theorem length_call_pos {entry : List Rune × List Rune} (h : entry ∈ vectorCalls) :
    0 < entry.1.length := by
  obtain ⟨letters, hletters⟩ := exists_call_eq h
  rw [hletters]
  exact Nat.succ_pos _

theorem vectorizeChars_call {entry : List Rune × List Rune} (h : entry ∈ vectorCalls)
    (text : List Rune) : vectorizeChars (entry.1 ++ text) = entry.2 ++ vectorizeChars text :=
  independent_vectorCalls.replaceInTurn_piece h text

theorem vectorizeChars_cons {c : Rune} {text : List Rune}
    (h : ∀ entry ∈ vectorCalls, ¬ entry.1 <+: c :: text) :
    vectorizeChars (c :: text) = c :: vectorizeChars text :=
  independent_vectorCalls.replaceInTurn_cons h

/-- The second text is the first one with every call replaced by its counterpart, from left to
right. -/
inductive Vectorized : List Rune → List Rune → Prop where
  | done : Vectorized [] []
  | call {entry : List Rune × List Rune} {text result : List Rune} (listed : entry ∈ vectorCalls)
      (later : Vectorized text result) : Vectorized (entry.1 ++ text) (entry.2 ++ result)
  | pass {c : Rune} {text result : List Rune}
      (front : ∀ entry ∈ vectorCalls, ¬ entry.1 <+: c :: text) (later : Vectorized text result) :
      Vectorized (c :: text) (c :: result)

theorem vectorized_vectorizeChars (text : List Rune) : Vectorized text (vectorizeChars text) := by
  induction hlength : text.length using Nat.strongRecOn generalizing text with
  | ind n ih =>
      cases text with
      | nil => exact .done
      | cons c rest =>
          by_cases hfront : ∃ entry ∈ vectorCalls, entry.1 <+: c :: rest
          · obtain ⟨entry, hentry, behind, hbehind⟩ := hfront
            have hpos := length_call_pos hentry
            have hshorter : behind.length < n := by
              rw [← hlength, ← hbehind, List.length_append]
              omega
            rw [← hbehind, vectorizeChars_call hentry]
            exact .call hentry (ih behind.length hshorter behind rfl)
          · have hpass : ∀ entry ∈ vectorCalls, ¬ entry.1 <+: c :: rest :=
              fun entry hentry hcall => hfront ⟨entry, hentry, hcall⟩
            have hshorter : rest.length < n := by
              rw [← hlength, List.length_cons]
              omega
            rw [vectorizeChars_cons hpass]
            exact .pass hpass (ih rest.length hshorter rest rfl)

/-- Whatever their order, the replacements make the same pass. -/
theorem Vectorized.replaceInTurn_eq {text result : List Rune} (h : Vectorized text result)
    {calls : List (List Rune × List Rune)} (hcalls : calls.Perm vectorCalls) :
    Text.replaceInTurn calls text = result := by
  have hindependent : Text.Independent calls := independent_vectorCalls.subset hcalls.subset
  induction h with
  | done => exact hindependent.replaceInTurn_nil
  | call listed later ih =>
      rw [hindependent.replaceInTurn_piece (hcalls.mem_iff.2 listed), ih]
  | pass front later ih =>
      rw [hindependent.replaceInTurn_cons fun entry hentry => front entry (hcalls.subset hentry),
        ih]

theorem not_infix_vectorizeChars {entry : List Rune × List Rune} (h : entry ∈ vectorCalls)
    (text : List Rune) : ¬ entry.1 <:+: vectorizeChars text := by
  have hlast : (vectorCalls.erase entry ++ [entry]).Perm vectorCalls :=
    (List.perm_append_singleton entry _).trans (List.perm_cons_erase h).symm
  rw [← (vectorized_vectorizeChars text).replaceInTurn_eq hlast, Text.replaceInTurn_append_table]
  have hcall := independent_vectorCalls.pieces_ne_nil entry h
  exact (Text.replaced_replaceAll hcall _ _).not_infix_result hcall
    (independent_vectorCalls.words_apart entry h entry h)

/-- The two replacements, in either order, are one pass that replaces both calls from left to right.
The result has neither call, so a second pass changes nothing. -/
theorem vectorizes_in_one_pass (body : Text) :
    (∀ result, Vectorized body.toList result ↔ result = (vectorize body).toList) ∧
    (∀ calls : List (List Rune × List Rune),
      calls.Perm
          [(("min(" : Text).toList, ("np.minimum(" : Text).toList),
            (("max(" : Text).toList, ("np.maximum(" : Text).toList)] →
        Text.replaceInTurn calls body.toList = (vectorize body).toList) ∧
    (∀ call ∈ (["min(", "max("] : List Text), ¬ call.toList <:+: (vectorize body).toList) ∧
    vectorize (vectorize body) = vectorize body := by
  have htable : [(("min(" : Text).toList, ("np.minimum(" : Text).toList),
      (("max(" : Text).toList, ("np.maximum(" : Text).toList)] = vectorCalls := by decide +kernel
  have hlisted : ∀ call ∈ (["min(", "max("] : List Text),
      ∃ entry ∈ vectorCalls, entry.1 = call.toList := by
    decide +kernel
  have hpass := vectorized_vectorizeChars body.toList
  simp only [vectorize, Text.toList_ofList, htable]
  refine ⟨fun result => ⟨fun hresult => ?_, fun hresult => hresult ▸ hpass⟩, ?_, ?_, ?_⟩
  · exact (hresult.replaceInTurn_eq (List.Perm.refl _)).symm
  · exact fun calls hcalls => hpass.replaceInTurn_eq hcalls
  · intro call hcall
    obtain ⟨entry, hentry, hcall⟩ := hlisted call hcall
    exact hcall ▸ not_infix_vectorizeChars hentry body.toList
  · rw [Text.ofList_inj]
    exact Text.replaceInTurn_eq_self fun entry hentry =>
      not_infix_vectorizeChars hentry body.toList

/-- Calls inside of calls and at the ends of names, replaced in the other order. -/
theorem crossed_vectorizes_in_one_pass :
    [(("max(" : Text).toList, ("np.maximum(" : Text).toList),
        (("min(" : Text).toList, ("np.minimum(" : Text).toList)].Perm
      [(("min(" : Text).toList, ("np.minimum(" : Text).toList),
        (("max(" : Text).toList, ("np.maximum(" : Text).toList)] ∧
      Text.replaceInTurn
          [(("max(" : Text).toList, ("np.maximum(" : Text).toList),
            (("min(" : Text).toList, ("np.minimum(" : Text).toList)]
          ("max(mmin(1), maxmin(min, 2))" : Text).toList =
        ("np.maximum(mnp.minimum(1), maxnp.minimum(min, 2))" : Text).toList := by
  obtain ⟨-, horder, -, -⟩ := vectorizes_in_one_pass "max(mmin(1), maxmin(min, 2))"
  have hvalue : vectorize "max(mmin(1), maxmin(min, 2))" =
      "np.maximum(mnp.minimum(1), maxnp.minimum(min, 2))" := by decide +kernel
  have hperm := List.Perm.swap (("min(" : Text).toList, ("np.minimum(" : Text).toList)
    (("max(" : Text).toList, ("np.maximum(" : Text).toList) []
  exact ⟨hperm, (horder _ hperm).trans (congrArg Text.toList hvalue)⟩

/-- A call begins in the first text and ends in the second one, which stands behind it. -/
def CallAcross (before behind : List Rune) : Prop :=
  ∃ entry ∈ vectorCalls, ∃ k < entry.1.length, 0 < k ∧
    entry.1.take k <:+ before ∧ entry.1.drop k <+: behind

instance (before behind : List Rune) : Decidable (CallAcross before behind) :=
  inferInstanceAs (Decidable (∃ entry ∈ vectorCalls, ∃ k < entry.1.length, 0 < k ∧
    entry.1.take k <:+ before ∧ entry.1.drop k <+: behind))

/-- Only the end of a call is a bracket, and only its first character an `m`. -/
theorem call_parts : ∀ entry ∈ vectorCalls, ∀ k < entry.1.length,
    .char '(' ∉ entry.1.take k ∧ .char '(' ∈ entry.1.drop k ∧
      (0 < k → .char 'm' ∉ entry.1.drop k) := by
  decide

variable {before behind text : List Rune}

theorem not_callAcross_of_not_mem (h : .char '(' ∉ behind) : ¬ CallAcross before behind := by
  rintro ⟨entry, hentry, k, hk, -, -, hrest⟩
  exact h (hrest.subset (call_parts entry hentry k hk).2.1)

theorem not_callAcross_of_head? (h : behind.head? = some (.char 'm')) :
    ¬ CallAcross before behind := by
  rintro ⟨entry, hentry, k, hk, hpos, -, hrest⟩
  obtain ⟨letters, rfl⟩ := List.head?_eq_some_iff.1 h
  have hparts := call_parts entry hentry k hk
  cases hdrop : entry.1.drop k with
  | nil => simp [hdrop] at hparts
  | cons c cs =>
      rw [hdrop] at hrest hparts
      obtain ⟨rfl, -⟩ := List.cons_prefix_cons.1 hrest
      exact hparts.2.2 hpos List.mem_cons_self

/-- A call at the front of two texts lies in the first one, if none lies across. -/
theorem isPrefix_of_not_callAcross (h : ¬ CallAcross before behind) (hne : before ≠ [])
    {entry : List Rune × List Rune} (hentry : entry ∈ vectorCalls)
    (hcall : entry.1 <+: before ++ behind) : entry.1 <+: before := by
  by_cases hlength : entry.1.length ≤ before.length
  · exact List.prefix_of_prefix_length_le hcall (List.prefix_append before behind) hlength
  · have hshort : before.length < entry.1.length := by omega
    obtain ⟨rest, hrest⟩ := List.prefix_of_prefix_length_le (List.prefix_append before behind) hcall
      hshort.le
    have htake : entry.1.take before.length <:+ before := by
      rw [← hrest, List.take_left]
    have hdrop : entry.1.drop before.length <+: behind := by
      rw [← hrest, List.prefix_append_right_inj] at hcall
      rwa [← hrest, List.drop_left]
    exact absurd ⟨entry, hentry, before.length, hshort, List.length_pos_of_ne_nil hne,
      htake, hdrop⟩ h

theorem CallAcross.of_suffix (h : CallAcross text behind) (hsuffix : text <:+ before) :
    CallAcross before behind := by
  obtain ⟨entry, hentry, k, hk, hpos, hstart, hrest⟩ := h
  exact ⟨entry, hentry, k, hk, hpos, hstart.trans hsuffix, hrest⟩

theorem Vectorized.append {result : List Rune} (h : Vectorized before result)
    (hacross : ¬ CallAcross before behind) :
    vectorizeChars (before ++ behind) = result ++ vectorizeChars behind := by
  induction h with
  | done => rfl
  | @call entry text result listed later ih =>
      have hlater : ¬ CallAcross text behind :=
        fun h => hacross (h.of_suffix (List.suffix_append _ _))
      rw [List.append_assoc, vectorizeChars_call listed, ih hlater, List.append_assoc]
  | @pass c text result front later ih =>
      have hlater : ¬ CallAcross text behind :=
        fun h => hacross (h.of_suffix (List.suffix_cons _ _))
      have hpass : ∀ entry ∈ vectorCalls, ¬ entry.1 <+: c :: (text ++ behind) :=
        fun entry hentry hcall => front entry hentry
          (isPrefix_of_not_callAcross hacross (List.cons_ne_nil _ _) hentry hcall)
      rw [List.cons_append, vectorizeChars_cons hpass, ih hlater, List.cons_append]

/-- Texts with no call across are vectorized one by one. -/
theorem vectorizeChars_append (h : ¬ CallAcross before behind) :
    vectorizeChars (before ++ behind) = vectorizeChars before ++ vectorizeChars behind :=
  (vectorized_vectorizeChars before).append h

theorem vectorizeChars_of_not_mem (h : .char '(' ∉ text) : vectorizeChars text = text := by
  induction text with
  | nil => rfl
  | cons c cs ih =>
      have hpass : ∀ entry ∈ vectorCalls, ¬ entry.1 <+: c :: cs := by
        intro entry hentry hcall
        obtain ⟨-, hbracket, -⟩ := call_parts entry hentry 0 (length_call_pos hentry)
        exact h (hcall.subset hbracket)
      rw [vectorizeChars_cons hpass, ih (List.not_mem_of_not_mem_cons h)]

theorem vectorizeChars_append_of_not_mem (h : .char 'm' ∉ text) (behind : List Rune) :
    vectorizeChars (text ++ behind) = text ++ vectorizeChars behind := by
  induction text with
  | nil => rfl
  | cons c cs ih =>
      have hpass : ∀ entry ∈ vectorCalls, ¬ entry.1 <+: c :: (cs ++ behind) := by
        intro entry hentry hcall
        obtain ⟨letters, hletters⟩ := exists_call_eq hentry
        rw [hletters] at hcall
        obtain ⟨rfl, -⟩ := List.cons_prefix_cons.1 hcall
        exact h List.mem_cons_self
      rw [List.cons_append, vectorizeChars_cons hpass, ih (List.not_mem_of_not_mem_cons h),
        List.cons_append]

/-- A call across two texts makes the whole longer than its parts. -/
theorem length_lt_of_callAcross (h : CallAcross before behind) :
    (vectorizeChars before).length + (vectorizeChars behind).length <
      (vectorizeChars (before ++ behind)).length := by
  obtain ⟨entry, hentry, k, hk, hpos, ⟨front, rfl⟩, ⟨back, rfl⟩⟩ := h
  obtain ⟨hstart, -, hrest⟩ := call_parts entry hentry k hk
  -- the start of the call has no bracket and its rest no `m`, so by themselves both are kept
  have hbefore : vectorizeChars (front ++ entry.1.take k) =
      vectorizeChars front ++ entry.1.take k := by
    rw [vectorizeChars_append (not_callAcross_of_not_mem hstart), vectorizeChars_of_not_mem hstart]
  have hbehind := vectorizeChars_append_of_not_mem (hrest hpos) back
  have hwhole : vectorizeChars (front ++ entry.1.take k ++ (entry.1.drop k ++ back)) =
      vectorizeChars front ++ (entry.2 ++ vectorizeChars back) := by
    obtain ⟨letters, hletters⟩ := exists_call_eq hentry
    have hhead : (entry.1 ++ back).head? = some (.char 'm') := by rw [hletters]; rfl
    rw [List.append_assoc, ← List.append_assoc (entry.1.take k), List.take_append_drop,
      vectorizeChars_append (not_callAcross_of_head? hhead), vectorizeChars_call hentry]
  have hlengths : ∀ entry ∈ vectorCalls, entry.1.length < entry.2.length := by decide +kernel
  have hlonger := hlengths entry hentry
  have hparts := congrArg List.length (List.take_append_drop k entry.1)
  rw [List.length_append] at hparts
  rw [hbefore, hbehind, hwhole]
  simp only [List.length_append]
  omega

/-- A call begins in one of the texts and ends in a later one. -/
def CallAtSeam : List (List Rune) → Prop
  | [] => False
  | part :: rest => CallAcross part rest.flatten ∨ CallAtSeam rest

instance decidableCallAtSeam : (parts : List (List Rune)) → Decidable (CallAtSeam parts)
  | [] => .isFalse id
  | part :: rest =>
      have := decidableCallAtSeam rest
      inferInstanceAs (Decidable (CallAcross part rest.flatten ∨ CallAtSeam rest))

theorem length_flatten_le (parts : List (List Rune)) :
    (parts.map vectorizeChars).flatten.length ≤ (vectorizeChars parts.flatten).length := by
  induction parts with
  | nil => exact Nat.le_refl 0
  | cons part rest ih =>
      rw [List.map_cons, List.flatten_cons, List.flatten_cons, List.length_append]
      by_cases hacross : CallAcross part rest.flatten
      · have hlonger := length_lt_of_callAcross hacross
        omega
      · rw [vectorizeChars_append hacross, List.length_append]
        omega

/-- Texts are vectorized one by one exactly if no call lies across a seam. -/
theorem vectorizeChars_flatten_iff (parts : List (List Rune)) :
    vectorizeChars parts.flatten = (parts.map vectorizeChars).flatten ↔ ¬ CallAtSeam parts := by
  induction parts with
  | nil => exact iff_of_true rfl id
  | cons part rest ih =>
      rw [List.map_cons, List.flatten_cons, List.flatten_cons, CallAtSeam, not_or, ← ih]
      constructor
      · intro heq
        have hacross : ¬ CallAcross part rest.flatten := by
          intro hacross
          have hlonger := length_lt_of_callAcross hacross
          have hrest := length_flatten_le rest
          rw [heq, List.length_append] at hlonger
          omega
        rw [vectorizeChars_append hacross] at heq
        exact ⟨hacross, List.append_cancel_left heq⟩
      · rintro ⟨hacross, hrest⟩
        rw [vectorizeChars_append hacross, hrest]

end Target.Python

/-- The segment as the target writes it by itself: a text is vectorized and a name is kept. -/
def Segment.vectorized (name? : Text → Option Text) : Segment → List Rune
  | .text chars _ => Target.Python.vectorizeChars chars
  | .reference id plain => (Segment.reference id plain).resolved name?

namespace Formula

def vectorized (name? : Text → Option Text) (formula : Formula) : List Rune :=
  formula.flatMap (Segment.vectorized name?)

/-- Once the references are replaced by names, a call begins in a segment and ends in a later
one. -/
def CallAtSeam (name? : Text → Option Text) (formula : Formula) : Prop :=
  Target.Python.CallAtSeam (formula.map (Segment.resolved name?))

instance (name? : Text → Option Text) (formula : Formula) :
    Decidable (formula.CallAtSeam name?) :=
  Target.Python.decidableCallAtSeam _

variable {name? : Text → Option Text} {formula : Formula}

theorem flatten_map_vectorizeChars
    (hnames : ∀ id name, name? id = some name → .char '(' ∉ name.toList)
    (hknown : ∀ id ∈ formula.references, (name? id).isSome = true) :
    ((formula.map (Segment.resolved name?)).map Target.Python.vectorizeChars).flatten =
      formula.vectorized name? := by
  rw [List.map_map, vectorized, List.flatMap_def]
  congr 1
  refine List.map_congr_left fun segment hsegment => ?_
  cases segment with
  | text chars plain => rw [Function.comp_apply, Segment.vectorized, Segment.resolved]
  | reference id plain =>
      have hid : id ∈ formula.references := List.mem_filterMap.2 ⟨_, hsegment, rfl⟩
      obtain ⟨name, hname⟩ := Option.isSome_iff_exists.1 (hknown id hid)
      rw [Function.comp_apply, Segment.vectorized, Segment.resolved, hname]
      exact Target.Python.vectorizeChars_of_not_mem (hnames id name hname)

theorem vectorizeChars_resolved_iff
    (hnames : ∀ id name, name? id = some name → .char '(' ∉ name.toList)
    (hknown : ∀ id ∈ formula.references, (name? id).isSome = true) :
    Target.Python.vectorizeChars (formula.resolved name?) = formula.vectorized name? ↔
      ¬ formula.CallAtSeam name? := by
  rw [← flatten_map_vectorizeChars hnames hknown, resolved, List.flatMap_def]
  exact Target.Python.vectorizeChars_flatten_iff _

end Formula

theorem Target.code_function {node : Node} {body : Text} (hkind : node.kind = .function)
    (hexpression : node.expression = some body) (log : List Call) :
    ((python.write node).run log).1.code = Call.code (.function body) (Python.vectorize body) := by
  have hcall : node.call = .ok (some (.function body)) := by
    simp only [Node.call, hkind, hexpression, Option.getD_some]
  rw [write_run, written, hcall]
  rfl

namespace NodeMap

variable {model : Model} {settings : Settings} {reserved : List Text} {nodes : NodeMap}

theorem bracket_not_mem_name (h : ofModel model settings reserved = .ok nodes) {id name : Text}
    (hname : nodes.names.get? id = some name) : .char '(' ∉ name.toList :=
  Identifier.not_mem_of_isIdentifier
    (isIdentifier_of_mem_names h (OrderedMap.mem_values.2 ⟨id, hname⟩)) (by decide)

/-- The node of a formula has the names in the places of the references. It is empty only if the
formula is. -/
theorem exists_resolved_formula (h : ofModel model settings reserved = .ok nodes)
    (hids : ∀ id ∈ nodes.keys, .char '\x7d' ∉ id.toList) {id : Text} {guesstimate : Guesstimate}
    (hlast : model.guesstimate? id = some guesstimate) (hkind : guesstimate.kind = .function)
    {mark : Rune} {formula : Formula}
    (hexpression : guesstimate.expression = some (Text.ofList (mark :: formula.chars))) :
    ∃ node, nodes.resolved.get? id = some node ∧ node.kind = .function ∧
      node.expression = some (Text.ofList (formula.resolved nodes.names.get?)) ∧
      (Text.ofList (formula.resolved nodes.names.get?) = "" ↔ formula.chars = []) := by
  obtain ⟨metric, name, hget⟩ := exists_get?_ofModel h hlast
  have hinert := inert_names h
  have hkeys : ∀ id ∈ nodes.names.keys, .char '\x7d' ∉ id.toList := by rwa [keys_names]
  obtain ⟨htext, -⟩ := Reference.resolve_formula hkeys
    (fun name hname => (hinert name hname).not_open) formula
  have hbody : (Node.make metric guesstimate name).body = Text.ofList formula.chars := by
    rw [Node.body, Node.make, hexpression, Option.getD_some, Text.toList_ofList, List.drop_one,
      List.tail_cons]
  refine ⟨((Node.make metric guesstimate name).resolve nodes.names).node, ?_, ?_, ?_, ?_⟩
  · rw [resolved, OrderedMap.get?_map, hget, Option.map_some]
  · rw [Node.resolve_kind]
    exact hkind
  · rw [Node.expression_resolve hkind, hbody, htext]
  · have hfull : ∀ name ∈ nodes.names.values, name ≠ "" :=
      fun name hname hempty => (hinert name hname).ne_nil (by rw [hempty]; rfl)
    rw [← htext, Reference.resolve_eq_empty_iff hfull, ← Text.toList_eq_nil_iff,
      Text.toList_ofList]

end NodeMap

namespace Graph

variable {model : Model} {settings : Settings} {reserved : List Text} {graph : Graph}

/-- The code of a formula is made of its vectorized texts and of the names of the metrics that it
refers to exactly if no call lies across a seam between them. An empty formula has no code. -/
theorem vectorizes_between_names_iff (h : Graph.ofModel model settings reserved = .ok graph)
    (hids : ∀ id ∈ graph.nodes.keys, .char '\x7d' ∉ id.toList) {id : Text}
    {guesstimate : Guesstimate} (hlast : model.guesstimate? id = some guesstimate)
    (hkind : guesstimate.kind = .function)
    {mark : Rune} {formula : Formula}
    (hexpression : guesstimate.expression = some (Text.ofList (mark :: formula.chars)))
    (hknown : ∀ ref ∈ formula.references, ref ∈ graph.nodes.keys) (log : List Call) :
    ∃ node code,
      graph.nodes.get? id = some node ∧
      code = ((Target.python.write node).run log).1.code ∧
      (code.getD "" =
          Text.ofList (formula.vectorized fun ref => (graph.nodes.get? ref).map Node.name) ↔
        ¬ formula.CallAtSeam fun ref => (graph.nodes.get? ref).map Node.name) ∧
      (code = none ↔ formula.chars = []) := by
  obtain ⟨nodes, hnodes, -, rfl⟩ := ofModel_eq_ok_iff.1 h
  have hnames : (fun ref => (nodes.resolved.get? ref).map Node.name) = nodes.names.get? :=
    funext nodes.get?_names_resolved
  simp only [NodeMap.graph, NodeMap.keys_resolved, hnames] at hids hknown ⊢
  obtain ⟨node, hnode, hfunction, hformula, hempty⟩ :=
    NodeMap.exists_resolved_formula hnodes hids hlast hkind hexpression
  have hnamed : ∀ ref ∈ formula.references, (nodes.names.get? ref).isSome = true := by
    intro ref href
    rw [← OrderedMap.mem_keys, NodeMap.keys_names]
    exact hknown ref href
  have hbrackets : ∀ ref name, nodes.names.get? ref = some name → .char '(' ∉ name.toList :=
    fun ref name => NodeMap.bracket_not_mem_name hnodes
  refine ⟨node, _, hnode, Target.code_function hfunction hformula log |>.symm, ?_, ?_⟩
  · rw [Call.getD_code, Target.Python.vectorize, Text.toList_ofList, Text.ofList_inj]
    exact Formula.vectorizeChars_resolved_iff hbrackets hnamed
  · rw [← hempty, ← Target.Python.vectorize_eq_empty_iff]
    simp [Call.code, Call.dropsEmpty]

/-- A metric whose name ends like a function, and a formula that refers to it. -/
def administered (formula : Formula) : Model where
  url := "u"
  metrics := [⟨"a", "Admin"⟩, ⟨"f", "Total"⟩]
  guesstimates := [
    ⟨"a", .point, some "2", .text "", none⟩,
    ⟨"f", .function, some (Text.ofList (.char '=' :: formula.chars)), .text "", none⟩]

/-- Calls in the texts, and no bracket right behind a name. -/
def clipped : Formula := [
  .text ("3 + min(" : Text).toList (by decide +kernel), .reference "a" (by decide),
  .text (", max(1, " : Text).toList (by decide +kernel), .reference "a" (by decide),
  .text ("*(2)))" : Text).toList (by decide +kernel)]

theorem clipped_vectorizes_between_names :
    ∃ graph node,
      Graph.ofModel (administered clipped) .standard Target.python.reserved = .ok graph ∧
      (∀ ref ∈ clipped.references, ref ∈ graph.nodes.keys) ∧
      graph.nodes.get? "f" = some node ∧
      ((Target.python.write node).run []).1.code.getD "" =
        "3 + np.minimum(admin, np.maximum(1, admin*(2)))" := by
  obtain ⟨graph, hgraph, hkeys, hseam, htext⟩ : ∃ graph,
      Graph.ofModel (administered clipped) .standard Target.python.reserved = .ok graph ∧
      graph.nodes.keys = ["a", "f"] ∧
      (¬ clipped.CallAtSeam fun ref => (graph.nodes.get? ref).map Node.name) ∧
      Text.ofList (clipped.vectorized fun ref => (graph.nodes.get? ref).map Node.name) =
        "3 + np.minimum(admin, np.maximum(1, admin*(2)))" := exists_ok_of_any (by decide +kernel)
  have hids : ∀ id ∈ graph.nodes.keys, .char '\x7d' ∉ id.toList := by
    rw [hkeys]
    decide
  have hknown : ∀ ref ∈ clipped.references, ref ∈ graph.nodes.keys := by
    rw [hkeys]
    decide
  have hlast : (administered clipped).guesstimate? "f" =
      some ⟨"f", .function, some (Text.ofList (.char '=' :: clipped.chars)), .text "", none⟩ := rfl
  obtain ⟨node, code, hnode, rfl, hcode, -⟩ :=
    vectorizes_between_names_iff hgraph hids hlast rfl rfl hknown []
  exact ⟨graph, node, hgraph, hknown, hnode, (hcode.2 hseam).trans htext⟩

/-- A bracket right behind the name. -/
def applied : Formula := [
  .reference "a" (by decide), .text ("(1 + 2)" : Text).toList (by decide +kernel)]

/-- The end of a name is taken for a function. -/
theorem applied_damages_name :
    ∃ graph node,
      Graph.ofModel (administered applied) .standard Target.python.reserved = .ok graph ∧
      (∀ ref ∈ applied.references, ref ∈ graph.nodes.keys) ∧
      graph.nodes.get? "f" = some node ∧
      Text.ofList (applied.vectorized fun ref => (graph.nodes.get? ref).map Node.name) =
        "admin(1 + 2)" ∧
      ((Target.python.write node).run []).1.code = some "adnp.minimum(1 + 2)" := by
  obtain ⟨graph, hgraph, hknown, htext, hcode⟩ : ∃ graph,
      Graph.ofModel (administered applied) .standard Target.python.reserved = .ok graph ∧
      (∀ ref ∈ applied.references, ref ∈ graph.nodes.keys) ∧
      Text.ofList (applied.vectorized fun ref => (graph.nodes.get? ref).map Node.name) =
        "admin(1 + 2)" ∧
      (graph.nodes.get? "f").map (fun node => ((Target.python.write node).run []).1.code) =
        some (some ("adnp.minimum(1 + 2)" : Text)) := exists_ok_of_any (by decide +kernel)
  obtain ⟨node, hnode, hcode⟩ := Option.map_eq_some_iff.1 hcode
  exact ⟨graph, node, hgraph, hknown, hnode, htext, hcode⟩

end Graph

end EstimateCompiler
