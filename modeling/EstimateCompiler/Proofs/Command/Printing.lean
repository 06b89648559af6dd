import EstimateCompiler.Command.Run
import EstimateCompiler.Proofs.Graph.Outcome
import EstimateCompiler.Proofs.Program.Writing

/-!
# Lines that every platform prints

ASCII without the escape character is printed as it is, whatever the platform. The names of nodes
are identifiers, so the listing of a program is printed like this.
-/
namespace EstimateCompiler.Command

def joinLines (lines : List Text) : Text := Text.join (lines.map (· ++ "\n"))

theorem plain_append {first second : Text} :
    Plain (first ++ second) ↔ Plain first ∧ Plain second := by
  simp only [Plain, Text.toList_append, List.forall_mem_append]

theorem Plain.intercalate {separator : Text} {texts : List Text} (hseparator : Plain separator)
    (h : ∀ text ∈ texts, Plain text) : Plain (separator.intercalate texts) := by
  intro c hc
  rw [Text.toList_intercalate] at hc
  induction texts with
  | nil => cases hc
  | cons text rest ih =>
      cases rest with
      | nil => exact h text List.mem_cons_self c (by simpa using hc)
      | cons next rest =>
          rw [List.map_cons, List.map_cons, List.intercalate_cons_cons, List.mem_append,
            List.mem_append] at hc
          rcases hc with (hc | hc) | hc
          · exact h text List.mem_cons_self c hc
          · exact hseparator c hc
          · exact ih (fun other hother => h other (List.mem_cons_of_mem _ hother)) hc

theorem toNat_lt_of_isWordChar {c : Rune} (h : Identifier.isWordChar c = true) :
    c.toNat < 0x80 := by
  cases c with
  | half n => cases h
  | char c =>
      simp only [Identifier.isWordChar, Rune.isAlphanum, Rune.isAlpha, Bool.or_eq_true,
        beq_iff_eq] at h
      rcases h with ((h | h) | h) | h
      · exact Nat.lt_of_le_of_lt (Text.isUpper_iff.1 h).2 (by decide)
      · have hlast : c.toNat ≤ 122 := of_decide_eq_true (Bool.and_eq_true_iff.1 h).2
        exact Nat.lt_of_le_of_lt hlast (by decide)
      · have hlast : c.toNat ≤ 57 := of_decide_eq_true (Bool.and_eq_true_iff.1 h).2
        exact Nat.lt_of_le_of_lt hlast (by decide)
      · rw [h]
        decide

theorem plain_of_isIdentifier {name : Text} (h : Identifier.isIdentifier name.toList = true) :
    Plain name := by
  intro c hc
  have hword := Identifier.isWordChar_of_mem h hc
  refine ⟨toNat_lt_of_isWordChar hword, ?_⟩
  rintro rfl
  exact absurd hword (by decide)

namespace Platform

variable (platform : Platform)

theorem printLines_plain {lines : List Text} (h : ∀ line ∈ lines, Plain line) :
    platform.printLines lines = (joinLines lines, none) := by
  induction lines with
  | nil => rfl
  | cons line rest ih =>
      have hline : Plain (line ++ "\n") := plain_append.2 ⟨h line List.mem_cons_self, by decide⟩
      rw [printLines, platform.print_plain hline,
        ih fun other hother => h other (List.mem_cons_of_mem _ hother)]
      simp [joinLines]

end Platform

section
variable {registry : Registry} {target : Text} {settings : Settings} {model : Model}
  {program : Program}

theorem plain_name (h : Program.compile registry target settings model = .ok program) {r : Rendered}
    (hr : r ∈ program.nodes) : Plain r.node.name := by
  obtain ⟨_, -, hfor⟩ := Program.compileFor_of_compile h
  obtain ⟨nodes, hcompiled⟩ := Program.compiled_of_compileFor hfor
  obtain ⟨node, log, hget, heq⟩ := hcompiled.eq_render r hr
  have hname : node.name ∈ nodes.names.values := by
    rw [NodeMap.names, OrderedMap.values_map]
    exact List.mem_map_of_mem (OrderedMap.mem_values.2 ⟨_, hget⟩)
  rw [heq]
  simpa [Target.render] using
    plain_of_isIdentifier (NodeMap.isIdentifier_of_mem_names hcompiled.ofModel hname)

theorem plain_nodeLine (h : Program.compile registry target settings model = .ok program)
    {r : Rendered} (hr : r ∈ program.nodes) : Plain (nodeLine program r) := by
  have hstatus : Plain (if r.assignment.hasCode then r.node.kind.name else "SKIPPED") := by
    split
    · cases r.node.kind <;> decide
    · decide
  have huses : Plain (Text.intercalate ", "
      ((program.nodes.filter fun other => other.node.id ∈ r.dependencies).map (·.node.name))) := by
    refine Plain.intercalate (by decide) fun name hname => ?_
    obtain ⟨other, hother, rfl⟩ := List.mem_map.1 hname
    exact plain_name h (List.mem_of_mem_filter hother)
  have hlist : ∀ uses : Text, Plain uses → Plain (if uses = "" then "(none)" else uses) := by
    intro uses huses
    split
    · decide
    · exact huses
  simp only [nodeLine, plain_append]
  exact ⟨⟨⟨⟨⟨⟨by decide, hstatus⟩, by decide⟩, plain_name h hr⟩, by decide⟩, hlist _ huses⟩,
    by decide⟩

theorem plain_listing (h : Program.compile registry target settings model = .ok program) :
    ∀ line ∈ listing program, Plain line := by
  intro line hline
  rcases List.mem_cons.1 hline with rfl | hline
  · decide
  · obtain ⟨r, hr, rfl⟩ := List.mem_map.1 hline
    exact plain_nodeLine h hr

end

end EstimateCompiler.Command
