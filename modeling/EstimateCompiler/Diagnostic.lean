import EstimateCompiler.Model.Basic

/-!
# Diagnostics

A diagnostic tells of a node that is left out of the program, or of references that stay as they
are. It does not stop the compilation.
-/
namespace EstimateCompiler

inductive Finding where
  /-- the expression of a distribution has no bounds -/
  | unreadableBounds (expression : Option Text) (kind : Kind)
  /-- a function refers to metrics that have no node -/
  | danglingReferences (ids : List Text)
  /-- a list of samples is absent -/
  | missingData
  deriving DecidableEq, Repr

structure Diagnostic where
  nodeId : Text
  finding : Finding
  deriving DecidableEq, Repr

namespace Diagnostic

def tag (d : Diagnostic) : Text :=
  match d.finding with
  | .unreadableBounds _ _ => "unparsable_distribution_shape"
  | .danglingReferences _ => "dangling_reference"
  | .missingData => "missing_data"

/-- An expression in quotes, or the word for an absent one. -/
def quotedExpression : Option Text → Text
  | some text => Text.quote text
  | none => "None"

def message (d : Diagnostic) : Text :=
  match d.finding with
  | .unreadableBounds expression kind =>
      "cannot read bounds from " ++ quotedExpression expression ++ " for " ++ kind.noun ++
        " distribution"
  | .danglingReferences ids => "references unknown metric(s) " ++ Text.intercalate ", " ids
  | .missingData => "data guesstimate has no samples"

def display (d : Diagnostic) : Text := d.nodeId ++ ": " ++ d.message

end Diagnostic

end EstimateCompiler
