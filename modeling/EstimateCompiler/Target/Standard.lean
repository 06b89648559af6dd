import EstimateCompiler.Target.Basic

/-!
# The standard targets

Squiggle has distributions of its own, so every guesstimate is one assignment on one line, with the
label as a comment behind it.

A program in Python draws samples of every distribution and plots each quantity that is not a point.
The bounds of a distribution are its 5th and 95th percentiles; the functions that draw samples from
them stand at the top of every program. Words of the language and names bound at the top are
reserved.

Targets are found by name. Putting a target under a name that is taken replaces the one before.
-/
namespace EstimateCompiler

namespace Target

@[simp] def squiggleAnswer : Call → Text
  | .header url => "// Generated from " ++ url ++ "\n"
  | .point value => value
  | .data samples => "fromSamples(" ++ samplesText samples ++ ")"
  | .uniform low high => "uniform(" ++ low ++ ", " ++ high ++ ")"
  | .normal low high => low ++ " to " ++ high
  | .lognormal low high => low ++ " to " ++ high
  | .function body => body
  | .assignment a => a.name ++ " = " ++ a.codeText ++ " // " ++ a.label

def squiggle : Target := ⟨[], fun _ => squiggleAnswer⟩

@[simp] theorem squiggle_answer (log : List Call) (call : Call) :
    squiggle.answer log call = squiggleAnswer call := rfl

namespace Python

/-- The suffixes of large numbers and the multiplications that they stand for. -/
def suffixes : List (Rune × List Rune) := [
  ('K', (" * 1_000" : Text).toList),
  ('M', (" * 1_000_000" : Text).toList),
  ('B', (" * 1_000_000_000" : Text).toList)]

def expandSuffixChars (cs : List Rune) : List Rune :=
  suffixes.foldl (fun text entry => Text.replaceFirst entry.1 entry.2 text) cs

def expandSuffixes (text : Text) : Text := Text.ofList (expandSuffixChars text.toList)

/-- Calls of functions on numbers and their counterparts on samples. -/
def vectorCalls : List (List Rune × List Rune) := [
  (['m', 'i', 'n', '('], ("np.minimum(" : Text).toList),
  (['m', 'a', 'x', '('], ("np.maximum(" : Text).toList)]

def vectorizeChars (cs : List Rune) : List Rune :=
  vectorCalls.foldl (fun text entry => Text.replaceAll entry.1 entry.2 text) cs

def vectorize (body : Text) : Text := Text.ofList (vectorizeChars body.toList)

def keywords : List Text := List.map Text.ofString [
  "False", "None", "True", "and", "as", "assert", "async", "await", "break", "class", "continue",
  "def", "del", "elif", "else", "except", "finally", "for", "from", "global", "if", "import", "in",
  "is", "lambda", "nonlocal", "not", "or", "pass", "raise", "return", "try", "while", "with",
  "yield"]

/-- The names bound at the top of a program that are reserved. -/
def boundNames : List Text := [
  "inspect", "plt", "np", "norm", "make_uniform", "make_normal", "make_lognormal", "show"]

/-- The lines at the top of every program, behind the address of the model. -/
def preamble : List Text := List.map Text.ofString [
  "import inspect",
  "",
  "import matplotlib.pyplot as plt",
  "import numpy as np",
  "from scipy.stats import norm",
  "",
  "SAMPLES = 1_000_000",
  "",
  "",
  "def make_uniform(perc_5, perc_95):",
  "    assert perc_95 > perc_5",
  "    size = (perc_95 - perc_5) / 0.9",
  "    minimum = perc_5 - size * 0.05",
  "    maximum = minimum + size",
  "    return np.random.uniform(minimum, maximum, SAMPLES)",
  "",
  "",
  "def make_normal(perc_5, perc_95):",
  "    assert perc_95 > perc_5",
  "    mean = (perc_5 + perc_95) / 2",
  "    stdev = (perc_95 - perc_5) / (norm.ppf(0.95) - norm.ppf(0.05))",
  "    return np.random.normal(mean, stdev, SAMPLES)",
  "",
  "",
  "def make_lognormal(perc_5, perc_95):",
  "    assert perc_5 > 0",
  "    assert perc_95 > 0",
  "    return np.exp(make_normal(np.log(perc_5), np.log(perc_95)))",
  "",
  "",
  "def show(dist):",
  "    title_lines = []",
  "    frame = inspect.currentframe()",
  "    names = [",
  "        name for name, val in frame.f_back.f_locals.items()",
  "        if val is dist",
  "    ]",
  "    if names:",
  "        title_lines.append(names[0])",
  "    title_lines.append(f\"mean: \x7bnp.mean(dist):,.2f\x7d\")",
  "    title_lines.append(f\"stdev: \x7bnp.std(dist):,.2f\x7d\")",
  "    five, ninety_five = np.quantile(dist, [0.05, 0.95])",
  "    title_lines.append(f\"5% to 95%: \x7bfive:,.2f\x7d to \x7bninety_five:,.2f\x7d\")",
  "    plt.title(\"\\n\".join(title_lines))",
  "    plt.hist(dist, bins=100)",
  "    plt.show()",
  "",
  ""]

def header (url : Text) : Text :=
  Text.intercalate "\n" ([("" : Text), "# Generated from " ++ url, ""] ++ preamble) ++ "\n"

def bounded (function low high : Text) : Text :=
  function ++ "(" ++ expandSuffixes low ++ ", " ++ expandSuffixes high ++ ")"

@[simp] def answer : Call → Text
  | .header url => header url
  | .point value => value
  | .data samples => "np.array(" ++ samplesText samples ++ ")"
  | .uniform low high => bounded "make_uniform" low high
  | .normal low high => bounded "make_normal" low high
  | .lognormal low high => bounded "make_lognormal" low high
  | .function body => vectorize body
  | .assignment a =>
      "\n# " ++ a.label ++ "\n" ++ a.name ++ " = " ++ a.codeText ++
        if a.isPoint then ("" : Text) else "\nshow(" ++ a.name ++ ")"

end Python

def python : Target := ⟨Python.keywords ++ Python.boundNames, fun _ => Python.answer⟩

@[simp] theorem python_answer (log : List Call) (call : Call) :
    python.answer log call = Python.answer call := rfl

end Target

abbrev Registry := OrderedMap Target

namespace Registry

def standard : Registry := .ofList [("python", .python), ("squiggle", .squiggle)]

def available (registry : Registry) : List Text := sortIds registry.keys

def find (registry : Registry) (name : Text) : Except CompileError Target :=
  match registry.get? name with
  | some target => .ok target
  | none => .error (.unknownTarget name (available registry))

end Registry

end EstimateCompiler
