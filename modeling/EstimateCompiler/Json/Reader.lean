import EstimateCompiler.Json.Token
import EstimateCompiler.OrderedMap

/-!
# Reading JSON texts

The reader goes through the tokens once, with a stack of the arrays and objects that are still open.
A field that is repeated keeps its first place and its last value. The first fault ends the reading;
it is reported with its position in the text, counted in characters, lines and columns.
-/
namespace EstimateCompiler.Json

/-- An array or object that is still open, with what it holds so far. The items of an array are
listed from the last one on; an object also has the name of the field that is being read. -/
inductive Frame where
  | items (done : List Json)
  | fields (done : List (Text × Json)) (name : Text)
  deriving DecidableEq, Repr

inductive Mode where
  /-- a value -/
  | value
  /-- the first item of an array, or its end -/
  | firstItem
  /-- the first name of an object, or its end -/
  | firstName
  /-- the name of a further field of an object with these fields -/
  | name (done : List (Text × Json))
  /-- the colon behind the name of a field -/
  | colon (done : List (Text × Json)) (name : Text)
  /-- what follows a value -/
  | rest (v : Json)
  deriving DecidableEq, Repr

/-- A fault and the position of the character at which it was found. -/
abbrev Found := Fault × Nat

def Located.valueFault (t : Located) : Found :=
  match t.token with
  | .faulty fault pos => (fault, pos)
  | _ => (.expectedValue, t.pos)

def Located.nameFault (t : Located) : Found :=
  match t.token with
  | .faulty fault pos => (fault, pos)
  | _ => (.expectedName, t.pos)

/-- Reads the tokens of a text that ends at position `stop`. -/
def readTokens (stop : Nat) : List Frame → Mode → List Located → Except Found Json
  | [], .rest v, [] => .ok v
  | [], .rest _, t :: _ => .error (.extraData, t.pos)
  | .items done :: stack, .rest v, t :: ts =>
      match t.token with
      | .comma => readTokens stop (.items (v :: done) :: stack) .value ts
      | .closeArray => readTokens stop stack (.rest (.array (v :: done).reverse)) ts
      | _ => .error (.expectedComma, t.pos)
  | .fields done name :: stack, .rest v, t :: ts =>
      match t.token with
      | .comma => readTokens stop stack (.name (putEntry name v done)) ts
      | .closeObject => readTokens stop stack (.rest (.object (putEntry name v done))) ts
      | _ => .error (.expectedComma, t.pos)
  | _ :: _, .rest _, [] => .error (.expectedComma, stop)
  | stack, .value, t :: ts =>
      match t.token with
      | .openArray => readTokens stop stack .firstItem ts
      | .openObject => readTokens stop stack .firstName ts
      | .text s => readTokens stop stack (.rest (.text s)) ts
      | .literal v => readTokens stop stack (.rest v) ts
      | _ => .error t.valueFault
  | stack, .firstItem, t :: ts =>
      match t.token with
      | .closeArray => readTokens stop stack (.rest (.array [])) ts
      | .openArray => readTokens stop (.items [] :: stack) .firstItem ts
      | .openObject => readTokens stop (.items [] :: stack) .firstName ts
      | .text s => readTokens stop (.items [] :: stack) (.rest (.text s)) ts
      | .literal v => readTokens stop (.items [] :: stack) (.rest v) ts
      | _ => .error t.valueFault
  | stack, .firstName, t :: ts =>
      match t.token with
      | .closeObject => readTokens stop stack (.rest (.object [])) ts
      | .text s => readTokens stop stack (.colon [] s) ts
      | _ => .error t.nameFault
  | stack, .name done, t :: ts =>
      match t.token with
      | .text s => readTokens stop stack (.colon done s) ts
      | _ => .error t.nameFault
  | stack, .colon done name, t :: ts =>
      match t.token with
      | .colon => readTokens stop (.fields done name :: stack) .value ts
      | _ => .error (.expectedColon, t.pos)
  | _, .value, [] | _, .firstItem, [] => .error (.expectedValue, stop)
  | _, .firstName, [] | _, .name _, [] => .error (.expectedName, stop)
  | _, .colon _ _, [] => .error (.expectedColon, stop)

structure ReadError where
  fault : Fault
  line : Nat
  column : Nat
  pos : Nat
  deriving DecidableEq, Repr

/-- A fault placed by the characters before it: the line counts line ends, the column counts from
the last one. -/
def ReadError.locate (cs : List Rune) (found : Found) : ReadError :=
  let before := cs.take found.2
  { fault := found.1
    line := before.count (.char '\n') + 1
    column := (before.reverse.takeWhile (· != .char '\n')).length + 1
    pos := found.2 }

def ReadError.message (e : ReadError) : Text :=
  e.fault.message ++ ": line " ++ natText e.line ++ " column " ++ natText e.column ++
    " (char " ++ natText e.pos ++ ")"

def readChars (cs : List Rune) : Except Found Json :=
  if cs.head? = some (.char '\ufeff') then .error (.byteOrderMark, 0)
  else readTokens cs.length [] .value (scan cs)

def read (text : Text) : Except ReadError Json :=
  (readChars text.toList).mapError (ReadError.locate text.toList)

example : (read "[1, 2.0]").toOption =
    some (.array [.number (.integer 1),
      .number (.real (.finite false Binary64.leastMantissa (-51)))]) := by
  decide +kernel

end EstimateCompiler.Json
