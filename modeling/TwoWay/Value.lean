import TwoWay.View

/-!
# Values

The values that described grammars stand for. Tokens and texts of every view are among them, so
that one type serves all grammars.
-/

namespace TwoWay

/-- Values of described grammars. -/
inductive Value where
  | unit
  | bool (b : Bool)
  | char (c : Char)
  | byte (b : UInt8)
  | text (text : List Char)
  | bytes (bytes : List UInt8)
  | int (n : Int)
  | pair (first second : Value)
  | list (values : List Value)
  | nothing
  | just (value : Value)
  deriving Inhabited

namespace Value

/-! ## Equality -/

mutual

/-- Whether two values are the same. -/
def same : Value → Value → Bool
  | unit, unit => true
  | bool a, bool b => a == b
  | char a, char b => a == b
  | byte a, byte b => a == b
  | text a, text b => a == b
  | bytes a, bytes b => a == b
  | int a, int b => a == b
  | pair a₁ a₂, pair b₁ b₂ => same a₁ b₁ && same a₂ b₂
  | list as, list bs => sameAll as bs
  | nothing, nothing => true
  | just a, just b => same a b
  | _, _ => false

/-- Whether two lists have the same values in the same order. -/
def sameAll : List Value → List Value → Bool
  | [], [] => true
  | a :: as, b :: bs => same a b && sameAll as bs
  | _, _ => false

end

instance : BEq Value := ⟨same⟩

/-! ## Parts

Each of these asks for a value of some kind, and gives a default for the others. -/

/-- The number of an integer. -/
def toInt : Value → Int
  | int n => n
  | _ => 0

/-- The scalars of a text. -/
def toChars : Value → List Char
  | text t => t
  | char c => [c]
  | _ => []

/-- The two sides of a pair. -/
def toPair : Value → Value × Value
  | pair a b => (a, b)
  | _ => (unit, unit)

/-- The members of a list. -/
def toList : Value → List Value
  | list values => values
  | _ => []

/-- What an option holds. -/
def toOption : Value → Option Value
  | just value => some value
  | _ => none

/-- The value of an option. -/
def ofOption : Option Value → Value
  | some value => just value
  | none => nothing

/-- A run of a value with its length. -/
def ofRun (run : Value × Nat) : Value := pair run.1 (int run.2)

/-- The value and the length of a run. -/
def toRun (value : Value) : Value × Nat := (value.toPair.1, value.toPair.2.toInt.toNat)

end Value

namespace View

/-! ## Tokens and texts as values -/

/-- The value of a token. -/
def ofToken : (v : View) → v.Token → Value
  | .chars, c => .char c
  | .graphemes, cluster => .text cluster
  | .bytes, b | .sharedBytes, b => .byte b

/-- The token that a value stands for. -/
def toToken : (v : View) → Value → v.Token
  | .chars, .char c => c
  | .chars, _ => default
  | .graphemes, value => value.toChars
  | .bytes, .byte b | .sharedBytes, .byte b => b
  | .bytes, _ | .sharedBytes, _ => 0

/-- The value of a text. -/
def ofText : (v : View) → v.Text → Value
  | .chars, text | .graphemes, text => .text text
  | .bytes, text | .sharedBytes, text => .bytes text

/-- The text that a value stands for. -/
def toText : (v : View) → Value → v.Text
  | .chars, value | .graphemes, value => value.toChars
  | .bytes, .bytes text | .sharedBytes, .bytes text => text
  | .bytes, _ | .sharedBytes, _ => []

end View

end TwoWay
