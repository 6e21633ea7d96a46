import TwoWay.Leaf.Run
import TwoWay.Value

/-!
# Descriptions of tests

The questions about a token that a description can ask. The sides of a choice and of a conjunction
are asked in order, and the second only if the first does not settle the answer.
-/

namespace TwoWay

/-- Questions about a token. -/
inductive TokenTest where
  | always
  | never
  | not (test : TokenTest)
  | or (first second : TokenTest)
  | and (first second : TokenTest)
  | oneOf (items : List Value)
  | range (least greatest : Nat)
  | byteLength (count : Nat)
  | space
  | inlineSpace
  | identStart
  | identContinue
  | digit (radix : Nat)

/-- Whether a token is a digit of a radix. Radices above 36 have no digits to ask for. -/
def View.isDigit (v : View) (radix : Nat) (token : v.Token) : Except Fault Bool :=
  if radix ≤ Text.greatestRadix then
    .ok ((v.character? token).any (Text.isDigitOf radix))
  else .error .radix

/-- Asks a question about a token. -/
def TokenTest.ask (v : View) : TokenTest → Test v
  | always, _ => .ok true
  | never, _ => .ok false
  | not test, token =>
    match ask v test token with
    | .ok answer => .ok !answer
    | .error fault => .error fault
  | or first second, token =>
    match ask v first token with
    | .ok false => ask v second token
    | answer => answer
  | and first second, token =>
    match ask v first token with
    | .ok true => ask v second token
    | answer => answer
  | oneOf items, token => .ok (items.contains (v.ofToken token))
  | range least greatest, token =>
    .ok ((v.character? token).any fun c => least ≤ c.toNat && c.toNat ≤ greatest)
  | byteLength count, token => .ok (v.size (v.tokenText token) == count)
  | space, token => .ok (v.isSpace token)
  | inlineSpace, token => .ok (v.isInlineSpace token)
  | identStart, token => .ok (v.isIdentStart token)
  | identContinue, token => .ok (v.isIdentContinue token)
  | digit radix, token => v.isDigit radix token

end TwoWay
