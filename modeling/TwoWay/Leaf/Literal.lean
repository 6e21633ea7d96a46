import TwoWay.Outcome
import TwoWay.View

/-!
# Literals, single tokens and line ends

The leaves that read and write a fixed text, and the one that reads any token. A literal is read
when the text starts with it and a token may end after it, so that on clusters a letter does not
match the start of an accented one. A failed reading leaves the text as it was.

* `readToken_eq_done_iff`, `readEnd_eq_done_iff`, `readLiteral_eq_done_iff`: where a leaf is read,
  and what is left.
-/

namespace TwoWay

variable {v : View}

/-- Goes back to the start of a reading. -/
def View.restart (v : View) (start _now : v.Text) : v.Text := start

/-- Takes back what was written since a buffer had some size. -/
def View.retract (v : View) (start now : v.Text) : v.Text := v.truncate (v.size start) now

theorem View.retract_append (v : View) (start text : v.Text) :
    v.retract start (start ++ text) = start := v.truncate_append start text

/-- Appends a text to a buffer. -/
def append (text : v.Text) : Step v.Text Unit := fun buffer => .done () (buffer ++ text)

/-! ## Any token -/

/-- Reads one token. -/
def readToken (v : View) : Step v.Text v.Token := fun text =>
  match v.next? text with
  | some (token, rest) => .done token rest
  | none => .failed .parse text

theorem readToken_eq_done_iff {text rest : v.Text} {token : v.Token} :
    readToken v text = .done token rest ↔ v.next? text = some (token, rest) := by
  unfold readToken
  cases v.next? text <;> simp [Prod.ext_iff]

/-- Writes one token. -/
def writeToken (token : v.Token) : Step v.Text Unit := append (v.tokenText token)

/-! ## The end -/

/-- Reads nothing, at the end of the text only. -/
def readEnd (v : View) : Step v.Text Unit := fun text =>
  if text.isEmpty then .done () text else .failed .parse text

theorem readEnd_eq_done_iff {text rest : v.Text} :
    readEnd v text = .done () rest ↔ text = [] ∧ rest = [] := by
  unfold readEnd
  cases text <;> simp [eq_comm]

/-! ## Literals -/

/-- Reads a fixed text. -/
def readLiteral (literal : v.Text) : Step v.Text Unit := fun text =>
  match Text.afterOpening? literal text with
  | some rest => if v.isBoundary literal rest then .done () rest else .failed .parse text
  | none => .failed .parse text

theorem readLiteral_eq_done_iff {literal text rest : v.Text} :
    readLiteral literal text = .done () rest ↔
      text = literal ++ rest ∧ v.isBoundary literal rest = true := by
  unfold readLiteral
  constructor
  · intro h
    split at h
    · rename_i found hFound
      split at h
      · rename_i hBoundary
        cases h
        exact ⟨Text.afterOpening?_eq_some_iff.1 hFound, hBoundary⟩
      · cases h
    · cases h
  · rintro ⟨hText, hBoundary⟩
    rw [Text.afterOpening?_eq_some_iff.2 hText]
    exact if_pos hBoundary

/-! ## Line ends -/

/-- The line end of two characters. -/
def View.longLineEnd (v : View) : v.Text := v.spell ['\r', '\n']

/-- The line end of one character. -/
def View.shortLineEnd (v : View) : v.Text := v.spell ['\n']

/-- Reads a line end of either kind. -/
def readLineEnd (v : View) : Step v.Text Unit :=
  Step.orElse (readLiteral v.longLineEnd) (readLiteral v.shortLineEnd)

/-- Writes a line end of one character. -/
def writeLineEnd (v : View) : Step v.Text Unit := append v.shortLineEnd

end TwoWay
