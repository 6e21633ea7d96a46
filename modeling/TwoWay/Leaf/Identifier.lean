import TwoWay.Leaf.Run

/-!
# Identifiers

One token that may start an identifier and the longest run of tokens that may continue it.

* `readIdentifier_eq_done`: the identifier and what is left make up the text.
-/

namespace TwoWay

variable {v : View}

/-- Reads an identifier. -/
def readIdentifier (v : View) : Step v.Text v.Text := fun text =>
  match v.next? text with
  | none => .failed .parse text
  | some (token, after) =>
    if v.isIdentStart token then
      (takeRun (Test.ofPred v.isIdentContinue) none after).map fun more =>
        v.textOf (token :: more)
    else .failed .parse text

/-- Writes an identifier, if it is one. -/
def writeIdentifier (name : v.Text) : Step v.Text Unit := fun buffer =>
  match readIdentifier v name with
  | .done _ rest => if rest.isEmpty then append name buffer else .failed .print buffer
  | .failed _ _ => .failed .print buffer
  | .aborted fault => .aborted fault

theorem readIdentifier_eq_done {text name rest : v.Text}
    (h : readIdentifier v text = .done name rest) : text = name ++ rest := by
  unfold readIdentifier at h
  split at h
  · cases h
  · rename_i token after hNext
    split at h
    · cases hMore : takeRun (Test.ofPred v.isIdentContinue) none after with
      | done more left =>
        rw [hMore] at h
        cases h
        rw [(v.next?_eq_some hNext).1, takeRun_eq_done hMore]
        simp [View.textOf]
      | failed failure left =>
        rw [hMore] at h
        cases h
      | aborted fault =>
        rw [hMore] at h
        cases h
    · cases h

end TwoWay
