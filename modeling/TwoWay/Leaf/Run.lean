import TwoWay.Bounds
import TwoWay.Leaf.Literal

/-!
# Runs of tokens

The leaves that read as many tokens as pass a test. A run is written only if reading it alone would
give it back: all its tokens pass, and their number meets the bounds.

* `takeRun_eq_done`: what was read and what is left make up the text.
* `readRun_eq_done_iff`: a run is read when it has enough tokens.
-/

namespace TwoWay

variable {v : View}

/-- A question about a token. Asking may end the run. -/
abbrev Test (v : View) := v.Token → Except Fault Bool

/-- The test that asks a property which is always answered. -/
def Test.ofPred (accepts : v.Token → Bool) : Test v := fun token => .ok (accepts token)

/-- The text of a list of tokens. -/
def View.textOf (v : View) (tokens : List v.Token) : v.Text := tokens.flatMap v.tokenText

/-- Reads the longest run of tokens that pass a test, at most as many as the limit says. Only the
tokens of the run and the one after it are asked. -/
def takeRun (test : Test v) (limit : Option Nat) (text : v.Text) : Outcome v.Text (List v.Token) :=
  if limit = some 0 then .done [] text
  else
    match h : v.next? text with
    | none => .done [] text
    | some (token, rest) =>
      match test token with
      | .error fault => .aborted fault
      | .ok false => .done [] text
      | .ok true =>
        have := v.length_lt_of_next? h
        (takeRun test (limit.map Nat.pred) rest).map (token :: ·)
termination_by text.length

/-- Reads a run whose length meets the bounds. -/
def readRun (test : Test v) (bounds : Bounds) : Step v.Text v.Text := fun text =>
  match takeRun test bounds.most text with
  | .done tokens rest =>
    if bounds.least ≤ tokens.length then .done (v.textOf tokens) rest else .failed .parse text
  | .failed _ _ => .failed .parse text
  | .aborted fault => .aborted fault

/-- Writes a run whose length meets the bounds. -/
def writeRun (test : Test v) (bounds : Bounds) (run : v.Text) : Step v.Text Unit := fun buffer =>
  match takeRun test none run with
  | .done tokens rest =>
    if rest.isEmpty && bounds.allows tokens.length then append run buffer
    else .failed .print buffer
  | .failed _ _ => .failed .print buffer
  | .aborted fault => .aborted fault

theorem readRun_eq_done_iff {test : Test v} {bounds : Bounds} {text run rest : v.Text} :
    readRun test bounds text = .done run rest ↔
      ∃ tokens, takeRun test bounds.most text = .done tokens rest ∧
        bounds.least ≤ tokens.length ∧ v.textOf tokens = run := by
  unfold readRun
  cases hTake : takeRun test bounds.most text with
  | done tokens after =>
    simp only [Outcome.done.injEq]
    split
    · rename_i hEnough
      constructor
      · intro h
        cases h
        exact ⟨tokens, ⟨rfl, rfl⟩, hEnough, rfl⟩
      · rintro ⟨_, ⟨rfl, rfl⟩, -, rfl⟩
        rfl
    · rename_i hFew
      refine ⟨nofun, ?_⟩
      rintro ⟨_, ⟨rfl, rfl⟩, hEnough, -⟩
      exact absurd hEnough hFew
  | failed failure left => simp
  | aborted fault => simp

theorem takeRun_zero (test : Test v) (text : v.Text) :
    takeRun test (some 0) text = .done [] text := by
  rw [takeRun, if_pos rfl]

theorem takeRun_of_none {test : Test v} {limit : Option Nat} {text : v.Text}
    (h : v.next? text = none) : takeRun test limit text = .done [] text := by
  rw [takeRun]
  split
  · rfl
  · split
    · rfl
    · rename_i hNext
      rw [h] at hNext
      cases hNext

theorem takeRun_of_refused {test : Test v} {limit : Option Nat} {text rest : v.Text}
    {token : v.Token} (h : v.next? text = some (token, rest)) (hTest : test token = .ok false) :
    takeRun test limit text = .done [] text := by
  rw [takeRun]
  split
  · rfl
  · split
    · rfl
    · rename_i hNext
      rw [h] at hNext
      cases hNext
      simp only [hTest]

theorem takeRun_of_accepted {test : Test v} {limit : Option Nat} {text rest : v.Text}
    {token : v.Token} (hLimit : limit ≠ some 0) (h : v.next? text = some (token, rest))
    (hTest : test token = .ok true) :
    takeRun test limit text = (takeRun test (limit.map Nat.pred) rest).map (token :: ·) := by
  rw [takeRun, if_neg hLimit]
  split
  · rename_i hNext
    rw [h] at hNext
    cases hNext
  · rename_i hNext
    rw [h] at hNext
    cases hNext
    simp only [hTest]

theorem takeRun_of_error {test : Test v} {limit : Option Nat} {text rest : v.Text}
    {token : v.Token} {fault : Fault} (hLimit : limit ≠ some 0)
    (h : v.next? text = some (token, rest)) (hTest : test token = .error fault) :
    takeRun test limit text = .aborted fault := by
  rw [takeRun, if_neg hLimit]
  split
  · rename_i hNext
    rw [h] at hNext
    cases hNext
  · rename_i hNext
    rw [h] at hNext
    cases hNext
    simp only [hTest]

theorem takeRun_eq_done {test : Test v} {limit : Option Nat} {text rest : v.Text}
    {tokens : List v.Token} (h : takeRun test limit text = .done tokens rest) :
    text = v.textOf tokens ++ rest := by
  induction hLength : text.length using Nat.strongRecOn generalizing text tokens limit with
  | ind n ih =>
    rw [takeRun] at h
    split at h
    · cases h
      rfl
    · split at h
      · cases h
        rfl
      · rename_i token after hNext
        split at h
        · cases h
        · cases h
          rfl
        · obtain ⟨hText, _⟩ := v.next?_eq_some hNext
          have hLt := v.length_lt_of_next? hNext
          cases hMore : takeRun test (limit.map Nat.pred) after with
          | done more left =>
            rw [hMore] at h
            cases h
            have hAfter := ih after.length (by omega) hMore rfl
            rw [hText, hAfter]
            simp [View.textOf]
          | failed failure left =>
            rw [hMore] at h
            cases h
          | aborted fault =>
            rw [hMore] at h
            cases h

end TwoWay
