import TwoWay.Leaf.Run

/-!
# What leaves read

A literal or a line end is read back in front of anything. A run is the longest front of tokens that
pass a test, so what was written as a run is read back in front of a token that does not pass.

* `readLiteral_append`, `readLineEnd_append`: a literal and a short line end are read back.
* `takeRun_accepts`: the tokens of a run pass.
* `takeRun_stopsAt`: a run without a limit stops at a token that does not pass.
* `takeRun_append`: a run is read up to the first token that does not pass.
* `takeRun_of_length`: a run as long as the limit is read whatever follows.
-/

namespace TwoWay

variable {v : View} {test : Test v} {limit : Option Nat} {tokens : List v.Token}
  {text rest : v.Text}

theorem View.next?_tokenText (hv : v.hasCharacters = true) (token : v.Token) (text : v.Text) :
    v.next? (v.tokenText token ++ text) = some (token, text) := by
  cases v with
  | graphemes => cases hv
  | chars | bytes | sharedBytes => rfl

theorem View.next?_textOf_cons (hv : v.hasCharacters = true) (token : v.Token)
    (tokens : List v.Token) (rest : v.Text) :
    v.next? (v.textOf (token :: tokens) ++ rest) = some (token, v.textOf tokens ++ rest) := by
  rw [View.textOf, List.flatMap_cons, List.append_assoc]
  exact v.next?_tokenText hv token _

theorem isBoundary_of_hasCharacters (hv : v.hasCharacters = true) (front back : v.Text) :
    v.isBoundary front back = true := by
  cases v with
  | graphemes => cases hv
  | chars | bytes | sharedBytes => rfl

/-- Where tokens are characters, a literal is read in front of anything. -/
theorem readLiteral_append (hv : v.hasCharacters = true) (literal rest : v.Text) :
    readLiteral literal (literal ++ rest) = .done () rest :=
  readLiteral_eq_done_iff.2 ⟨rfl, isBoundary_of_hasCharacters hv literal rest⟩

/-- No short line end starts a long one. -/
theorem readLineEnd_append (hv : v.hasCharacters = true) (rest : v.Text) :
    readLineEnd v (v.shortLineEnd ++ rest) = .done () rest := by
  cases v with
  | graphemes => cases hv
  | chars | bytes | sharedBytes => rfl

/-- The test refuses the token at the front of a text, if there is one. -/
def Test.StopsAt (test : Test v) (text : v.Text) : Prop :=
  ∀ token rest, v.next? text = some (token, rest) → test token = .ok false

theorem Test.stopsAt_of_next? {token : v.Token}
    (h : v.next? text = some (token, rest)) (hTest : test token = .ok false) :
    test.StopsAt text := by
  intro found after hNext
  rw [h] at hNext
  cases hNext
  exact hTest

theorem Test.stopsAt_nil (test : Test v) : test.StopsAt [] := by
  intro token rest hNext
  obtain ⟨hText, hSome⟩ := v.next?_eq_some hNext
  exact absurd (List.append_eq_nil_iff.1 hText.symm).1 hSome

/-- The tokens of a run pass the test. -/
theorem takeRun_accepts (h : takeRun test limit text = .done tokens rest) :
    ∀ token ∈ tokens, test token = .ok true := by
  fun_induction takeRun test limit text generalizing tokens with
  | case1 text => cases h; simp
  | case2 limit text hLimit hNext => cases h; simp
  | case3 limit text hLimit token after hNext fault hTest => cases h
  | case4 limit text hLimit token after hNext hTest => cases h; simp
  | case5 limit text hLimit token after hNext hTest hLess ih =>
    obtain ⟨more, hMore, rfl⟩ := Outcome.map_eq_done_iff.1 h
    exact List.forall_mem_cons.2 ⟨hTest, ih hMore⟩

/-- A run without a limit goes on to a token that is refused. -/
theorem takeRun_stopsAt (h : takeRun test limit text = .done tokens rest) (hLimit : limit = none) :
    test.StopsAt rest := by
  fun_induction takeRun test limit text generalizing tokens with
  | case1 text => cases hLimit
  | case2 limit text _ hNext =>
    cases h
    intro token after hSome
    rw [hNext] at hSome
    cases hSome
  | case3 limit text _ token after hNext fault hTest => cases h
  | case4 limit text _ token after hNext hTest =>
    cases h
    exact Test.stopsAt_of_next? hNext hTest
  | case5 limit text _ token after hNext hTest hLess ih =>
    obtain ⟨more, hMore, -⟩ := Outcome.map_eq_done_iff.1 h
    exact ih hMore (by rw [hLimit]; rfl)

/-- A run is empty where no token passes the test. -/
theorem takeRun_of_stop (hStop : test.StopsAt text) :
    takeRun test limit text = .done [] text := by
  cases hNext : v.next? text with
  | none => exact takeRun_of_none hNext
  | some found => exact takeRun_of_refused hNext (hStop found.1 found.2 hNext)

/-- A run is read up to the first token that does not pass the test. -/
theorem takeRun_append (hv : v.hasCharacters = true)
    (hRun : ∀ token ∈ tokens, test token = .ok true) (hStop : test.StopsAt rest) :
    takeRun test none (v.textOf tokens ++ rest) = .done tokens rest := by
  induction tokens with
  | nil => exact takeRun_of_stop hStop
  | cons token tokens ih =>
    have hNext := View.next?_textOf_cons hv token tokens rest
    rw [takeRun_of_accepted (by simp) hNext (hRun token List.mem_cons_self), Option.map_none,
      ih fun other hMem => hRun other (List.mem_cons_of_mem token hMem)]
    rfl

/-- A run as long as the limit is read in front of anything: the token after it is not asked. -/
theorem takeRun_of_length (hv : v.hasCharacters = true)
    (hRun : ∀ token ∈ tokens, test token = .ok true) (rest : v.Text) :
    takeRun test (some tokens.length) (v.textOf tokens ++ rest) = .done tokens rest := by
  induction tokens with
  | nil => exact takeRun_zero test rest
  | cons token tokens ih =>
    have hNext := View.next?_textOf_cons hv token tokens rest
    rw [takeRun_of_accepted (by simp) hNext (hRun token List.mem_cons_self), Option.map_some,
      List.length_cons, Nat.pred_succ,
      ih fun other hMem => hRun other (List.mem_cons_of_mem token hMem)]
    rfl

end TwoWay
