import Mathlib.Data.List.TakeWhile
import TwoWay.Proofs.Cluster.Reading

/-!
# Slices

A run of tokens and an identifier are read as the part of the text that they take up. Which part
this is can be said of the list of all tokens of the text: it is a front of the list that depends on
nothing behind it but the one token that does not go on with it. Because a text that is cut between
two tokens has the tokens it had there before, reading and writing go by the same rule.

* `View.tokens`: the tokens of a text, on the clusters the parts between all its boundaries.
* `View.tokens_split`: a text that is cut between two tokens keeps its tokens.
* `FrontRule`: which front of a list of tokens is a slice; `FrontRule.run` and `FrontRule.name`.
* `Grammar.GoesBy`: a grammar of slices reads and writes by the rule.
* `Grammar.GoesBy.sliceLaws`: such a grammar reads back what it writes and writes what it read.
* `Grammar.slices_exact`: runs on every view, and identifiers, are such grammars.
-/

namespace TwoWay

/-! ## The tokens of a text -/

namespace View

/-- The tokens of a text. On the clusters they are the parts of the text between its boundaries, all
of them with the whole text in sight. -/
def tokens : (v : View) → v.Text → List v.Token
  | .chars, text => text
  | .bytes, text | .sharedBytes, text => text
  | .graphemes, text => Cluster.segments text

variable {v : View} {text rest front back : v.Text} {token : v.Token}

theorem tokens_nil (v : View) : v.tokens [] = [] := by cases v <;> rfl

theorem eq_nil_of_next?_eq_none (h : v.next? text = none) : text = [] := by
  cases v with
  | graphemes => exact Cluster.next?_eq_none_iff.1 h
  | chars | bytes | sharedBytes =>
    cases text with
    | nil => rfl
    | cons a text => cases h

theorem tokens_of_next? (h : v.next? text = some (token, rest)) :
    v.tokens text = token :: v.tokens rest := by
  cases v with
  | graphemes =>
    change Cluster.segments text = token :: Cluster.segments rest
    rw [Cluster.segments_eq_clusters, Cluster.segments_eq_clusters, Cluster.clusters_of_next? h]
  | chars | bytes | sharedBytes =>
    cases text with
    | nil => cases h
    | cons a text =>
      cases h
      rfl

theorem tokens_append (h : v.isBoundary front back = true) :
    v.tokens (front ++ back) = v.tokens front ++ v.tokens back := by
  cases v with
  | graphemes =>
    change Cluster.segments (front ++ back) = Cluster.segments front ++ Cluster.segments back
    rw [Cluster.segments_eq_clusters, Cluster.segments_eq_clusters, Cluster.segments_eq_clusters,
      Cluster.clusters_append h]
  | chars | bytes | sharedBytes => rfl

/-- The first token of a text is that of any part of it up to a boundary. -/
theorem next?_of_next?_append (h : v.isBoundary front back = true) (hFront : front ≠ [])
    (hNext : v.next? (front ++ back) = some (token, rest ++ back)) :
    v.next? front = some (token, rest) := by
  cases v with
  | graphemes =>
    cases hFound : Cluster.next? front with
    | none => exact absurd (Cluster.next?_eq_none_iff.1 hFound) hFront
    | some found =>
      have hWhole := Cluster.next?_append h hFound
      rw [show Cluster.next? (front ++ back) = some (token, rest ++ back) from hNext] at hWhole
      obtain ⟨hToken, hRest⟩ := Prod.mk.inj (Option.some.inj hWhole)
      exact hFound.trans (by rw [hToken, List.append_cancel_right hRest])
  | chars | bytes | sharedBytes =>
    cases front with
    | nil => exact absurd rfl hFront
    | cons a front =>
      cases List.append_cancel_right (congrArg Prod.snd (Option.some.inj hNext))
      cases congrArg Prod.fst (Option.some.inj hNext)
      rfl

theorem textOf_cons (token : v.Token) (tokens : List v.Token) :
    v.textOf (token :: tokens) = v.tokenText token ++ v.textOf tokens := rfl

theorem textOf_append (s t : List v.Token) : v.textOf (s ++ t) = v.textOf s ++ v.textOf t :=
  List.flatMap_append

theorem textOf_tokens (v : View) (text : v.Text) : v.textOf (v.tokens text) = text := by
  induction hLength : text.length using Nat.strongRecOn generalizing text with
  | ind n ih =>
    cases hNext : v.next? text with
    | none =>
      rw [eq_nil_of_next?_eq_none hNext, tokens_nil]
      rfl
    | some found =>
      obtain ⟨token, rest⟩ := found
      have hLt := v.length_lt_of_next? hNext
      rw [tokens_of_next? hNext, textOf_cons, ih rest.length (by omega) rest rfl]
      exact (v.next?_eq_some hNext).1.symm

/-- **A text that is cut between two tokens keeps its tokens.** -/
theorem tokens_split {front back : List v.Token} (h : v.tokens text = front ++ back) :
    v.isBoundary (v.textOf front) (v.textOf back) = true ∧
      v.tokens (v.textOf front) = front ∧ v.tokens (v.textOf back) = back := by
  induction front generalizing text with
  | nil =>
    have hText : v.textOf back = text := by rw [← v.textOf_tokens text, h, List.nil_append]
    exact ⟨v.isBoundary_nil _, v.tokens_nil, by rw [hText, h, List.nil_append]⟩
  | cons token front ih =>
    cases hNext : v.next? text with
    | none =>
      rw [eq_nil_of_next?_eq_none hNext, tokens_nil] at h
      cases h
    | some found =>
      obtain ⟨first, rest⟩ := found
      rw [tokens_of_next? hNext] at h
      obtain ⟨rfl, hRest⟩ : first = token ∧ v.tokens rest = front ++ back := List.cons.inj h
      obtain ⟨hBoundary, hFront, hBack⟩ := ih hRest
      have hText : rest = v.textOf front ++ v.textOf back := by
        rw [← v.textOf_tokens rest, hRest, textOf_append]
      obtain ⟨hWhole, hNonempty⟩ := v.next?_eq_some hNext
      have hAfter := v.isBoundary_of_next? hNext
      rw [hText] at hAfter hNext hWhole
      rw [hWhole, ← List.append_assoc] at hNext
      have hCut : v.isBoundary (v.tokenText first ++ v.textOf front) (v.textOf back) = true := by
        rw [v.isBoundary_append hAfter, hBoundary]
      have hFirst : v.next? (v.tokenText first ++ v.textOf front) = some (first, v.textOf front) :=
        next?_of_next?_append hCut (List.append_ne_nil_of_left_ne_nil hNonempty _) hNext
      exact ⟨hCut, by rw [textOf_cons, tokens_of_next? hFirst, hFront], hBack⟩

/-- Nothing is left behind a front of the tokens exactly when it is all of them. -/
theorem textOf_drop_eq_nil_iff {front : List v.Token} (h : front <+: v.tokens text) :
    v.textOf ((v.tokens text).drop front.length) = [] ↔ front = v.tokens text := by
  obtain ⟨back, hBack⟩ := h
  obtain ⟨-, -, hTokens⟩ := tokens_split hBack.symm
  rw [← hBack, List.drop_left]
  constructor
  · intro hNil
    rw [hNil, tokens_nil] at hTokens
    rw [← hTokens, List.append_nil]
  · intro hFront
    rw [List.self_eq_append_right.1 hFront]
    rfl

theorem exists_next?_of_tokens_eq_cons {more : List v.Token} (h : v.tokens text = token :: more) :
    ∃ rest, v.next? text = some (token, rest) ∧ v.tokens rest = more := by
  cases hNext : v.next? text with
  | none =>
    rw [eq_nil_of_next?_eq_none hNext, tokens_nil] at h
    cases h
  | some found =>
    obtain ⟨first, rest⟩ := found
    rw [tokens_of_next? hNext] at h
    obtain ⟨rfl, rfl⟩ := List.cons.inj h
    exact ⟨rest, rfl, rfl⟩

end View

/-! ## Runs and names at the front of a list -/

namespace FrontRule

variable {A : Type} {accepts starts continues : A → Bool} {limit : Option Nat} {bounds : Bounds}
  {tokens front more : List A}

/-- The first of a list, at most as many as the limit says. -/
def upTo (limit : Option Nat) (tokens : List A) : List A :=
  match limit with
  | none => tokens
  | some most => tokens.take most

/-- The longest run of accepted tokens at the front, at most as many as the limit says. -/
def runAt (accepts : A → Bool) (limit : Option Nat) (tokens : List A) : List A :=
  upTo limit (tokens.takeWhile accepts)

/-- The longest run, cut where the bounds end, if it has enough tokens. -/
def runAt? (accepts : A → Bool) (bounds : Bounds) (tokens : List A) : Option (List A) :=
  let front := runAt accepts bounds.most tokens
  if bounds.least ≤ front.length then some front else none

/-- A token that starts a name, and the longest run of tokens that go on with it. -/
def nameAt? (starts continues : A → Bool) : List A → Option (List A)
  | [] => none
  | first :: more => if starts first then some (first :: runAt continues none more) else none

theorem runAt?_eq_some_iff :
    runAt? accepts bounds tokens = some front ↔
      runAt accepts bounds.most tokens = front ∧ bounds.least ≤ front.length := by
  simp only [runAt?, Option.ite_none_right_eq_some, Option.some.injEq]
  constructor
  · rintro ⟨hLeast, rfl⟩
    exact ⟨rfl, hLeast⟩
  · rintro ⟨rfl, hLeast⟩
    exact ⟨hLeast, rfl⟩

theorem nameAt?_eq_some_iff :
    nameAt? starts continues tokens = some front ↔
      ∃ first more, tokens = first :: more ∧ starts first = true ∧
        first :: runAt continues none more = front := by
  cases tokens with
  | nil => exact ⟨nofun, nofun⟩
  | cons first more =>
    rw [nameAt?, Option.ite_none_right_eq_some, Option.some.injEq]
    constructor
    · rintro ⟨hStarts, hFront⟩
      exact ⟨first, more, rfl, hStarts, hFront⟩
    · rintro ⟨_, _, hTokens, hStarts, hFront⟩
      cases hTokens
      exact ⟨hStarts, hFront⟩

/-! ### Cutting and going on -/

theorem upTo_front (limit : Option Nat) (tokens : List A) : upTo limit tokens <+: tokens := by
  cases limit with
  | none => exact List.prefix_rfl
  | some most => exact List.take_prefix most tokens

theorem upTo_upTo (limit : Option Nat) (tokens : List A) :
    upTo limit (upTo limit tokens) = upTo limit tokens := by
  cases limit with
  | none => rfl
  | some most =>
    rw [upTo, upTo, List.take_take, Nat.min_self]

theorem runAt_front (tokens : List A) : runAt accepts limit tokens <+: tokens :=
  (upTo_front limit _).trans (List.takeWhile_prefix accepts)

theorem forall_mem_runAt : ∀ a ∈ runAt accepts limit tokens, accepts a = true :=
  fun _ h => List.mem_takeWhile_imp ((upTo_front limit _).subset h)

/-- Where all tokens are accepted, only the limit ends a run. -/
theorem runAt_of_forall (h : ∀ a ∈ tokens, accepts a = true) :
    runAt accepts limit tokens = upTo limit tokens := by
  rw [runAt, List.takeWhile_eq_self_iff.2 h]

/-- A run that is cut out is the run of what was cut out. -/
theorem runAt_runAt (tokens : List A) :
    runAt accepts limit (runAt accepts limit tokens) = runAt accepts limit tokens := by
  rw [runAt_of_forall forall_mem_runAt]
  exact upTo_upTo limit _

/-- A run ends before a token that is not accepted, and where it has as many tokens as it may. -/
theorem runAt_append (h : runAt accepts limit front = front)
    (hEnd : (∀ a ∈ more.head?, accepts a = false) ∨ limit = some front.length) :
    runAt accepts limit (front ++ more) = front := by
  have hAll : ∀ a ∈ front, accepts a = true := h ▸ forall_mem_runAt
  have hWhile : (front ++ more).takeWhile accepts = front ++ more.takeWhile accepts :=
    List.takeWhile_append_of_pos hAll
  rcases hEnd with hStop | hFull
  · have hNone : more.takeWhile accepts = [] := by
      cases more with
      | nil => rfl
      | cons a more =>
        rw [List.takeWhile_cons, hStop a rfl]
        rfl
    rw [runAt, hWhile, hNone, List.append_nil, ← runAt_of_forall hAll, h]
  · rw [runAt, hWhile, hFull]
    exact List.take_left

theorem runAt_zero (tokens : List A) : runAt accepts (some 0) tokens = [] := rfl

theorem runAt_nil : runAt accepts limit [] = [] := List.prefix_nil.1 (runAt_front [])

theorem runAt_cons_of_refused {a : A} (h : accepts a = false) :
    runAt accepts limit (a :: tokens) = [] := by
  rw [runAt, List.takeWhile_cons_of_neg (Bool.eq_false_iff.1 h)]
  exact List.prefix_nil.1 (upTo_front limit [])

theorem runAt_cons_of_accepted {a : A} (hLimit : limit ≠ some 0) (h : accepts a = true) :
    runAt accepts limit (a :: tokens) = a :: runAt accepts (limit.map Nat.pred) tokens := by
  rw [runAt, runAt, List.takeWhile_cons_of_pos h]
  cases limit with
  | none => rfl
  | some most =>
    cases most with
    | zero => exact absurd rfl hLimit
    | succ most => rfl

/-- A list is a run of its own when all its tokens are accepted and the bounds allow as many. -/
theorem runAt?_self_iff :
    runAt? accepts bounds front = some front ↔
      (∀ a ∈ front, accepts a = true) ∧ bounds.allows front.length = true := by
  rw [runAt?_eq_some_iff, Bounds.allows_iff, Bounds.isWithin_iff]
  constructor
  · rintro ⟨hRun, hLeast⟩
    have hAll : ∀ a ∈ front, accepts a = true := hRun ▸ forall_mem_runAt
    rw [runAt_of_forall hAll] at hRun
    refine ⟨hAll, hLeast, fun most hMost => ?_⟩
    rw [hMost] at hRun
    have hLength := congrArg List.length hRun
    rw [upTo, List.length_take] at hLength
    omega
  · rintro ⟨hAll, hLeast, hMost⟩
    refine ⟨?_, hLeast⟩
    rw [runAt_of_forall hAll]
    cases hLimit : bounds.most with
    | none => rfl
    | some most => exact List.take_of_length_le (hMost most hLimit)

end FrontRule

/-- Which front of a list of tokens is a slice, if one is. A slice is a slice of its own, and stays
one with anything behind it that does not go on with it, or if it is as long as it may be. -/
structure FrontRule (A : Type) where
  front? : List A → Option (List A)
  goesOn : A → Bool
  limit : Option Nat
  of_front {tokens front : List A} : front? tokens = some front → front <+: tokens
  again {tokens front : List A} : front? tokens = some front → front? front = some front
  behind {front more : List A} : front? front = some front →
    (∀ a ∈ more.head?, goesOn a = false) ∨ limit = some front.length →
      front? (front ++ more) = some front

namespace FrontRule

variable {A : Type}

/-- The rule of runs. -/
def run (accepts : A → Bool) (bounds : Bounds) : FrontRule A where
  front? := runAt? accepts bounds
  goesOn := accepts
  limit := bounds.most
  of_front := by
    intro tokens front h
    obtain ⟨rfl, -⟩ := runAt?_eq_some_iff.1 h
    exact runAt_front tokens
  again := by
    intro tokens front h
    obtain ⟨rfl, hLeast⟩ := runAt?_eq_some_iff.1 h
    exact runAt?_eq_some_iff.2 ⟨runAt_runAt tokens, hLeast⟩
  behind := by
    intro front more h hEnd
    obtain ⟨hRun, hLeast⟩ := runAt?_eq_some_iff.1 h
    exact runAt?_eq_some_iff.2 ⟨runAt_append hRun hEnd, hLeast⟩

/-- The rule of names. -/
def name (starts continues : A → Bool) : FrontRule A where
  front? := nameAt? starts continues
  goesOn := continues
  limit := none
  of_front := by
    intro tokens front h
    obtain ⟨first, more, rfl, -, rfl⟩ := nameAt?_eq_some_iff.1 h
    exact List.cons_prefix_cons.2 ⟨rfl, runAt_front more⟩
  again := by
    intro tokens front h
    obtain ⟨first, more, rfl, hStarts, rfl⟩ := nameAt?_eq_some_iff.1 h
    exact nameAt?_eq_some_iff.2 ⟨first, _, rfl, hStarts, by rw [runAt_runAt]⟩
  behind := by
    intro front more h hEnd
    obtain ⟨first, after, rfl, hStarts, hFront⟩ := nameAt?_eq_some_iff.1 h
    have hRun : runAt continues none after = after := (List.cons.inj hFront).2
    have hStop : (∀ a ∈ more.head?, continues a = false) ∨ none = some after.length :=
      hEnd.imp_right nofun
    refine nameAt?_eq_some_iff.2 ⟨first, after ++ more, rfl, hStarts, ?_⟩
    rw [runAt_append hRun hStop]

end FrontRule

/-! ## Runs of tokens -/

open FrontRule (runAt runAt? nameAt? runAt?_eq_some_iff runAt?_self_iff nameAt?_eq_some_iff)

section Runs

variable {v : View} {accepts : v.Token → Bool}

/-- What is read as a run is the run at the front of the tokens. -/
theorem takeRun_ofPred (accepts : v.Token → Bool) (limit : Option Nat) (text : v.Text) :
    takeRun (Test.ofPred accepts) limit text =
      .done (runAt accepts limit (v.tokens text))
        (v.textOf ((v.tokens text).drop (runAt accepts limit (v.tokens text)).length)) := by
  fun_induction takeRun (Test.ofPred accepts) limit text with
  | case1 text => rw [FrontRule.runAt_zero, List.length_nil, List.drop_zero, v.textOf_tokens]
  | case2 limit text hLimit hNext =>
    rw [View.eq_nil_of_next?_eq_none hNext, v.tokens_nil, FrontRule.runAt_nil]
    rfl
  | case3 limit text hLimit token rest hNext fault hTest => cases hTest
  | case4 limit text hLimit token rest hNext hTest =>
    have hRun : runAt accepts limit (v.tokens text) = [] := by
      rw [View.tokens_of_next? hNext, FrontRule.runAt_cons_of_refused (Except.ok.inj hTest)]
    rw [hRun, List.length_nil, List.drop_zero, v.textOf_tokens]
  | case5 limit text hLimit token rest hNext hTest hLess ih =>
    rw [ih, View.tokens_of_next? hNext,
      FrontRule.runAt_cons_of_accepted hLimit (Except.ok.inj hTest)]
    rfl

end Runs

/-! ## Grammars that go by a rule -/

namespace Grammar

variable {v : View} {rule : FrontRule v.Token} {grammar : Grammar v v.Text}

/-- The grammar reads the front of the tokens that the rule says, and writes a text if the rule says
that all of it is a slice. -/
structure GoesBy (grammar : Grammar v v.Text) (rule : FrontRule v.Token) : Prop where
  parse_done : ∀ text front, rule.front? (v.tokens text) = some front →
    grammar.parse text = .done (v.textOf front) (v.textOf ((v.tokens text).drop front.length))
  parse_failed : ∀ text, rule.front? (v.tokens text) = none →
    grammar.parse text = .failed .parse text
  print_done : ∀ slice, rule.front? (v.tokens slice) = some (v.tokens slice) →
    ∀ buffer, grammar.print slice buffer = .done () (buffer ++ slice)
  print_failed : ∀ slice, rule.front? (v.tokens slice) ≠ some (v.tokens slice) →
    ∀ buffer, grammar.print slice buffer = .failed .print buffer

/-- Reading and writing of slices agree: what is read is written as it stood there, what is written
is the slice, and it is read back alone, and in front of what does not go on with it. -/
structure SliceLaws (grammar : Grammar v v.Text) (rule : FrontRule v.Token) : Prop where
  print_parsed : ∀ text slice rest, grammar.parse text = .done slice rest →
    text = slice ++ rest ∧ ∀ buffer, grammar.print slice buffer = .done () (buffer ++ slice)
  parseAll_printed : ∀ slice buffer written, grammar.print slice buffer = .done () written →
    written = buffer ++ slice ∧ grammar.parseAll slice = .done slice []
  parse_printed : v.hasCharacters = true → ∀ slice buffer written rest,
    grammar.print slice buffer = .done () written →
      (∀ token after, v.next? rest = some (token, after) → rule.goesOn token = false) ∨
          rule.limit = some (v.tokens slice).length →
        grammar.parse (slice ++ rest) = .done slice rest

namespace GoesBy

theorem front_of_print (h : grammar.GoesBy rule) {slice buffer written : v.Text}
    (hPrint : grammar.print slice buffer = .done () written) :
    rule.front? (v.tokens slice) = some (v.tokens slice) ∧ written = buffer ++ slice := by
  by_cases hSlice : rule.front? (v.tokens slice) = some (v.tokens slice)
  · rw [h.print_done slice hSlice] at hPrint
    cases hPrint
    exact ⟨hSlice, rfl⟩
  · rw [h.print_failed slice hSlice] at hPrint
    cases hPrint

/-- A slice is read in front of anything that starts at a boundary and does not go on with it. -/
theorem parse_append (h : grammar.GoesBy rule) {slice rest : v.Text}
    (hSlice : rule.front? (v.tokens slice) = some (v.tokens slice))
    (hBoundary : v.isBoundary slice rest = true)
    (hEnd : (∀ token ∈ (v.tokens rest).head?, rule.goesOn token = false) ∨
      rule.limit = some (v.tokens slice).length) :
    grammar.parse (slice ++ rest) = .done slice rest := by
  have hFront : rule.front? (v.tokens (slice ++ rest)) = some (v.tokens slice) := by
    rw [View.tokens_append hBoundary]
    exact rule.behind hSlice hEnd
  rw [h.parse_done _ _ hFront, View.tokens_append hBoundary, List.drop_left, v.textOf_tokens,
    v.textOf_tokens]

theorem sliceLaws (h : grammar.GoesBy rule) : grammar.SliceLaws rule where
  print_parsed := by
    intro text slice rest hParse
    cases hFront : rule.front? (v.tokens text) with
    | none =>
      rw [h.parse_failed text hFront] at hParse
      cases hParse
    | some front =>
      rw [h.parse_done text front hFront] at hParse
      cases hParse
      obtain ⟨more, hMore⟩ := rule.of_front hFront
      obtain ⟨-, hTokens, -⟩ := View.tokens_split hMore.symm
      refine ⟨?_, h.print_done _ (by rw [hTokens, rule.again hFront])⟩
      rw [← hMore, List.drop_left, ← View.textOf_append, hMore, v.textOf_tokens]
  parseAll_printed := by
    intro slice buffer written hPrint
    obtain ⟨hSlice, rfl⟩ := h.front_of_print hPrint
    have hParse := h.parse_done slice _ hSlice
    rw [List.drop_length, v.textOf_tokens] at hParse
    refine ⟨rfl, ?_⟩
    rw [parseAll, hParse]
    rfl
  parse_printed := by
    intro hv slice buffer written rest hPrint hEnd
    obtain ⟨hSlice, -⟩ := h.front_of_print hPrint
    refine h.parse_append hSlice (isBoundary_of_hasCharacters hv slice rest) (hEnd.imp_left ?_)
    intro hStop token hToken
    obtain ⟨more, hTokens⟩ := List.head?_eq_some_iff.1 hToken
    obtain ⟨after, hNext, -⟩ := View.exists_next?_of_tokens_eq_cons hTokens
    exact hStop token after hNext

end GoesBy

end Grammar

/-! ## Runs and identifiers -/

section Leaves

variable {v : View} {accepts : v.Token → Bool} {bounds : Bounds} {text slice : v.Text}

/-- A run is written exactly when it is a run of its own. -/
theorem writeRun_condition_iff :
    ((v.textOf ((v.tokens slice).drop (runAt accepts none (v.tokens slice)).length)).isEmpty &&
        bounds.allows (runAt accepts none (v.tokens slice)).length) = true ↔
      runAt? accepts bounds (v.tokens slice) = some (v.tokens slice) := by
  rw [Bool.and_eq_true, List.isEmpty_iff, View.textOf_drop_eq_nil_iff (FrontRule.runAt_front _),
    runAt?_self_iff]
  constructor
  · rintro ⟨hRun, hCount⟩
    rw [hRun] at hCount
    exact ⟨hRun ▸ FrontRule.forall_mem_runAt, hCount⟩
  · rintro ⟨hAll, hCount⟩
    have hRun : runAt accepts none (v.tokens slice) = v.tokens slice :=
      FrontRule.runAt_of_forall hAll
    rw [hRun]
    exact ⟨rfl, hCount⟩

/-- A run goes by the rule of runs. -/
theorem Grammar.goesBy_run (accepts : v.Token → Bool) (bounds : Bounds) :
    GoesBy (.run (Test.ofPred accepts) bounds : Grammar v v.Text) (.run accepts bounds) where
  parse_done := by
    intro text front h
    obtain ⟨rfl, hLeast⟩ := runAt?_eq_some_iff.1 h
    change readRun _ _ _ = _
    simp only [readRun, takeRun_ofPred, hLeast, if_true]
  parse_failed := by
    intro text h
    have hFew : ¬ bounds.least ≤ (runAt accepts bounds.most (v.tokens text)).length :=
      fun hLeast => Option.some_ne_none _ ((runAt?_eq_some_iff.2 ⟨rfl, hLeast⟩).symm.trans h)
    change readRun _ _ _ = _
    simp only [readRun, takeRun_ofPred, hFew, if_false]
  print_done := by
    intro slice h buffer
    change writeRun _ _ _ _ = _
    simp only [writeRun, takeRun_ofPred]
    exact if_pos (writeRun_condition_iff.2 h)
  print_failed := by
    intro slice h buffer
    change writeRun _ _ _ _ = _
    simp only [writeRun, takeRun_ofPred]
    exact if_neg (mt writeRun_condition_iff.1 h)

/-- An identifier is the name at the front of the tokens. -/
theorem readIdentifier_of_front {front : List v.Token}
    (h : nameAt? v.isIdentStart v.isIdentContinue (v.tokens text) = some front) :
    readIdentifier v text =
      .done (v.textOf front) (v.textOf ((v.tokens text).drop front.length)) := by
  obtain ⟨first, more, hTokens, hStarts, rfl⟩ := nameAt?_eq_some_iff.1 h
  obtain ⟨rest, hNext, rfl⟩ := View.exists_next?_of_tokens_eq_cons hTokens
  simp only [readIdentifier, hNext, hStarts, if_true, takeRun_ofPred, Outcome.map, hTokens]
  rfl

theorem readIdentifier_of_none
    (h : nameAt? v.isIdentStart v.isIdentContinue (v.tokens text) = none) :
    readIdentifier v text = .failed .parse text := by
  cases hNext : v.next? text with
  | none => simp only [readIdentifier, hNext]
  | some found =>
    obtain ⟨first, rest⟩ := found
    have hStarts : ¬ v.isIdentStart first = true := by
      intro hStarts
      rw [View.tokens_of_next? hNext, nameAt?, if_pos hStarts] at h
      cases h
    simp only [readIdentifier, hNext, hStarts, if_false, Bool.false_eq_true]

/-- An identifier goes by the rule of names. -/
theorem Grammar.goesBy_identifier (hv : v.hasCharacters = true) :
    GoesBy (.identifier hv) (.name v.isIdentStart v.isIdentContinue) where
  parse_done := fun _ _ h => readIdentifier_of_front h
  parse_failed := fun _ h => readIdentifier_of_none h
  print_done := by
    intro slice h buffer
    change writeIdentifier slice buffer = _
    simp only [writeIdentifier, readIdentifier_of_front h, List.drop_length]
    rfl
  print_failed := by
    intro slice h buffer
    change writeIdentifier slice buffer = _
    cases hFront : nameAt? v.isIdentStart v.isIdentContinue (v.tokens slice) with
    | none => simp only [writeIdentifier, readIdentifier_of_none hFront]
    | some front =>
      have hPart := (FrontRule.name v.isIdentStart v.isIdentContinue).of_front hFront
      have hRest : ¬ (v.textOf ((v.tokens slice).drop front.length)).isEmpty = true := by
        rw [List.isEmpty_iff, View.textOf_drop_eq_nil_iff hPart]
        rintro rfl
        exact h hFront
      simp only [writeIdentifier, readIdentifier_of_front hFront]
      exact if_neg hRest

/-- **Slices are read and written exactly.** On every view a run is read as the longest run of
accepted tokens, cut where the bounds end, if it has enough of them, and otherwise nothing is read;
an identifier is a token that starts one with the longest run of tokens that go on with it. What was
read is written again as it stood. Only what is read back as a whole is written, as it is, and where
tokens are characters it is also read back in front of a token that does not go on with it, or of
anything if no more tokens are allowed. -/
theorem Grammar.slices_exact (v : View) :
    (∀ (accepts : v.Token → Bool) (bounds : Bounds),
      GoesBy (.run (Test.ofPred accepts) bounds : Grammar v v.Text) (.run accepts bounds) ∧
        SliceLaws (.run (Test.ofPred accepts) bounds : Grammar v v.Text) (.run accepts bounds)) ∧
    ∀ hv : v.hasCharacters = true,
      GoesBy (.identifier hv) (.name v.isIdentStart v.isIdentContinue) ∧
        SliceLaws (.identifier hv) (.name v.isIdentStart v.isIdentContinue) :=
  ⟨fun accepts bounds => ⟨goesBy_run accepts bounds, (goesBy_run accepts bounds).sliceLaws⟩,
    fun hv => ⟨goesBy_identifier hv, (goesBy_identifier hv).sliceLaws⟩⟩

/-- One cluster of a letter and an accent is read in front of the same letter, and written; a name
is read in front of a sign. -/
theorem Grammar.slices_exact_accent :
    let letter : Grammar .graphemes (List Char) :=
      .run (.ofPred fun cluster => cluster.head? == some 'e') (.exactly 1)
    letter.parse ['e', '\u0301', 'e'] = .done ['e', '\u0301'] ['e'] ∧
      letter.print ['e', '\u0301'] [] = .done () ['e', '\u0301'] ∧
      (Grammar.identifier rfl : Grammar .chars (List Char)).parse ['e', '1', '-'] =
        .done ['e', '1'] ['-'] := by
  intro letter
  obtain ⟨hLetter, hLaws⟩ := (Grammar.slices_exact .graphemes).1
    (fun cluster => cluster.head? == some 'e') (.exactly 1)
  obtain ⟨-, hName⟩ := (Grammar.slices_exact .chars).2 rfl
  have hParse : letter.parse ['e', '\u0301', 'e'] = .done ['e', '\u0301'] ['e'] :=
    hLetter.parse_done _ [['e', '\u0301']] (by decide +kernel)
  have hPrint : (Grammar.identifier rfl : Grammar .chars (List Char)).print ['e', '1'] [] =
      .done () ['e', '1'] := by decide +kernel
  refine ⟨hParse, (hLaws.print_parsed _ _ _ hParse).2 [], ?_⟩
  refine hName.parse_printed rfl ['e', '1'] [] _ ['-'] hPrint (Or.inl ?_)
  intro token after hNext
  cases hNext
  decide +kernel

end Leaves

end TwoWay
