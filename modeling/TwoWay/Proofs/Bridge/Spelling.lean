import Mathlib.Data.List.Forall2
import TwoWay.Proofs.Equivalence
import TwoWay.Proofs.Lockstep
import TwoWay.Proofs.Reading.Suffix
import TwoWay.Proofs.Writing.Repetition

/-!
# Grammars of texts, spelled in bytes

Bytes spell a text and then go on with a tail that no scalar stands at the front of. A grammar of
texts is spelled by a grammar of bytes if the two read in lockstep on such texts and bytes, and
write a text and the bytes that spell it.

* `View.Spells`: the bytes spell the text and go on with the tail.
* `Grammar.SpelledBy`: the grammar of texts is spelled by the grammar of bytes.
* `Grammar.SpelledBy.pair`, `Grammar.SpelledBy.many`, ...: every way to build a grammar keeps this.
* `Grammar.SpelledBy.across`: a grammar of texts is spelled by itself, taken across to bytes.
-/

namespace TwoWay

/-! ## The bytes of a text -/

namespace View

/-- The bytes of a text. -/
def toBytes : (v : View) → v.Text → List UInt8
  | .chars, text | .graphemes, text => Utf8.encode text
  | .bytes, text | .sharedBytes, text => text

/-- The bytes spell the text and then go on with the tail. -/
def Spells (v : View) (tail : List UInt8) (text : v.Text) (bytes : List UInt8) : Prop :=
  bytes = v.toBytes text ++ tail

theorem toBytes_nil (v : View) : v.toBytes [] = [] := by cases v <;> rfl

theorem toBytes_append (v : View) (s t : v.Text) :
    v.toBytes (s ++ t) = v.toBytes s ++ v.toBytes t := by
  cases v with
  | chars | graphemes => exact Utf8.encode_append s t
  | bytes | sharedBytes => rfl

theorem length_toBytes (v : View) (text : v.Text) : (v.toBytes text).length = v.size text := by
  refine (v.size_unique (fun text => (v.toBytes text).length) ?_ (fun a text => ?_) text).symm
  · rw [toBytes_nil]
    rfl
  · cases v with
    | chars | graphemes =>
      exact List.length_append.trans (by rw [String.length_utf8EncodeChar]; rfl)
    | bytes | sharedBytes => exact Nat.add_comm (List.length text) 1

variable {v : View} {text rest : v.Text} {bytes left tail : List UInt8}

/-- Less of the text is left exactly when fewer of the bytes are. -/
theorem Spells.size_lt_iff (h : v.Spells tail text bytes) (hRest : v.Spells tail rest left) :
    v.size rest < v.size text ↔ View.bytes.size left < View.bytes.size bytes := by
  have hBytes (bytes : List UInt8) : View.bytes.size bytes = bytes.length :=
    (View.bytes.length_toBytes bytes).symm
  rw [hBytes, hBytes, h, hRest, List.length_append, List.length_append, length_toBytes,
    length_toBytes, Nat.add_lt_add_iff_right]

theorem Spells.eq_toBytes (h : v.Spells [] text bytes) : bytes = v.toBytes text :=
  h.trans (List.append_nil _)

theorem Spells.isEmpty_eq (h : v.Spells [] text bytes) : text.isEmpty = bytes.isEmpty := by
  have hIff : text = [] ↔ bytes = [] := by
    rw [← v.size_eq_zero_iff, ← v.length_toBytes, ← h.eq_toBytes, List.length_eq_zero_iff]
  rw [Bool.eq_iff_iff, List.isEmpty_iff, List.isEmpty_iff, hIff]

theorem spells_nil (v : View) (text : v.Text) : v.Spells [] text (v.toBytes text) :=
  (List.append_nil _).symm

end View

/-! ## Reading across -/

section Reading

open Step (Advances Restores Lockstep)

variable {w : View} {α : Type} {tail : List UInt8}

/-- What is left of the bytes when some of their text is left. -/
theorem drop_encode_append {size : List Char → Nat}
    (hSize : ∀ text, size text = (Utf8.encode text).length) (front rest : List Char)
    (tail : List UInt8) :
    (Utf8.encode (front ++ rest) ++ tail).drop (size (front ++ rest) - size rest) =
      Utf8.encode rest ++ tail := by
  have hFront : size (front ++ rest) - size rest = (Utf8.encode front).length := by
    rw [hSize, hSize, Utf8.encode_append, List.length_append, Nat.add_sub_cancel]
  rw [hFront, Utf8.encode_append, List.append_assoc, List.drop_left]

theorem lockstep_readTextOnBytes {size : List Char → Nat}
    (hSize : ∀ text, size text = (Utf8.encode text).length) {p : Step (List Char) α}
    (hAdvances : Advances p) (hRestores : Restores .parse p)
    (hTail : Utf8.decodeChar? tail = none) :
    Lockstep (fun text bytes => bytes = Utf8.encode text ++ tail) Eq p
      (readTextOnBytes size p) := by
  rintro text _ rfl
  unfold readTextOnBytes
  rw [Utf8.splitText_encode_append text hTail]
  cases hRead : p text with
  | done a rest =>
    obtain ⟨front, rfl⟩ := hAdvances text a rest hRead
    simp only [hRead, Outcome.mapState, drop_encode_append hSize]
    exact .done rfl rfl
  | failed failure rest =>
    obtain ⟨-, rfl⟩ := hRestores text failure rest hRead
    simp only [hRead, Outcome.mapState, Nat.sub_self, List.drop_zero]
    exact .failed rfl
  | aborted fault =>
    simp only [hRead, Outcome.mapState]
    exact .aborted

namespace Bridge

/-- A step on texts, taken across to bytes, runs in lockstep with itself. -/
theorem lockstep_read (bridge : Bridge w .bytes) {p : Step w.Text α} (hAdvances : Advances p)
    (hRestores : Restores .parse p) (hTail : Utf8.decodeChar? tail = none) :
    Lockstep (w.Spells tail) Eq p (bridge.read p) := by
  cases bridge with
  | graphemesToBytes =>
    exact lockstep_readTextOnBytes (View.size_spell .graphemes) hAdvances hRestores hTail
  | charsToBytes =>
    exact lockstep_readTextOnBytes (View.size_spell .chars) hAdvances hRestores hTail

/-- All bytes spell a text with a tail. -/
theorem exists_spells (bridge : Bridge w .bytes) (bytes : List UInt8) :
    ∃ text tail, Utf8.decodeChar? tail = none ∧ w.Spells tail text bytes := by
  cases bridge with
  | graphemesToBytes | charsToBytes =>
    exact ⟨(Utf8.splitText bytes).1, (Utf8.splitText bytes).2, Utf8.decodeChar?_splitText bytes,
      (Utf8.encode_splitText bytes).symm⟩

end Bridge

end Reading

/-! ## Writing -/

/-- Two steps that append, the second one the bytes of what the first one does. -/
structure Step.SpelledBy {w : View} (p : Step w.Text Unit) (q : Step (List UInt8) Unit) : Prop where
  appends : p.Appends
  appends_bytes : q.Appends
  related : (p []).Related (w.Spells []) Eq (q [])

theorem retract_nil {v : View} (text : v.Text) : v.retract [] text = [] := v.retract_append [] text

/-- Nothing is left on either side of a failure. -/
theorem related_failed_nil {w : View} {failure : Failure} :
    (Outcome.failed failure [] : Outcome w.Text Unit).Related (w.Spells []) Eq
      (.failed failure [] : Outcome (List UInt8) Unit) :=
  .failed (w.toBytes_nil ▸ w.spells_nil [])

namespace Step.SpelledBy

variable {w : View} {p p' : Step w.Text Unit} {q q' : Step (List UInt8) Unit}

theorem cases (h : SpelledBy p q) :
    (∃ text, p [] = .done () text ∧ q [] = .done () (w.toBytes text)) ∨
      (p [] = .failed .print [] ∧ q [] = .failed .print []) ∨
      ∃ fault, p [] = .aborted fault ∧ q [] = .aborted fault := by
  cases hp : p [] with
  | done u text =>
    obtain ⟨_, bytes, hq, -, hBytes⟩ := h.related.of_done hp
    exact Or.inl ⟨text, rfl, by rw [hq, hBytes.eq_toBytes]⟩
  | failed failure left =>
    obtain ⟨bytes, hq, -⟩ := h.related.of_failed hp
    obtain ⟨rfl, rfl⟩ := h.appends.eq_of_failed hp
    obtain ⟨-, rfl⟩ := h.appends_bytes.eq_of_failed hq
    exact Or.inr (Or.inl ⟨rfl, hq⟩)
  | aborted fault => exact Or.inr (Or.inr ⟨fault, rfl, h.related.of_aborted hp⟩)

theorem andThen (h : SpelledBy p q) (h' : SpelledBy p' q') :
    SpelledBy ((Step.andThen w.retract p p').map fun _ => ())
      ((Step.andThen View.bytes.retract q q').map fun _ => ()) where
  appends := h.appends.andThen h'.appends w.retract_append
  appends_bytes := h.appends_bytes.andThen h'.appends_bytes View.bytes.retract_append
  related := by
    unfold Step.map Step.andThen
    rcases h.cases with ⟨text, hp, hq⟩ | ⟨hp, hq⟩ | ⟨fault, hp, hq⟩
    · simp only [hp, hq]
      rcases h'.cases with ⟨more, hp', hq'⟩ | ⟨hp', hq'⟩ | ⟨fault, hp', hq'⟩
      · simp only [h'.appends.of_done hp', h'.appends_bytes.of_done hq', ← View.toBytes_append]
        exact .done rfl (w.spells_nil _)
      · simp only [h'.appends.of_failed hp', h'.appends_bytes.of_failed hq']
        rw [retract_nil, retract_nil]
        exact related_failed_nil
      · simp only [h'.appends.of_aborted hp', h'.appends_bytes.of_aborted hq']
        exact .aborted
    · simp only [hp, hq]
      exact related_failed_nil
    · simp only [hp, hq]
      exact .aborted

theorem orElse (h : SpelledBy p q) (h' : SpelledBy p' q') :
    SpelledBy (Step.orElse p p') (Step.orElse q q') where
  appends := h.appends.orElse h'.appends
  appends_bytes := h.appends_bytes.orElse h'.appends_bytes
  related := by
    unfold Step.orElse
    rcases h.cases with ⟨text, hp, hq⟩ | ⟨hp, hq⟩ | ⟨fault, hp, hq⟩
    · simp only [hp, hq]
      exact .done rfl (w.spells_nil text)
    · simp only [hp, hq]
      exact h'.related
    · simp only [hp, hq]
      exact .aborted

end Step.SpelledBy

/-! ## Writing repetitions -/

section Repetitions

variable {w : View} {α β : Type} {V : α → β → Prop} {element : α → Step w.Text Unit}
  {element' : β → Step (List UInt8) Unit} {separator : Step w.Text Unit}
  {separator' : Step (List UInt8) Unit}

open Step (SpelledBy)

theorem writeMore_spelledBy (hElement : ∀ a b, V a b → SpelledBy (element a) (element' b))
    (hSeparator : SpelledBy separator separator') (bounds : Bounds) {elements : List α}
    {elements' : List β} (hElements : List.Forall₂ V elements elements') :
    ∀ (count : Nat) (written : w.Text),
      (writeMore element separator bounds 0 count elements written).Related (w.Spells []) Eq
        (writeMore (v := .bytes) element' separator' bounds 0 count elements'
          (w.toBytes written)) := by
  induction hElements with
  | nil =>
    intro count written
    unfold writeMore
    split
    · exact .done rfl (w.spells_nil written)
    · rw [truncate_zero, truncate_zero]
      exact related_failed_nil
  | @cons a b elements elements' hab hElements ih =>
    intro count written
    unfold writeMore
    rcases hSeparator.cases with ⟨sep, hp, hq⟩ | ⟨hp, hq⟩ | ⟨fault, hp, hq⟩
    · have hSep := hSeparator.appends.of_done hp written
      have hSep' := hSeparator.appends_bytes.of_done hq (w.toBytes written)
      rw [← w.toBytes_append] at hSep'
      simp only [hSep, hSep']
      have h := hElement a b hab
      rcases h.cases with ⟨text, hp, hq⟩ | ⟨hp, hq⟩ | ⟨fault, hp, hq⟩
      · have hDone := h.appends.of_done hp (written ++ sep)
        have hDone' := h.appends_bytes.of_done hq (w.toBytes (written ++ sep))
        rw [← w.toBytes_append] at hDone'
        simp only [hDone, hDone']
        split
        · exact ih (count + 1) (written ++ sep ++ text)
        · rw [truncate_zero, truncate_zero]
          exact related_failed_nil
      · -- the separator is taken back on both sides
        simp only [h.appends.of_failed hp, h.appends_bytes.of_failed hq, w.retract_append]
        rw [w.toBytes_append, View.bytes.retract_append]
        exact .done rfl (w.spells_nil written)
      · simp only [h.appends.of_aborted hp, h.appends_bytes.of_aborted hq]
        exact .aborted
    · simp only [hSeparator.appends.of_failed hp, hSeparator.appends_bytes.of_failed hq,
        truncate_zero]
      exact related_failed_nil
    · simp only [hSeparator.appends.of_aborted hp, hSeparator.appends_bytes.of_aborted hq]
      exact .aborted

theorem Step.SpelledBy.writeMany (hElement : ∀ a b, V a b → SpelledBy (element a) (element' b))
    (hSeparator : SpelledBy separator separator') (bounds : Bounds) {elements : List α}
    {elements' : List β} (hElements : List.Forall₂ V elements elements') :
    (writeMany element separator bounds elements []).Related (w.Spells []) Eq
      (TwoWay.writeMany (v := .bytes) element' separator' bounds elements' []) := by
  cases hElements with
  | nil =>
    unfold TwoWay.writeMany
    split
    · exact .done rfl (w.toBytes_nil ▸ w.spells_nil [])
    · exact related_failed_nil
  | @cons a b elements elements' hab hElements =>
    have h := hElement a b hab
    simp only [TwoWay.writeMany, View.size_nil]
    rcases h.cases with ⟨text, hp, hq⟩ | ⟨hp, hq⟩ | ⟨fault, hp, hq⟩
    · simp only [hp, hq]
      split
      · exact writeMore_spelledBy hElement hSeparator bounds hElements 1 text
      · rw [retract_nil, retract_nil]
        exact related_failed_nil
    · simp only [hp, hq]
      exact related_failed_nil
    · simp only [hp, hq]
      exact .aborted

end Repetitions

/-! ## Grammars -/

namespace Bridge

variable {w : View}

/-- A step that appends a text, taken across to bytes, appends the bytes of the text. -/
theorem related_write (bridge : Bridge w .bytes) {p : Step w.Text Unit} (hp : p.Appends) :
    (p []).Related (w.Spells []) Eq (bridge.write p []) := by
  cases bridge with
  | graphemesToBytes | charsToBytes =>
    simp only [Bridge.write, writeTextOnBytes]
    cases hWrite : p [] with
    | done u text => exact .done rfl (List.append_nil _).symm
    | failed failure left =>
      obtain ⟨-, rfl⟩ := hp.eq_of_failed hWrite
      exact related_failed_nil
    | aborted fault => exact .aborted

end Bridge

namespace Grammar

open Step (Lockstep)

variable {w : View} {α β γ δ ρ υ : Type}

/-- Reads as a grammar does and leaves its value out. It cannot be written. -/
def dropValue {v : View} (grammar : Grammar v α) : Grammar v Unit := .map (fun _ => ()) grammar

/-- A grammar of texts and a grammar of bytes that read in lockstep, and of which the second writes
the bytes of what the first one writes for a related value. -/
structure SpelledBy (V : α → β → Prop) (g : Grammar w α) (h : Grammar .bytes β) : Prop where
  read : ∀ tail, Utf8.decodeChar? tail = none → Lockstep (w.Spells tail) V g.parse h.parse
  write : ∀ a b, V a b → (g.print a []).Related (w.Spells []) Eq (h.print b [])

namespace SpelledBy

variable {V : α → β → Prop} {W : γ → δ → Prop} {g : Grammar w α} {h : Grammar .bytes β}
  {g' : Grammar w γ} {h' : Grammar .bytes δ}

theorem step (s : SpelledBy V g h) {a : α} {b : β} (hab : V a b) :
    Step.SpelledBy (g.print a) (h.print b) :=
  ⟨g.appends_print a, h.appends_print b, s.write a b hab⟩

/-- A grammar of texts is spelled by itself, taken across to bytes. -/
theorem across (bridge : Bridge w .bytes) (g : Grammar w α) :
    SpelledBy Eq g (.across bridge g) where
  read := fun _ hTail => bridge.lockstep_read g.advances_parse g.restores_parse hTail
  write := by
    rintro a _ rfl
    exact bridge.related_write (g.appends_print a)

theorem always {a : α} {b : β} (hab : V a b) :
    SpelledBy V (.always a : Grammar w α) (.always b) where
  read := fun _ _ => .pure hab
  write := fun _ _ _ => .done rfl (w.toBytes_nil ▸ w.spells_nil [])

theorem pair {X : α × γ → β × δ → Prop} (s : SpelledBy V g h) (s' : SpelledBy W g' h')
    (hX : ∀ p q, X p q ↔ V p.1 q.1 ∧ W p.2 q.2) : SpelledBy X (.pair g g') (.pair h h') where
  read := fun tail hTail =>
    (s.read tail hTail).andThen (s'.read tail hTail) (fun _ _ _ _ hStart _ => hStart)
      fun _ _ _ _ hab hcd => (hX _ _).2 ⟨hab, hcd⟩
  write := fun p q hpq =>
    ((s.step ((hX p q).1 hpq).1).andThen (s'.step ((hX p q).1 hpq).2)).related

theorem skipThen {g : Grammar w Unit} {h : Grammar .bytes Unit} (s : SpelledBy Eq g h)
    (s' : SpelledBy W g' h') : SpelledBy W (.skipThen g g') (.skipThen h h') where
  read := fun tail hTail =>
    ((s.read tail hTail).andThen (s'.read tail hTail) (fun _ _ _ _ hStart _ => hStart)
      (X := fun p q => W p.2 q.2) fun _ _ _ _ _ hcd => hcd).map fun _ _ hpq => hpq
  write := fun _ _ hcd => ((s.step rfl).andThen (s'.step hcd)).related

theorem thenSkip {g' : Grammar w Unit} {h' : Grammar .bytes Unit} (s : SpelledBy V g h)
    (s' : SpelledBy Eq g' h') : SpelledBy V (.thenSkip g g') (.thenSkip h h') where
  read := fun tail hTail =>
    ((s.read tail hTail).andThen (s'.read tail hTail) (fun _ _ _ _ hStart _ => hStart)
      (X := fun p q => V p.1 q.1) fun _ _ _ _ hab _ => hab).map fun _ _ hpq => hpq
  write := fun _ _ hab => ((s.step hab).andThen (s'.step rfl)).related

theorem orElse {g' : Grammar w α} {h' : Grammar .bytes β} (s : SpelledBy V g h)
    (s' : SpelledBy V g' h') : SpelledBy V (.orElse g g') (.orElse h h') where
  read := fun tail hTail => (s.read tail hTail).orElse (s'.read tail hTail)
  write := fun _ _ hab => ((s.step hab).orElse (s'.step hab)).related

theorem optional {X : Option α → Option β → Prop} (s : SpelledBy V g h)
    (hX : ∀ a b, X a b ↔ Option.Rel V a b) : SpelledBy X (.optional g) (.optional h) where
  read := fun tail hTail =>
    (s.read tail hTail).attempt ((hX _ _).2 .none) fun _ _ hab => (hX _ _).2 (.some hab)
  write := by
    intro a b hab
    cases (hX a b).1 hab with
    | some hValue => exact s.write _ _ hValue
    | none => exact .done rfl (w.toBytes_nil ▸ w.spells_nil [])

theorem map (s : SpelledBy V g h) {f : α → γ} {f' : β → δ} (hf : ∀ a b, V a b → W (f a) (f' b)) :
    SpelledBy W (.map f g) (.map f' h) where
  read := fun tail hTail => (s.read tail hTail).map hf
  write := fun _ _ _ => related_failed_nil

theorem dropValue (s : SpelledBy V g h) : SpelledBy Eq g.dropValue h.dropValue :=
  s.map fun _ _ _ => rfl

theorem convert (s : SpelledBy V g h) {apply : α → γ} {unapply : γ → α} {apply' : β → δ}
    {unapply' : δ → β} (hApply : ∀ a b, V a b → W (apply a) (apply' b))
    (hUnapply : ∀ c d, W c d → V (unapply c) (unapply' d)) :
    SpelledBy W (.convert apply unapply g) (.convert apply' unapply' h) where
  read := fun tail hTail => (s.read tail hTail).map hApply
  write := fun c d hcd => s.write _ _ (hUnapply c d hcd)

theorem writtenBy {g' : Grammar w Unit} {h' : Grammar .bytes Unit} (s : SpelledBy V g h)
    (s' : SpelledBy Eq g' h') : SpelledBy Eq (.writtenBy g g') (.writtenBy h h') where
  read := fun tail hTail => (s.read tail hTail).map fun _ _ _ => rfl
  write := fun _ _ _ => s'.write () () rfl

theorem many {g' : Grammar w Unit} {h' : Grammar .bytes Unit} {acc : Accumulator α ρ}
    {acc' : Accumulator β υ} {F : ρ → υ → Prop} (s : SpelledBy V g h) (s' : SpelledBy Eq g' h')
    (bounds : Bounds) (hInitial : F acc.initial acc'.initial)
    (hAdd : ∀ value value' a b, F value value' → V a b → F (acc.add value a) (acc'.add value' b))
    (hParts : ∀ value value', F value value' →
      List.Forall₂ V (acc.parts value) (acc'.parts value')) :
    SpelledBy F (.many g g' bounds acc) (.many h h' bounds acc') where
  read := fun tail hTail =>
    (s.read tail hTail).readMany (s'.read tail hTail)
      (fun _ _ _ _ hText hRest => hText.size_lt_iff hRest) hInitial hAdd
  write := fun value value' hValue =>
    Step.SpelledBy.writeMany (fun _ _ hab => s.step hab) (s'.step rfl) bounds
      (hParts value value' hValue)

/-- Options are related when one is the other with its value changed. -/
theorem map_eq_iff_optionRel {f : α → β} {a : Option α} {b : Option β} :
    a.map f = b ↔ Option.Rel (fun a b => f a = b) a b := by
  constructor
  · rintro rfl
    cases a with
    | none => exact .none
    | some a => exact .some rfl
  · rintro (hValue | -)
    · exact congrArg some hValue
    · rfl

/-! ### Two grammars of bytes that spell the same grammar -/

/-- Two grammars that spell the same grammar read the same, up to the function that relates their
values. -/
theorem parse_map_eq (bridge : Bridge w .bytes) {f : α → β} {h₁ : Grammar .bytes α}
    (s₁ : SpelledBy Eq g h₁) (s : SpelledBy V g h) (hV : ∀ a b, V a b → f a = b)
    (bytes : List UInt8) : (h₁.parse bytes).map f = h.parse bytes := by
  obtain ⟨text, tail, hTail, hBytes⟩ := bridge.exists_spells bytes
  have hState : ∀ text bytes bytes', w.Spells tail text bytes → w.Spells tail text bytes' →
      bytes = bytes' := fun text bytes bytes' h h' => h.trans h'.symm
  have hRead := s.read tail hTail text bytes hBytes
  exact (s₁.read tail hTail text bytes hBytes).map_eq hRead hState hV

/-- Two grammars that spell the same grammar write the same for related values. -/
theorem print_eq {h₁ : Grammar .bytes α} (s₁ : SpelledBy Eq g h₁) (s : SpelledBy V g h) {a : α}
    {b : β} (hab : V a b) (buffer : List UInt8) : h₁.print a buffer = h.print b buffer := by
  have hState : ∀ text bytes bytes', w.Spells [] text bytes → w.Spells [] text bytes' →
      bytes = bytes' := fun text bytes bytes' h h' => h.trans h'.symm
  have hAlone := (s₁.write a a rfl).map_eq (f := id) (s.write a b hab) hState fun _ _ h => h
  rw [Outcome.map_id] at hAlone
  exact print_eq_of_printToBuffer_eq (v := .bytes) hAlone buffer

theorem equiv (bridge : Bridge w .bytes) {h₁ h₂ : Grammar .bytes α} (s₁ : SpelledBy Eq g h₁)
    (s₂ : SpelledBy Eq g h₂) : Equiv h₁ h₂ where
  parse_eq := fun bytes => by
    have hEq := parse_map_eq bridge (f := id) s₁ s₂ (fun _ _ h => h) bytes
    rwa [Outcome.map_id] at hEq
  print_eq := fun _ buffer => print_eq s₁ s₂ rfl buffer

end SpelledBy

end Grammar

end TwoWay
