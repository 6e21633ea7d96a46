import TwoWay.Proofs.Bridge.Spelling

/-!
# Bridges one after the other

Taking a grammar of texts across to bytes and back gives the grammar, and the ways from one view to
another that pass through a third one come to the same as the direct way. This rests on readings
that leave an end of what they were given: the bytes left of a text then spell what is left of it.

* `lastBytes?_of_suffix`: the end of a text is found by its number of bytes.
* `readBytesOnText_eq`: a step on bytes that runs in lockstep with a step on texts comes back as
  that step.
* `readBytesOnText_readTextOnBytes`, `writeBytesOnText_writeTextOnBytes`: so a step on texts comes
  back from bytes as it was, in both directions.
* `Grammar.across_across`: the five pairs of bridges.
-/

namespace TwoWay

/-! ## Back from bytes -/

section Return

open Step (Advances Restores Lockstep)

variable {α : Type} {p : Step (List Char) α}

/-- The end of a text is what is left when its bytes are left. -/
theorem lastBytes?_of_suffix (v : View) {rest text : v.Text} (h : rest <:+ text) :
    v.lastBytes? text (v.size rest) = some rest := by
  obtain ⟨front, rfl⟩ := h
  rw [View.lastBytes?, v.size_append, Nat.add_sub_cancel, v.cut?_append]
  rfl

/-- A step on bytes that runs in lockstep with a step on texts comes back as that step. -/
theorem readBytesOnText_eq {restOf? : List Char → Nat → Option (List Char)}
    (hRest : ∀ rest text, rest <:+ text → restOf? text (Utf8.encode rest).length = some rest)
    (hAdvances : Advances p) (hRestores : Restores .parse p) {q : Step (List UInt8) α}
    (h : Lockstep (fun text bytes => bytes = Utf8.encode text ++ []) Eq p q) :
    readBytesOnText restOf? q = p := by
  funext text
  have hText := h text (Utf8.encode text) (List.append_nil _).symm
  unfold readBytesOnText
  cases hRead : p text with
  | done a rest =>
    obtain ⟨_, left, hRead', rfl, hLeft⟩ := hText.of_done hRead
    rw [List.append_nil] at hLeft
    simp only [hRead', hLeft, hRest rest text (hAdvances text a rest hRead)]
  | failed failure rest =>
    obtain ⟨left, hRead', hLeft⟩ := hText.of_failed hRead
    obtain ⟨-, rfl⟩ := hRestores text failure rest hRead
    rw [List.append_nil] at hLeft
    simp only [hRead', hLeft, hRest rest rest List.suffix_rfl]
  | aborted fault => simp only [hText.of_aborted hRead]

/-- A step on texts comes back from bytes as it was. -/
theorem readBytesOnText_readTextOnBytes (hAdvances : Advances p) (hRestores : Restores .parse p) :
    readBytesOnText View.chars.lastBytes? (readTextOnBytes View.chars.size p) = p := by
  have hSize : ∀ text, View.chars.size text = (Utf8.encode text).length := View.size_spell .chars
  refine readBytesOnText_eq (fun rest text h => ?_) hAdvances hRestores
    (lockstep_readTextOnBytes hSize hAdvances hRestores Utf8.decodeChar?_nil)
  rw [← hSize]
  exact lastBytes?_of_suffix .chars h

/-- A step that appends comes back from bytes as it was. -/
theorem writeBytesOnText_writeTextOnBytes {p : Step (List Char) Unit} (hp : p.Appends) :
    writeBytesOnText (writeTextOnBytes p) = p := by
  funext buffer
  unfold writeBytesOnText writeTextOnBytes
  rw [hp buffer]
  cases hWrite : p [] with
  | done u text => simp only [List.nil_append, Utf8.decode?_encode, Outcome.behind]
  | failed failure left =>
    obtain ⟨rfl, rfl⟩ := hp.eq_of_failed hWrite
    rfl
  | aborted fault => rfl

end Return

/-! ## Clusters and scalars -/

/-- Clusters and scalars have the same sizes. -/
theorem size_graphemes_eq (text : List Char) : View.graphemes.size text = View.chars.size text :=
  (View.size_spell .graphemes text).trans (View.size_spell .chars text).symm

theorem readTextOnBytes_graphemes_eq {α : Type} (p : Step (List Char) α) :
    readTextOnBytes View.graphemes.size p = readTextOnBytes View.chars.size p :=
  congrArg (readTextOnBytes · p) (funext size_graphemes_eq)

theorem cut?_graphemes_eq (n : Nat) (text : List Char) :
    View.graphemes.cut? n text = View.chars.cut? n text := by
  refine Option.ext fun parts => ?_
  rw [View.cut?_eq_some_iff View.graphemes (s := parts.1) (t := parts.2),
    View.cut?_eq_some_iff View.chars (s := parts.1) (t := parts.2), size_graphemes_eq]

theorem lastBytes?_graphemes_eq (text : List Char) (count : Nat) :
    View.graphemes.lastBytes? text count = View.chars.lastBytes? text count := by
  rw [View.lastBytes?, View.lastBytes?, size_graphemes_eq, cut?_graphemes_eq]

theorem readBytesOnText_graphemes_eq {α : Type} (p : Step (List UInt8) α) :
    readBytesOnText View.graphemes.lastBytes? p = readBytesOnText View.chars.lastBytes? p :=
  congrArg (readBytesOnText · p) (funext fun text => funext (lastBytes?_graphemes_eq text))

/-! ## Grammars -/

namespace Grammar

theorem equiv_bytesToChars_charsToBytes {α : Type} (g : Grammar .chars α) :
    Equiv (across .bytesToChars (across .charsToBytes g)) g where
  parse_eq := congrFun (readBytesOnText_readTextOnBytes g.advances_parse g.restores_parse)
  print_eq := fun value => congrFun (writeBytesOnText_writeTextOnBytes (g.appends_print value))

theorem equiv_bytesToGraphemes_graphemesToBytes {α : Type} (g : Grammar .graphemes α) :
    Equiv (across .bytesToGraphemes (across .graphemesToBytes g)) g where
  parse_eq := fun text => by
    change readBytesOnText View.graphemes.lastBytes? (readTextOnBytes View.graphemes.size g.parse)
      text = g.parse text
    rw [readBytesOnText_graphemes_eq, readTextOnBytes_graphemes_eq,
      readBytesOnText_readTextOnBytes g.advances_parse g.restores_parse]
  print_eq := fun value => congrFun (writeBytesOnText_writeTextOnBytes (g.appends_print value))

theorem equiv_bytesToChars_graphemesToBytes {α : Type} (g : Grammar .graphemes α) :
    Equiv (across .bytesToChars (across .graphemesToBytes g)) (across .graphemesToChars g) where
  parse_eq := fun text => by
    change readBytesOnText View.chars.lastBytes? (readTextOnBytes View.graphemes.size g.parse)
      text = g.parse text
    rw [readTextOnBytes_graphemes_eq,
      readBytesOnText_readTextOnBytes g.advances_parse g.restores_parse]
  print_eq := fun value => congrFun (writeBytesOnText_writeTextOnBytes (g.appends_print value))

theorem equiv_charsToBytes_graphemesToChars {α : Type} (g : Grammar .graphemes α) :
    Equiv (across .charsToBytes (across .graphemesToChars g)) (across .graphemesToBytes g) where
  parse_eq := fun bytes => congrFun (readTextOnBytes_graphemes_eq g.parse).symm bytes
  print_eq := fun _ _ => rfl

theorem equiv_graphemesToChars_bytesToGraphemes {α : Type} (g : Grammar .bytes α) :
    Equiv (across .graphemesToChars (across .bytesToGraphemes g)) (across .bytesToChars g) where
  parse_eq := congrFun (readBytesOnText_graphemes_eq g.parse)
  print_eq := fun _ _ => rfl

/-- **Bridges compose.**  Scalars taken across to bytes and back, and clusters taken across to bytes
and back, are the grammar itself. Clusters on bytes taken back to scalars are clusters on scalars,
clusters on scalars taken across to bytes are clusters on bytes, also for bytes that are no text,
and bytes on clusters taken to scalars are bytes on scalars. -/
theorem across_across :
    (∀ (α : Type) (g : Grammar .chars α),
      Equiv (across .bytesToChars (across .charsToBytes g)) g) ∧
    (∀ (α : Type) (g : Grammar .graphemes α),
      Equiv (across .bytesToGraphemes (across .graphemesToBytes g)) g) ∧
    (∀ (α : Type) (g : Grammar .graphemes α),
      Equiv (across .bytesToChars (across .graphemesToBytes g)) (across .graphemesToChars g)) ∧
    (∀ (α : Type) (g : Grammar .graphemes α),
      Equiv (across .charsToBytes (across .graphemesToChars g)) (across .graphemesToBytes g)) ∧
    (∀ (α : Type) (g : Grammar .bytes α),
      Equiv (across .graphemesToChars (across .bytesToGraphemes g)) (across .bytesToChars g)) :=
  ⟨fun _ g => equiv_bytesToChars_charsToBytes g,
    fun _ g => equiv_bytesToGraphemes_graphemesToBytes g,
    fun _ g => equiv_bytesToChars_graphemesToBytes g,
    fun _ g => equiv_charsToBytes_graphemesToChars g,
    fun _ g => equiv_graphemesToChars_bytesToGraphemes g⟩

end Grammar

end TwoWay
