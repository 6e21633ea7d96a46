import TwoWay.Proofs.Bridge.Ascii

/-!
# Grammars for text and for bytes

The same description can be built on scalars and on bytes: literals are spelled, and runs are of
ASCII characters. Built on scalars and taken across to bytes, it means the same as built on bytes,
up to the spelling of the texts inside its values. Bytes that spell no text are no exception: no
ASCII character and no literal stands where the text ends.

* `Shape`: where texts are inside a value, and `Shape.spell`: the value with its texts spelled.
* `Portable`: a description of values of a shape that can be built on either view.
* `Portable.spelledBy`: built on scalars, it is spelled by itself, built on bytes.
* `Portable.across_agrees`: taken across to bytes it is read and written as built on bytes.
-/

namespace TwoWay

/-! ## Values with texts inside -/

/-- How a value is made up: `slice` is a text that was read, and `plain` holds no such text. -/
inductive Shape : Type 1
  | plain (α : Type)
  | slice
  | pair (first second : Shape)
  | option (shape : Shape)
  | list (shape : Shape)

namespace Shape

/-- The values of a shape on a view. -/
abbrev Value (v : View) : Shape → Type
  | plain α => α
  | slice => v.Text
  | pair first second => first.Value v × second.Value v
  | option shape => Option (shape.Value v)
  | list shape => List (shape.Value v)

/-- The value with its texts spelled on a view. -/
def spell (v : View) : (shape : Shape) → shape.Value .chars → shape.Value v
  | plain _ => id
  | slice => v.spell
  | pair first second => Prod.map (first.spell v) (second.spell v)
  | option shape => Option.map (shape.spell v)
  | list shape => List.map (shape.spell v)

/-- On scalars a text is spelled as it is. -/
theorem spell_chars (shape : Shape) : shape.spell .chars = id := by
  induction shape with
  | plain | slice => rfl
  | pair first second ih ih' => rw [spell, ih, ih', Prod.map_id]
  | option shape ih => rw [spell, ih, Option.map_id]
  | list shape ih => rw [spell, ih, List.map_id_fun]

end Shape

/-! ## Descriptions -/

namespace AsciiTest

/-- The test on a view that has characters. -/
def on (test : AsciiTest) : (v : View) → v.hasCharacters = true → Test v
  | .chars, _ => test.onChars
  | .bytes, _ | .sharedBytes, _ => test.onBytes

end AsciiTest

/-- Descriptions of values of a shape that can be built on scalars and on bytes. Literals may hold
any scalars, and runs are of ASCII characters. -/
inductive Portable : Shape → Type 1
  | always {s : Shape} (value : s.Value .chars) : Portable s
  | literal (text : List Char) : Portable (.plain Unit)
  | lineEnd : Portable (.plain Unit)
  | number {α : Type} (form : NumberForm α) : Portable (.plain α)
  | run (test : AsciiTest) (bounds : Bounds) : Portable .slice
  | pair {s t : Shape} (first : Portable s) (second : Portable t) : Portable (.pair s t)
  | skipThen {t : Shape} (first : Portable (.plain Unit)) (second : Portable t) : Portable t
  | thenSkip {s : Shape} (first : Portable s) (second : Portable (.plain Unit)) : Portable s
  | orElse {s : Shape} (first second : Portable s) : Portable s
  | optional {s : Shape} (description : Portable s) : Portable (.option s)
  | many {s : Shape} (element : Portable s) (separator : Portable (.plain Unit))
      (bounds : Bounds) : Portable (.list s)
  | dropValue {s : Shape} (description : Portable s) : Portable (.plain Unit)

namespace Portable

/-- The grammar that a description gives on a view that has characters. -/
def on (v : View) (hv : v.hasCharacters = true) : {s : Shape} → Portable s →
    Grammar v (s.Value v)
  | s, always value => .always (s.spell v value)
  | _, literal text => .literal (v.spell text)
  | _, lineEnd => .lineEnd
  | _, number form => .number form hv
  | _, run test bounds => .run (test.on v hv) bounds
  | _, pair first second => .pair (first.on v hv) (second.on v hv)
  | _, skipThen first second => .skipThen (first.on v hv) (second.on v hv)
  | _, thenSkip first second => .thenSkip (first.on v hv) (second.on v hv)
  | _, orElse first second => .orElse (first.on v hv) (second.on v hv)
  | _, optional description => .optional (description.on v hv)
  | _, many element separator bounds =>
    .many (element.on v hv) (separator.on v hv) bounds .list
  | _, dropValue description => (description.on v hv).dropValue

/-! ## Built on scalars and on bytes -/

/-- Built on scalars, a description is spelled by itself, built on bytes. -/
theorem spelledBy {s : Shape} (g : Portable s) :
    Grammar.SpelledBy (fun value value' => s.spell .bytes value = value') (g.on .chars rfl)
      (g.on .bytes rfl) := by
  induction g with
  | @always s value => exact .always (by rw [s.spell_chars, id])
  | literal text => exact .literal text
  | lineEnd => exact .lineEnd
  | number form => exact .number form
  | run test bounds => exact .run test bounds
  | pair first second ih ih' => exact ih.pair ih' fun p q => Prod.ext_iff
  | skipThen first second ih ih' => exact ih.skipThen ih'
  | thenSkip first second ih ih' => exact ih.thenSkip ih'
  | orElse first second ih ih' => exact ih.orElse ih'
  | optional description ih => exact ih.optional fun a b => Grammar.SpelledBy.map_eq_iff_optionRel
  | many element separator bounds ih ih' =>
    refine ih.many ih' bounds rfl ?_ ?_
    · rintro value _ a _ rfl rfl
      exact List.map_append
    · rintro value _ rfl
      exact List.forall₂_map_right_iff.2 (List.forall₂_same.2 fun _ _ => rfl)
  | dropValue description ih => exact ih.dropValue

/-- **Text and byte grammars agree.**  A description built on scalars and taken across to bytes
reads all bytes, valid or not, as the same description built on bytes does, with the texts inside
the value spelled, and writes a value behind any buffer as that one writes it spelled. -/
theorem across_agrees {s : Shape} (g : Portable s) :
    (∀ bytes, ((Grammar.across .charsToBytes (g.on .chars rfl)).parse bytes).map (s.spell .bytes) =
        (g.on .bytes rfl).parse bytes) ∧
      ∀ value buffer, (Grammar.across .charsToBytes (g.on .chars rfl)).print value buffer =
        (g.on .bytes rfl).print (s.spell .bytes value) buffer := by
  have hAcross := Grammar.SpelledBy.across .charsToBytes (g.on .chars rfl)
  constructor
  · exact hAcross.parse_map_eq .charsToBytes g.spelledBy fun _ _ h => h
  · exact fun value buffer => hAcross.print_eq g.spelledBy rfl buffer

-- the last byte is only the start of the literal, so the second number is the last one
example :
    (Grammar.across .charsToBytes
      ((many (number (.int (.unsigned .w8))) (literal ['é']) .unbounded).on .chars rfl)).parse
        [0x31, 0xC3, 0xA9, 0x32, 0xC3] = .done [1, 2] [0xC3] := by
  decide +kernel

end Portable

end TwoWay
