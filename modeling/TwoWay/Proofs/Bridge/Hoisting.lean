import TwoWay.Format.Table
import TwoWay.Proofs.Bridge.Spelling

/-!
# Hoisting a bridge out of a grammar

A grammar of texts can be taken across to bytes as a whole, once, or part by part. Part by part, the
text at the front of the bytes is looked for again at every place where a part starts; as a whole,
it is looked for only at the start. Both come to the same, because what follows a text that was read
starts with what is left of that text.

* `Grammar.Spread`: a grammar of bytes that is a grammar of texts, taken across part by part.
* `Grammar.Spread.equiv`: it means the same as the grammar taken across as a whole.
* `Grammar.across_distributes`: so a bridge distributes over every way to build a grammar.
-/

namespace TwoWay

namespace Grammar

/-- The grammar of bytes is the grammar of texts with the bridge at the whole of it, or spread over
its parts. What stands for nothing needs no bridge. -/
inductive Spread {w : View} (bridge : Bridge w .bytes) :
    {α : Type} → Grammar w α → Grammar .bytes α → Prop
  | across {α : Type} (g : Grammar w α) : Spread bridge g (.across bridge g)
  | always {α : Type} (value : α) : Spread bridge (.always value) (.always value)
  | pair {α β : Type} {first : Grammar w α} {second : Grammar w β} {first' : Grammar .bytes α}
      {second' : Grammar .bytes β} (hFirst : Spread bridge first first')
      (hSecond : Spread bridge second second') :
      Spread bridge (.pair first second) (.pair first' second')
  | skipThen {β : Type} {first : Grammar w Unit} {second : Grammar w β}
      {first' : Grammar .bytes Unit} {second' : Grammar .bytes β}
      (hFirst : Spread bridge first first') (hSecond : Spread bridge second second') :
      Spread bridge (.skipThen first second) (.skipThen first' second')
  | thenSkip {α : Type} {first : Grammar w α} {second : Grammar w Unit}
      {first' : Grammar .bytes α} {second' : Grammar .bytes Unit}
      (hFirst : Spread bridge first first') (hSecond : Spread bridge second second') :
      Spread bridge (.thenSkip first second) (.thenSkip first' second')
  | orElse {α : Type} {first second : Grammar w α} {first' second' : Grammar .bytes α}
      (hFirst : Spread bridge first first') (hSecond : Spread bridge second second') :
      Spread bridge (.orElse first second) (.orElse first' second')
  | optional {α : Type} {g : Grammar w α} {g' : Grammar .bytes α} (h : Spread bridge g g') :
      Spread bridge (.optional g) (.optional g')
  | map {α β : Type} (f : α → β) {g : Grammar w α} {g' : Grammar .bytes α}
      (h : Spread bridge g g') : Spread bridge (.map f g) (.map f g')
  | convert {α β : Type} (apply : α → β) (unapply : β → α) {g : Grammar w α}
      {g' : Grammar .bytes α} (h : Spread bridge g g') :
      Spread bridge (.convert apply unapply g) (.convert apply unapply g')
  | writtenBy {α : Type} {reader : Grammar w α} {writer : Grammar w Unit}
      {reader' : Grammar .bytes α} {writer' : Grammar .bytes Unit}
      (hReader : Spread bridge reader reader') (hWriter : Spread bridge writer writer') :
      Spread bridge (.writtenBy reader writer) (.writtenBy reader' writer')
  | many {α ρ : Type} {element : Grammar w α} {separator : Grammar w Unit}
      {element' : Grammar .bytes α} {separator' : Grammar .bytes Unit} (bounds : Bounds)
      (acc : Accumulator α ρ) (hElement : Spread bridge element element')
      (hSeparator : Spread bridge separator separator') :
      Spread bridge (.many element separator bounds acc) (.many element' separator' bounds acc)

variable {w : View} {α : Type} {bridge : Bridge w .bytes}

theorem Spread.spelledBy {g : Grammar w α} {g' : Grammar .bytes α} (h : Spread bridge g g') :
    SpelledBy Eq g g' := by
  induction h with
  | across g => exact .across bridge g
  | always value => exact .always rfl
  | pair hFirst hSecond first second => exact first.pair second fun p q => Prod.ext_iff
  | skipThen hFirst hSecond first second => exact first.skipThen second
  | thenSkip hFirst hSecond first second => exact first.thenSkip second
  | orElse hFirst hSecond first second => exact first.orElse second
  | optional h ih =>
    refine ih.optional fun a b => ?_
    rw [← SpelledBy.map_eq_iff_optionRel (f := fun a => a), Option.map_id']
  | map f h ih => exact ih.map fun a b hab => congrArg f hab
  | convert apply unapply h ih =>
    exact ih.convert (fun a b hab => congrArg apply hab) fun c d hcd => congrArg unapply hcd
  | writtenBy hReader hWriter reader writer => exact reader.writtenBy writer
  | many bounds acc hElement hSeparator element separator =>
    refine element.many separator bounds rfl (fun value value' a b hValue hab => ?_) ?_
    · rw [hValue, hab]
    · rintro value _ rfl
      exact List.forall₂_same.2 fun a _ => rfl

/-- **Spreading a bridge changes nothing.** -/
theorem Spread.equiv {g : Grammar w α} {g' : Grammar .bytes α} (h : Spread bridge g g') :
    Equiv (.across bridge g) g' :=
  (SpelledBy.across bridge g).equiv bridge h.spelledBy

/-- **A bridge can be hoisted out of a grammar.**  Taking a sequence, a choice, an option, a
conversion or a repetition of texts across to bytes reads and writes as taking its parts across
does: the same outcome for all bytes, values and buffers, faults included. Sides and separators may
have a value that is left out, and the separator of a plain repetition needs no bridge. -/
theorem across_distributes (bridge : Bridge w .bytes) :
    (∀ (α β : Type) (first : Grammar w α) (second : Grammar w β),
      Equiv (across bridge (pair first second))
        (pair (across bridge first) (across bridge second))) ∧
    (∀ (β : Type) (first : Grammar w Unit) (second : Grammar w β),
      Equiv (across bridge (skipThen first second))
        (skipThen (across bridge first) (across bridge second))) ∧
    (∀ (α β : Type) (first : Grammar w α) (second : Grammar w β),
      Equiv (across bridge (skipThen first.dropValue second))
        (skipThen (across bridge first).dropValue (across bridge second))) ∧
    (∀ (α : Type) (first : Grammar w α) (second : Grammar w Unit),
      Equiv (across bridge (thenSkip first second))
        (thenSkip (across bridge first) (across bridge second))) ∧
    (∀ (α β : Type) (first : Grammar w α) (second : Grammar w β),
      Equiv (across bridge (thenSkip first second.dropValue))
        (thenSkip (across bridge first) (across bridge second).dropValue)) ∧
    (∀ (α : Type) (first second : Grammar w α),
      Equiv (across bridge (orElse first second))
        (orElse (across bridge first) (across bridge second))) ∧
    (∀ (α : Type) (grammar : Grammar w α),
      Equiv (across bridge (optional grammar)) (optional (across bridge grammar))) ∧
    (∀ (α β : Type) (apply : α → β) (unapply : β → α) (grammar : Grammar w α),
      Equiv (across bridge (convert apply unapply grammar))
        (convert apply unapply (across bridge grammar))) ∧
    (∀ (α ρ : Type) (element : Grammar w α) (separator : Grammar w Unit) (bounds : Bounds)
        (acc : Accumulator α ρ),
      Equiv (across bridge (many element separator bounds acc))
        (many (across bridge element) (across bridge separator) bounds acc)) ∧
    (∀ (α β ρ : Type) (element : Grammar w α) (separator : Grammar w β) (bounds : Bounds)
        (acc : Accumulator α ρ),
      Equiv (across bridge (many element separator.dropValue bounds acc))
        (many (across bridge element) (across bridge separator).dropValue bounds acc)) ∧
    (∀ (α ρ : Type) (element : Grammar w α) (bounds : Bounds) (acc : Accumulator α ρ),
      Equiv (across bridge (many element (always ()) bounds acc))
        (many (across bridge element) (always ()) bounds acc)) := by
  refine ⟨fun _ _ first second => ?_, fun _ first second => ?_, fun _ _ first second => ?_,
    fun _ first second => ?_, fun _ _ first second => ?_, fun _ first second => ?_,
    fun _ grammar => ?_, fun _ _ apply unapply grammar => ?_,
    fun _ _ element separator bounds acc => ?_, fun _ _ _ element separator bounds acc => ?_,
    fun _ _ element bounds acc => ?_⟩
  · exact (Spread.pair (.across first) (.across second)).equiv
  · exact (Spread.skipThen (.across first) (.across second)).equiv
  · exact (Spread.skipThen (.map _ (.across first)) (.across second)).equiv
  · exact (Spread.thenSkip (.across first) (.across second)).equiv
  · exact (Spread.thenSkip (.across first) (.map _ (.across second))).equiv
  · exact (Spread.orElse (.across first) (.across second)).equiv
  · exact (Spread.optional (.across grammar)).equiv
  · exact (Spread.convert apply unapply (.across grammar)).equiv
  · exact (Spread.many bounds acc (.across element) (.across separator)).equiv
  · exact (Spread.many bounds acc (.across element) (.map _ (.across separator))).equiv
  · exact (Spread.many bounds acc (.across element) (.always ())).equiv

-- the bytes after the text are left, however the bridge is placed
example :
    (many (across .charsToBytes Format.cell) (across .charsToBytes (.literal [','])) (.orMore 1)
      .list).parse [0x61, 0x2C, 0xFF] = .done [['a'], []] [0xFF] := by
  decide +kernel

end Grammar

end TwoWay
