import TwoWay.Proofs.Writing.Append

/-!
# Grammars that mean the same

* `Grammar.Equiv`: two grammars read the same from every text and write the same behind every
  buffer, faults included.
* `Grammar.print_eq_of_printToBuffer_eq`: for writing it is enough to look at a buffer of its own,
  because all grammars append.
-/

namespace TwoWay

namespace Grammar

variable {v : View} {α : Type}

/-- The grammars read alike and write alike. -/
structure Equiv (g h : Grammar v α) : Prop where
  parse_eq : ∀ text, g.parse text = h.parse text
  print_eq : ∀ value buffer, g.print value buffer = h.print value buffer

/-- Writings that are the same on their own are the same behind every buffer. -/
theorem print_eq_of_printToBuffer_eq {β : Type} {g : Grammar v α} {h : Grammar v β} {a : α} {b : β}
    (hAlone : g.printToBuffer a = h.printToBuffer b) (buffer : v.Text) :
    g.print a buffer = h.print b buffer := by
  rw [g.appends_print a buffer, h.appends_print b buffer]
  exact congrArg (Outcome.behind buffer) hAlone

end Grammar

end TwoWay
