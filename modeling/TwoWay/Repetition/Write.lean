import TwoWay.Bounds
import TwoWay.Leaf.Literal

/-!
# Writing a repetition

The elements are written with the separator between them. Writing stops at the first element after
the first one that cannot be written: the separator before it is taken back and what is written so
far stays, just as reading stops at the first element that does not match. When the first element
or a separator cannot be written, or the number of elements written does not meet the bounds,
nothing stays. Elements that are left out by stopping are not counted against the least number.
-/

namespace TwoWay

variable {v : View} {α : Type}

/-- Goes on with a repetition of which `count` elements are written and that started when the
buffer had `start` bytes. -/
def writeMore (element : α → Step v.Text Unit) (separator : Step v.Text Unit) (bounds : Bounds)
    (start : Nat) : (count : Nat) → List α → Step v.Text Unit
  | count, [] => fun buffer =>
    if bounds.least ≤ count then .done () buffer
    else .failed .print (v.truncate start buffer)
  | count, a :: elements => fun buffer =>
    match separator buffer with
    | .aborted fault => .aborted fault
    | .failed _ buffer₁ => .failed .print (v.truncate start buffer₁)
    | .done _ buffer₁ =>
      match element a buffer₁ with
      | .aborted fault => .aborted fault
      | .failed _ buffer₂ => .done () (v.retract buffer buffer₂)
      | .done _ buffer₂ =>
        if bounds.isWithin (count + 1) then
          writeMore element separator bounds start (count + 1) elements buffer₂
        else .failed .print (v.truncate start buffer₂)

/-- Writes a repetition of the given elements. -/
def writeMany (element : α → Step v.Text Unit) (separator : Step v.Text Unit) (bounds : Bounds) :
    List α → Step v.Text Unit
  | [] => if bounds.least = 0 then Step.pure () else Step.fail .print
  | a :: elements => fun buffer =>
    match element a buffer with
    | .done _ buffer₁ =>
      if bounds.isWithin 1 then
        writeMore element separator bounds (v.size buffer) 1 elements buffer₁
      else .failed .print (v.retract buffer buffer₁)
    | outcome => outcome

end TwoWay
