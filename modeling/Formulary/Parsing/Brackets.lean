/-!
# Pairs of brackets

One pass over a text finds the closing bracket of every opening one.  It
keeps the positions of the brackets that are still open, innermost first; a
closing bracket belongs to the innermost of them, and one without any is
left out.
-/

namespace Formulary

/--
Note the closing brackets of a text that begins at a position, where the
brackets at the positions in `opened` are open.
-/
def noteClosings :
    (text : List Char) →
    (position : Nat) →
    (opened : List Nat) →
    (closings : Array (Option Nat)) →
    Array (Option Nat)
  | [], _, _, closings => closings
  | '(' :: text, position, opened, closings =>
      noteClosings text (position + 1) (position :: opened) closings
  | ')' :: text, position, opening :: opened, closings =>
      noteClosings text (position + 1) opened
        (closings.setIfInBounds opening (some position))
  | _ :: text, position, opened, closings =>
      noteClosings text (position + 1) opened closings

/-- For every position of a text, that of the closing bracket of the bracket which opens there. -/
def closingPositions (text : List Char) : Array (Option Nat) :=
  noteClosings text 0 [] (Array.replicate text.length none)

end Formulary
