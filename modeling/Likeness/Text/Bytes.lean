/-!
# Bytes of a text

A place in a text is given by the number of bytes before it in UTF-8. Only places between characters
count: a range whose ends fall inside characters, or outside the text, holds nothing.
-/

namespace Likeness.Text

/-- The number of bytes of a text. -/
def byteSize (cs : List Char) : Nat := cs.foldl (fun n c => n + c.utf8Size) 0

/-- What follows the first `n` bytes, if these end between characters. -/
def dropBytes : (n : Nat) → List Char → Option (List Char)
  | 0, cs => some cs
  | _ + 1, [] => none
  | n + 1, c :: cs => if c.utf8Size ≤ n + 1 then dropBytes (n + 1 - c.utf8Size) cs else none
termination_by _ cs => cs.length

/-- The first `n` bytes, if these end between characters. -/
def takeBytes : (n : Nat) → List Char → Option (List Char)
  | 0, _ => some []
  | _ + 1, [] => none
  | n + 1, c :: cs =>
    if c.utf8Size ≤ n + 1 then (takeBytes (n + 1 - c.utf8Size) cs).map (c :: ·) else none
termination_by _ cs => cs.length

/-- The text from byte `start` up to byte `stop`. -/
def slice (cs : List Char) (start stop : Nat) : Option (List Char) :=
  if start ≤ stop then (dropBytes start cs).bind (takeBytes (stop - start)) else none

end Likeness.Text
