/-
**Beginnings of texts.**

* `dropStart?`: what follows an expected beginning.
-/

namespace Wayfinder.Text

/-- What follows an expected beginning, if the text has it. -/
def dropStart? : List Char → List Char → Option (List Char)
  | [], text => some text
  | expected :: start, found :: text => if expected = found then dropStart? start text else none
  | _ :: _, [] => none

end Wayfinder.Text
