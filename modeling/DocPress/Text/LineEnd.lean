/-!
Line ends. A line may end with a line feed, a carriage return or both in this order.
-/

namespace DocPress.Text

def unifyLineEnds : List Char → List Char
  | '\r' :: '\n' :: cs => '\n' :: unifyLineEnds cs
  | '\r' :: cs => '\n' :: unifyLineEnds cs
  | c :: cs => c :: unifyLineEnds cs
  | [] => []

end DocPress.Text
