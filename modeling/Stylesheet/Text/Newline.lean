/-!
# Line ends

In a file a line may end in a line feed, in a carriage return, or in the two together. Text that
was read from a file has line feeds only.
-/

namespace Stylesheet

def unifyNewlines : List Char → List Char
  | [] => []
  | '\r' :: '\n' :: rest => '\n' :: unifyNewlines rest
  | '\r' :: rest => '\n' :: unifyNewlines rest
  | c :: rest => c :: unifyNewlines rest

end Stylesheet
