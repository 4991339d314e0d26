/-!
Lines of a text. A line ends at a line feed, and a carriage return directly before the line feed
belongs to the line end. Text after the last line feed is a line unless it is empty.
-/
namespace Grok.Text

def lines : List Char → List (List Char)
  | [] => []
  | '\r' :: '\n' :: r => [] :: lines r
  | '\n' :: r => [] :: lines r
  | c :: r =>
    match lines r with
    | [] => [[c]]
    | l :: ls => (c :: l) :: ls

end Grok.Text
