/-!
This module contains texts of several lines: how one is set apart as a whole by indenting all of
its lines but the first, and how one is taken apart again.
-/

namespace ReefRover

namespace Text

def indented (width : Nat) (text : String) : String :=
  String.ofList <| text.toList.flatMap fun c =>
    if c == '\n' then c :: List.replicate width ' ' else [c]

def chomped (line : List Char) : List Char :=
  match line.getLast? with
  | some '\r' => line.dropLast
  | _ => line

/--
The lines of a text. A line break ends the line before it, with a return that stands there, and
begins none by itself.
-/
def lines (text : String) : List String :=
  let parts := text.toList.splitOn '\n'
  let last := parts.getLast?.getD []
  let ended := parts.dropLast.map chomped
  (if last.isEmpty then ended else ended ++ [last]).map String.ofList

end Text

end ReefRover
