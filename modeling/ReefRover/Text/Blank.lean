/-!
This module contains white space: the characters that only keep others apart.
-/

namespace ReefRover

namespace Text

def isBlank (c : Char) : Bool :=
  ('\t' ≤ c && c ≤ '\r')
    || ('\u2000' ≤ c && c ≤ '\u200a')
    || [' ', '\u0085', '\u00a0', '\u1680', '\u2028', '\u2029', '\u202f', '\u205f',
      '\u3000'].contains c

def trimmed (text : String) : String :=
  String.ofList ((text.toList.dropWhile isBlank).reverse.dropWhile isBlank).reverse

end Text

end ReefRover
