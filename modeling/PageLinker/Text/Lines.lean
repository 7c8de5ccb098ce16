/-!
# Lines and line ends

Text is written with a line feed at the end of each line.  Read back from a disk it may hold
carriage returns, which count as line ends too.
-/

namespace PageLinker

namespace Lines

/-- Each line followed by a line feed. -/
def terminated : List String → String
  | [] => ""
  | line :: rest => line ++ "\n" ++ terminated rest

/-- Every line end, be it CR LF, CR or LF, becomes a line feed. -/
def unifyEnds : List Char → List Char
  | '\r' :: '\n' :: rest => '\n' :: unifyEnds rest
  | '\r' :: rest => '\n' :: unifyEnds rest
  | c :: rest => c :: unifyEnds rest
  | [] => []

/-- CR LF becomes a line feed; a carriage return that stands alone stays. -/
def joinPairs : List Char → List Char
  | '\r' :: '\n' :: rest => '\n' :: joinPairs rest
  | c :: rest => c :: joinPairs rest
  | [] => []

/-- The text with every line end turned into a line feed. -/
def unified (text : String) : String :=
  String.ofList (unifyEnds text.toList)

end Lines

end PageLinker
