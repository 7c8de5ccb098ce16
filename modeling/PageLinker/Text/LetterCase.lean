import PageLinker.Text.LetterCase.Table

/-!
# Lower-casing

A text is put in lower case letter by letter, with the full mapping of Unicode 14.  Two letters
need more than the table: `İ` becomes two characters, and `Σ` has a form of its own at the end of
a word.  So lower-casing can change the length of a text, and it does not distribute over
concatenation.
-/

namespace PageLinker

namespace LetterCase

/-- The letter lies in the range and on its stride. -/
def LoweredRange.holds (range : LoweredRange) (c : Char) : Bool :=
  range.first ≤ c.toNat && c.toNat ≤ range.last && (c.toNat - range.first) % range.stride == 0

/-- A letter with a case that counts as the neighbour of another letter. -/
def isCased (c : Char) : Bool :=
  if c.toNat < 128 then c.isAlpha else casedRanges.holds c

/-- A character that is passed over in the search for a neighbouring letter. -/
def isCaseIgnorable (c : Char) : Bool :=
  if c.toNat < 128 then c == '\'' || c == '.' || c == ':' || c == '^' || c == '`'
  else caseIgnorableRanges.holds c

/-- The lower case of one character, regardless of its neighbours. -/
def lowerChar (c : Char) : List Char :=
  if c.toNat < 128 then [c.toLower]
  else if c == 'İ' then ['i', '\u0307']
  else
    match loweredRanges.find? (·.holds c) with
    | some range => [Char.ofNat (c.toNat + range.distance).toNat]
    | none => [c]

/-- The next character that is not passed over is a letter with a case. -/
def startsCased (text : List Char) : Bool :=
  ((text.dropWhile isCaseIgnorable).head?.map isCased).getD false

/-- Lower case of the rest of a text.  `afterCased` says whether the nearest character before it
that is not passed over is a letter with a case.  `Σ` ends a word after such a letter unless
another one follows. -/
def lowerFrom (afterCased : Bool) : List Char → List Char
  | [] => []
  | c :: rest =>
      let lowered :=
        if c == 'Σ' then [if afterCased && !startsCased rest then 'ς' else 'σ'] else lowerChar c
      lowered ++ lowerFrom (if isCaseIgnorable c then afterCased else isCased c) rest

/-- The lower case of a sequence of characters. -/
def lowerChars (text : List Char) : List Char :=
  lowerFrom false text

def lower (text : String) : String :=
  String.ofList (lowerChars text.toList)

end LetterCase

end PageLinker
