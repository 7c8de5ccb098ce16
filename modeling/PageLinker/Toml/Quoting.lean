/-!
# Texts of a TOML document

Texts stand between single marks, where every character is itself, or between double marks, where
a backslash starts an escape.  Three marks open a text of several lines.
-/

namespace PageLinker

namespace Toml

/-- A blank within a line. -/
def isBlank (c : Char) : Bool :=
  c == ' ' || c == '\t'

/-- A control character, which may stand neither in a text nor in a comment. -/
def isControl (c : Char) : Bool :=
  (c.toNat < 0x20 && c != '\t') || c.toNat == 0x7F

/-- The character may stand in a text, of one line or of several. -/
def isAllowedIn (severalLines : Bool) (c : Char) : Bool :=
  !isControl c || (severalLines && c == '\n')

def hexValue? (c : Char) : Option Nat :=
  if '0' ≤ c ∧ c ≤ '9' then some (c.toNat - '0'.toNat)
  else if 'a' ≤ c ∧ c ≤ 'f' then some (c.toNat - 'a'.toNat + 10)
  else if 'A' ≤ c ∧ c ≤ 'F' then some (c.toNat - 'A'.toNat + 10)
  else none

/-- The number that hexadecimal digits stand for, continuing from `number`. -/
def hexNumber? (number : Nat) : List Char → Option Nat
  | [] => some number
  | c :: rest =>
      match hexValue? c with
      | some digit => hexNumber? (16 * number + digit) rest
      | none => none

/-- The character with the given hexadecimal number.  Surrogates are not characters. -/
def numberedChar? (digits : List Char) : Option Char :=
  match hexNumber? 0 digits with
  | some number => if h : number.isValidChar then some (Char.ofNatAux number h) else none
  | none => none

/-- The character that a one-letter escape stands for. -/
def escapedChar? : Char → Option Char
  | 'b' => some '\x08'
  | 't' => some '\t'
  | 'n' => some '\n'
  | 'f' => some '\x0c'
  | 'r' => some '\r'
  | '"' => some '"'
  | '\\' => some '\\'
  | _ => none

/-- Whether blanks are being skipped behind a backslash at the end of a line. -/
inductive Skipping where
  | nothing
  | toLineEnd
  | toText
  deriving DecidableEq, Repr

/-- Put a character in front of a text that has been read. -/
def withChar (c : Char) : Option (List Char × List Char) → Option (List Char × List Char)
  | some (text, rest) => some (c :: text, rest)
  | none => none

/-- Put a character in front of a text, if there is a character. -/
def withChar? (c? : Option Char) (read : Option (List Char × List Char)) :
    Option (List Char × List Char) :=
  match c? with
  | some c => withChar c read
  | none => none

/-- Read a text up to its closing single mark. -/
def literalText : List Char → Option (List Char × List Char)
  | [] => none
  | c :: rest =>
      if c == '\'' then some ([], rest)
      else if isAllowedIn false c then withChar c (literalText rest)
      else none

/-- Read a text of several lines up to its three closing single marks. -/
def longLiteralText : List Char → Option (List Char × List Char)
  | [] => none
  | '\'' :: '\'' :: '\'' :: rest => some ([], rest)
  | c :: rest => if isAllowedIn true c then withChar c (longLiteralText rest) else none

/-- Read a text with escapes up to its closing double mark. -/
def escapedText : List Char → Option (List Char × List Char)
  | [] => none
  | '"' :: rest => some ([], rest)
  | '\\' :: 'u' :: a :: b :: c :: d :: rest =>
      withChar? (numberedChar? [a, b, c, d]) (escapedText rest)
  | '\\' :: 'U' :: a :: b :: c :: d :: e :: f :: g :: h :: rest =>
      withChar? (numberedChar? [a, b, c, d, e, f, g, h]) (escapedText rest)
  | '\\' :: letter :: rest => withChar? (escapedChar? letter) (escapedText rest)
  | c :: rest =>
      if c != '\\' && isAllowedIn false c then withChar c (escapedText rest) else none

/-- Read a text of several lines with escapes up to its three closing double marks.  A backslash
at the end of a line takes the line end and all blanks and line ends behind it away. -/
def longEscapedText (skipping : Skipping) : List Char → Option (List Char × List Char)
  | [] => none
  | c :: rest =>
      match skipping with
      | .toLineEnd =>
          if isBlank c then longEscapedText .toLineEnd rest
          else if c == '\n' then longEscapedText .toText rest
          else none
      | _ =>
          if skipping = .toText ∧ (isBlank c || c == '\n') then longEscapedText .toText rest
          else if c == '"' then
            match rest with
            | '"' :: '"' :: after => some ([], after)
            | _ => withChar c (longEscapedText .nothing rest)
          else if c == '\\' then
            match rest with
            | '\n' :: after => longEscapedText .toText after
            | ' ' :: after => longEscapedText .toLineEnd after
            | '\t' :: after => longEscapedText .toLineEnd after
            | 'u' :: a :: b :: c :: d :: after =>
                withChar? (numberedChar? [a, b, c, d]) (longEscapedText .nothing after)
            | 'U' :: a :: b :: c :: d :: e :: f :: g :: h :: after =>
                withChar? (numberedChar? [a, b, c, d, e, f, g, h])
                  (longEscapedText .nothing after)
            | letter :: after =>
                withChar? (escapedChar? letter) (longEscapedText .nothing after)
            | [] => none
          else if isAllowedIn true c then withChar c (longEscapedText .nothing rest)
          else none

/-- A text of several lines together with up to two marks that stand before its closing three,
which are the first three of the run in the order of reading. -/
def withClosingMarks (mark : Char) (text rest : List Char) : String × List Char :=
  let extra := (rest.take 2).takeWhile (· == mark)
  (String.ofList (text ++ extra), rest.drop extra.length)

/-- A line feed directly behind the opening marks does not count. -/
def dropFirstLineFeed : List Char → List Char
  | '\n' :: rest => rest
  | text => text

/-- Read a text of one line with its opening mark. -/
def shortText : List Char → Option (String × List Char)
  | '\'' :: rest => (literalText rest).map fun read => (String.ofList read.1, read.2)
  | '"' :: rest => (escapedText rest).map fun read => (String.ofList read.1, read.2)
  | _ => none

def anyText : List Char → Option (String × List Char)
  | '\'' :: '\'' :: '\'' :: rest =>
      (longLiteralText (dropFirstLineFeed rest)).map fun read =>
        withClosingMarks '\'' read.1 read.2
  | '"' :: '"' :: '"' :: rest =>
      (longEscapedText .nothing (dropFirstLineFeed rest)).map fun read =>
        withClosingMarks '"' read.1 read.2
  | text => shortText text

end Toml

end PageLinker
