import PageLinker.Toml.Calendar
import PageLinker.Toml.Table

/-!
# Statements of a TOML document

A document is a sequence of lines.  A line opens a table, starts a new table of a list, gives a
key a value, or is empty; any line may end in a comment.

Reading takes a bound on the number of steps.  Of two nested steps at least one consumes a
character, so a bound above twice the length of the text is never reached.
-/

namespace PageLinker

namespace Toml

/-- What one line of a document says. -/
inductive Statement where
  | openTable (key : Key)
  | startTable (key : Key)
  | assign (key : Key) (value : Value)

def skipBlanks (text : List Char) : List Char :=
  text.dropWhile isBlank

/-- The rest of a text behind its comment, if it starts with one.  The line end stays. -/
def skipComment : List Char → Option (List Char)
  | '#' :: rest =>
      if (rest.takeWhile (· != '\n')).any isControl then none else some (rest.dropWhile (· != '\n'))
  | text => some text

/-- Leave out blanks, line ends and comments in front, as they may stand between the items of a
list. -/
def skipBetweenItems : Nat → List Char → Option (List Char)
  | 0, _ => none
  | bound + 1, text =>
      match text.dropWhile (fun c => isBlank c || c == '\n') with
      | '#' :: rest => (skipComment ('#' :: rest)).bind (skipBetweenItems bound)
      | other => some other

/-- A character of a name that needs no quotation marks. -/
def isBareNameChar (c : Char) : Bool :=
  c.isAlphanum || c == '-' || c == '_'

def name (text : List Char) : Option (String × List Char) :=
  let bare := text.takeWhile isBareNameChar
  if bare.isEmpty then shortText text else some (String.ofList bare, text.dropWhile isBareNameChar)

/-- Read a key, that is, names with points between them, and the blanks behind it. -/
def key : Nat → List Char → Option (Key × List Char)
  | 0, _ => none
  | bound + 1, text =>
      match name text with
      | none => none
      | some (first, rest) =>
          match skipBlanks rest with
          | '.' :: more =>
              (key bound (skipBlanks more)).map fun read => (first :: read.1, read.2)
          | other => some ([first], other)

/-- Read a scalar that is not a text. -/
def plainScalar : List Char → Option (Value × List Char)
  | 't' :: 'r' :: 'u' :: 'e' :: rest => some (.boolean true, rest)
  | 'f' :: 'a' :: 'l' :: 's' :: 'e' :: rest => some (.boolean false, rest)
  | text =>
      match moment text with
      | some (point, rest) => some (.moment point, rest)
      | none => number text

/-- Add a field to an inline table.  What an earlier field closed cannot be added to. -/
def addInline (closed : List Key) (key : Key) (value : Value) (fields : Fields) :
    Option Fields :=
  if key.isWithin closed then none
  else fields.change false (Fields.add (key.getLast?.getD "") value) key.dropLast

mutual

def value : Nat → List Char → Option (Value × List Char)
  | 0, _ => none
  | bound + 1, text =>
      match text with
      | '[' :: rest =>
          match skipBetweenItems bound rest with
          | some (']' :: after) => some (.array [], after)
          | some first => (items bound first).map fun read => (.array read.1, read.2)
          | none => none
      | '\x7b' :: rest =>
          match skipBlanks rest with
          | '\x7d' :: after => some (.table [], after)
          | first => (inlineFields bound [] [] first).map fun read => (.table read.1, read.2)
      | '"' :: _ => (anyText text).map fun read => (.text read.1, read.2)
      | '\'' :: _ => (anyText text).map fun read => (.text read.1, read.2)
      | _ => plainScalar text

/-- Read the items of a list up to its closing bracket. -/
def items : Nat → List Char → Option (List Value × List Char)
  | 0, _ => none
  | bound + 1, text =>
      match value bound text with
      | none => none
      | some (item, rest) =>
          match skipBetweenItems bound rest with
          | some (']' :: after) => some ([item], after)
          | some (',' :: more) =>
              match skipBetweenItems bound more with
              | some (']' :: after) => some ([item], after)
              | some next => (items bound next).map fun read => (item :: read.1, read.2)
              | none => none
          | _ => none

/-- Read the fields of an inline table up to its closing brace, after the given fields. -/
def inlineFields : Nat → List Key → Fields → List Char → Option (Fields × List Char)
  | 0, _, _, _ => none
  | bound + 1, closed, fields, text =>
      match assignment bound text with
      | none => none
      | some (key, item, rest) =>
          match addInline closed key item fields, skipBlanks rest with
          | some extended, '\x7d' :: after => some (extended, after)
          | some extended, ',' :: more =>
              inlineFields bound (if item.isContainer then key :: closed else closed) extended
                (skipBlanks more)
          | _, _ => none

/-- Read a key, an equals sign and a value. -/
def assignment : Nat → List Char → Option (Key × Value × List Char)
  | 0, _ => none
  | bound + 1, text =>
      match key bound text with
      | some (key, '=' :: rest) =>
          (value bound (skipBlanks rest)).map fun read => (key, read.1, read.2)
      | _ => none

end

def statement (bound : Nat) (text : List Char) : Option (Statement × List Char) :=
  match text with
  | '[' :: '[' :: rest =>
      match key bound (skipBlanks rest) with
      | some (key, ']' :: ']' :: after) => some (.startTable key, after)
      | _ => none
  | '[' :: rest =>
      match key bound (skipBlanks rest) with
      | some (key, ']' :: after) => some (.openTable key, after)
      | _ => none
  | _ => (assignment bound text).map fun read => (.assign read.1 read.2.1, read.2.2)

/-- The rest of a text behind the end of its line, which may hold blanks and a comment.  At the
end of the text nothing is left. -/
def skipLineEnd (text : List Char) : Option (List Char) :=
  match skipComment (skipBlanks text) with
  | some ('\n' :: rest) => some rest
  | some [] => some []
  | _ => none

def statements : Nat → List Char → Option (List Statement)
  | 0, _ => none
  | bound + 1, text =>
      match skipBlanks text with
      | [] => some []
      | c :: rest =>
          if c == '\n' || c == '#' then
            (skipLineEnd (c :: rest)).bind (statements bound)
          else
            match statement bound (c :: rest) with
            | none => none
            | some (first, after) =>
                ((skipLineEnd after).bind (statements bound)).map (first :: ·)

end Toml

end PageLinker
