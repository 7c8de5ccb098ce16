import PageLinker.Console

/-!
# A wide console

A console that breaks no line.  A mark stands in brackets and is not printed: `[bold]` begins a
style and `[/bold]` ends it, `[/]` the last one that began.  A backslash before a mark takes its
meaning away, and of two backslashes there one is printed.  A mark cannot end a style that has not
begun.
-/

namespace PageLinker

namespace Console

/-- Marks begin with this letter. -/
def beginsMark (letter : Char) : Bool :=
  ('a' ≤ letter && letter ≤ 'z') || letter == '#' || letter == '/' || letter == '@'

/-- The mark behind an opening bracket. -/
def markBehind (letters : List Char) : Option (List Char) :=
  let mark := letters.takeWhile fun letter => letter != '[' && letter != ']'
  if mark.head?.any beginsMark && (letters.drop mark.length).head? == some ']' then some mark
  else none

/-- The styles behind a mark, the innermost one first. -/
def stylesBehind (styles : List (List Char)) (mark : List Char) :
    Except Trouble (List (List Char)) :=
  match mark.takeWhile (· != '='), styles with
  | ['/'], [] => .error ⟨"closing tag '[/]' has nothing to close"⟩
  | ['/'], _ :: outer => .ok outer
  | '/' :: name, _ =>
      if name ∈ styles then .ok (styles.erase name)
      else .error ⟨s!"closing tag '[{String.ofList mark}]' doesn't match any open tag"⟩
  | name, _ => .ok (name :: styles)

/-- What is printed of marked text.  The first letters, so many, belong to a mark that has been
read.  Then so many backslashes wait for the letter behind them, and the given styles are on. -/
def printMarked : Nat → Nat → List (List Char) → List Char → Except Trouble (List Char)
  | _, waiting, _, [] => .ok (List.replicate waiting '\\')
  | passed + 1, waiting, styles, _ :: rest => printMarked passed waiting styles rest
  | 0, waiting, styles, letter :: rest =>
      if letter = '\\' then printMarked 0 (waiting + 1) styles rest
      else if letter = '[' then
        match markBehind rest with
        | none =>
            (printMarked 0 0 styles rest).map (List.replicate (waiting - 1) '\\' ++ letter :: ·)
        | some mark =>
            if waiting % 2 = 1 then
              (printMarked 0 0 styles rest).map (List.replicate (waiting / 2) '\\' ++ letter :: ·)
            else do
              let inside ← stylesBehind styles mark
              let printed ← printMarked (mark.length + 1) 0 inside rest
              .ok (List.replicate (waiting / 2) '\\' ++ printed)
      else (printMarked 0 0 styles rest).map (List.replicate waiting '\\' ++ letter :: ·)

def wide : Console where
  render
    | .verbatim text => .ok (text ++ "\n")
    | .marked text =>
        (printMarked 0 0 [] text.toList).map fun printed => String.ofList printed ++ "\n"

end Console

end PageLinker
