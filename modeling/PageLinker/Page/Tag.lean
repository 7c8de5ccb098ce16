import PageLinker.FirstSeen
import PageLinker.Naming

/-!
# Component tags of a page

A page refers to a component by a tag: an opening angle bracket and directly behind it a name
that starts with a Latin capital.  The search is lexical, so a tag inside a comment or a string
literal counts as well.
-/

namespace PageLinker

namespace Tag

/-- The name of the tag that opens just before the text: the longest run of symbols, if it
starts with a capital. -/
def opened (text : List Char) : Option String :=
  match text.takeWhile Naming.isSymbol with
  | [] => none
  | first :: rest => if first.isUpper then some (String.ofList (first :: rest)) else none

/-- The names of all tags, in the order of the text and with repetitions. -/
def occurrences : List Char → List String
  | [] => []
  | c :: rest =>
      if c == '<' then
        match opened rest with
        | some name => name :: occurrences rest
        | none => occurrences rest
      else occurrences rest

/-- The component names that a text refers to, each once, in order of first appearance. -/
def references (text : String) : List String :=
  FirstSeen.distinct (occurrences text.toList)

end Tag

end PageLinker
