/-!
# Consoles

A console prints lines, which are marked up or verbatim.  What it makes of a line is its own affair:
it may break a long one, takes the marks in a marked one for styles, and refuses a line whose marks
it cannot read.  Nothing is printed behind a line that is refused.
-/

namespace PageLinker

namespace Console

/-- A line as it is handed to a console. -/
inductive Line where
  /-- The line can have marks for styles in it. -/
  | marked (text : String)
  | verbatim (text : String)
  deriving DecidableEq, Repr

/-- Why a console refuses a line. -/
structure Trouble where
  reason : String
  deriving DecidableEq, Repr

end Console

/-- A console, given by what it prints of a line, the line end included. -/
structure Console where
  render : Console.Line → Except Console.Trouble String

namespace Console

variable (console : Console)

/-- What is printed of lines, and why it ends early if it does. -/
def renderAll : List Line → String × Option Trouble
  | [] => ("", none)
  | line :: rest =>
      match console.render line with
      | .error trouble => ("", some trouble)
      | .ok text => (text ++ (renderAll rest).1, (renderAll rest).2)

/-- The line comes out as this text. -/
def Shows (line : Line) (text : String) : Prop :=
  console.render line = .ok (text ++ "\n")

instance (line : Line) (text : String) : Decidable (console.Shows line text) :=
  match rendered : console.render line with
  | .ok printed => decidable_of_iff (printed = text ++ "\n") (by simp [Shows, rendered])
  | .error _ => isFalse (by simp [Shows, rendered])

end Console

end PageLinker
