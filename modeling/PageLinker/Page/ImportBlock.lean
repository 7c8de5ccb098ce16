import PageLinker.Page.Tag
import PageLinker.Text.Lines

/-!
# Import block of a page

A page is completed by a block of import lines in front of it: one line for the view library,
then one line for each component that the page refers to.  `Fragment` belongs to the library and
is bound on its line.
-/

namespace PageLinker

namespace ImportBlock

/-- The component that comes with the view library. -/
def fragment : String := "Fragment"

/-- The library line of a page without fragments. -/
def plainHeader : String := "import React from 'react'"

/-- The library line of a page with fragments. -/
def fragmentHeader : String := "import React, \x7b Fragment \x7d from 'react'"

/-- Where components stand, seen from a page two levels below them. -/
def componentRoot : String := "../../"

def componentLine (name : String) : String :=
  "import " ++ name ++ " from '" ++ componentRoot ++ name ++ "'"

/-- The library line that a list of references asks for. -/
def header (references : List String) : String :=
  if references.contains fragment then fragmentHeader else plainHeader

/-- The lines of the block for a list of references. -/
def lines (references : List String) : List String :=
  header references :: (references.filter (· != fragment)).map componentLine

/-- The block that a text needs, each line ended by a line feed. -/
def block (text : String) : String :=
  Lines.terminated (lines (Tag.references text))

/-- The text with its block in front. -/
def complete (text : String) : String :=
  block text ++ text

/-- The text opens with the given line and its line feed. -/
def opensWith (line : String) (text : String) : Bool :=
  (line ++ "\n").toList.isPrefixOf text.toList

/-- The text already opens with a library line. -/
def isPresent (text : String) : Bool :=
  opensWith plainHeader text || opensWith fragmentHeader text

end ImportBlock

end PageLinker
