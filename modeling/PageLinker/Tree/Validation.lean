import PageLinker.Failure
import PageLinker.Tree.Group

/-!
# Naming policy over a group

A group is accepted when all its pages are well named.  The first bad page is reported together
with its group and its file.
-/

namespace PageLinker

namespace Group

def validateMembers (group : String) : List Member → Except Naming.Violation Unit
  | [] => .ok ()
  | member :: rest => do
      Naming.validate member.base (some group) (some member.filename)
      validateMembers group rest

/-- Check all pages of a group. -/
def validate (group : Group) : Except Naming.Violation Unit :=
  validateMembers group.name group.members

end Group

def validateGroups : List Group → Except Naming.Violation Unit
  | [] => .ok ()
  | group :: rest => do
      group.validate
      validateGroups rest

end PageLinker
