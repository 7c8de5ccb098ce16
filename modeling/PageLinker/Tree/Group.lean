import PageLinker.Path

/-!
# Groups and the build tree

A build tree has two levels: a root directory, its groups (one directory each, a locale for
instance), and the page files of each group.
-/

namespace PageLinker

/-- A page file of a group: its base name and the name of the file. -/
structure Member where
  base : String
  filename : String
  deriving DecidableEq, Repr

/-- A directory immediately below the build root, with its page files. -/
structure Group where
  name : String
  path : Path
  members : List Member
  deriving DecidableEq

namespace Group

def memberNames (group : Group) : List String :=
  group.members.map (·.base)

def memberPaths (group : Group) : List Path :=
  group.members.map fun member => group.path.join member.filename

end Group

/-- A build tree as it was read, with its groups in the order of enumeration. -/
structure BuildTree where
  root : Path
  groups : List Group
  deriving DecidableEq

namespace BuildTree

def groupNames (tree : BuildTree) : List String :=
  tree.groups.map (·.name)

/-- The paths of all page files, group by group. -/
def memberPaths (tree : BuildTree) : List Path :=
  tree.groups.flatMap (·.memberPaths)

end BuildTree

end PageLinker
