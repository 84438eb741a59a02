import CodeIndex.Scan.Rules
import CodeIndex.Scan.Sources

/-!
# Walking through folders

The program's own walk goes through the entries of a folder in their order. What exclusions, the
rules in the folders and the hidden names leave out is passed over with all that lies in it.
-/

namespace CodeIndex

/-- The rules of exclusions, or the first line that holds no proper pattern. -/
def exclusionRules (lines : List String) : Except IgnoreError (List IgnoreRule) :=
  (lines.mapM (IgnoreRule.ofLine? false)).map (·.filterMap id)

def isHidden (name : String) : Bool := name.startsWith "."

/-- A file or folder below the root is left out: by an exclusion, by a rule, or because it is hidden
and no rule keeps it. -/
def leavesOut (exclusions : List IgnoreRule) (around : Surroundings) (names : List String)
    (name : String) (isFolder : Bool) : Bool :=
  match (IgnoreRule.verdict exclusions (names ++ [name]) isFolder).invert with
  | .leaveOut => true
  | .keep => false
  | .silent => match around.verdict name isFolder with
    | .leaveOut => true
    | .keep => false
    | .silent => isHidden name

mutual

/-- The files in a file or folder that is not left out. -/
def visit (exclusions : List IgnoreRule) (around : Surroundings) (names : List String)
    (name : String) : DiskNode → List (List String)
  | .file _ => [names ++ [name]]
  | .folder es =>
    visitAll exclusions (around.enter name (.folder es)) (names ++ [name]) es

/-- The files in the entries of a folder. -/
def visitAll (exclusions : List IgnoreRule) (around : Surroundings) (names : List String) :
    List (String × DiskNode) → List (List String)
  | [] => []
  | (name, node) :: rest =>
    (if leavesOut exclusions around names name node.isFolder then []
      else visit exclusions around names name node) ++ visitAll exclusions around names rest

end

/-- The files below a root that is a folder. -/
def walkBelow (disk : Disk) (root : String) (exclusions : List IgnoreRule) : List (List String) :=
  match disk.place root, disk.node root with
  | .ok place, .ok (.folder es) =>
    let around := (FolderRules.ofFolder (.folder es), []) :: Surroundings.around disk.root place
    visitAll exclusions around [] es
  | _, _ => []

/-- The walk that the program itself takes. -/
instance (priority := low) FolderWalk.own : FolderWalk where
  files disk root lines := ((exclusionRules lines).mapError (·.message)).map (walkBelow disk root)

end CodeIndex
