import WrapperGen.Host
import WrapperGen.Text.Utf8

/-!
Trees of files held in memory. A path is followed component by component from the root; every
component, an idle one too, needs a directory to stand in. Nothing but `write`, `makeDirectory` and
`remove` gives a tree that differs.
-/

namespace WrapperGen

/-- A location in a tree: the names that lead to it, innermost first. -/
abbrev Location := List Text

inductive Node
  | directory
  | file (bytes : List UInt8)
deriving DecidableEq, Repr, Inhabited

/-- A tree of files. Of several entries for a location the first one counts. -/
structure FileTree where
  entries : List (Location × Node) := []
deriving DecidableEq, Repr, Inhabited

namespace FileTree

/-- What is at a location, if anything. The root is always a directory. -/
def node? (tree : FileTree) : Location → Option Node
  | [] => some .directory
  | name :: names => tree.entries.lookup (name :: names)

def put (tree : FileTree) (location : Location) (node : Node) : FileTree :=
  ⟨(location, node) :: tree.entries⟩

/-- A node that is put at a location is found there, and nothing else changes. -/
theorem node?_put (tree : FileTree) (location other : Location) (node : Node)
    (inner : location ≠ []) :
    (tree.put location node).node? other =
      if other = location then some node else tree.node? other := by
  cases other with
  | nil => simp [node?, Ne.symm inner]
  | cons name names =>
    by_cases same : name :: names = location
    · simp [node?, put, same]
    · simp [node?, put, List.lookup_cons, beq_eq_false_iff_ne.mpr same, same]

/-- The files of the tree, each once. -/
def files (tree : FileTree) : List (Location × List UInt8) :=
  (tree.entries.map (·.1)).eraseDups.filterMap fun location =>
    match tree.node? location with
    | some (.file bytes) => some (location, bytes)
    | _ => none

/-- Whether a name leads to the location it stands in or to the one above. -/
def isDots (name : Text) : Bool := Path.isIdle name || name = ".."

/-- The bytes that a name may have. -/
def nameLimit : Nat := 255

/-- The bytes that a path may have. -/
def pathLimit : Nat := 4095

/-- The location to which names lead from another location. -/
def walk (tree : FileTree) (location : Location) : List Text → Except Fault Location
  | [] => .ok location
  | name :: names =>
    if tree.node? location ≠ some .directory then .error .notDirectory
    else if Path.isIdle name then walk tree location names
    else if name = ".." then walk tree location.tail names
    else if nameLimit < name.byteLength then .error .nameTooLong
    else if (tree.node? (name :: location)).isNone then .error .notFound
    else walk tree (name :: location) names

/-- The components of a path that can be followed. -/
def components (path : Path) : Except Fault (List Text) :=
  if '\x00' ∈ path.text then .error .nulInName
  else if path.text.isEmpty then .error .notFound
  else if pathLimit < path.text.byteLength then .error .nameTooLong
  else .ok path.components

/-- The location to which a path leads. -/
def locate (tree : FileTree) (path : Path) : Except Fault Location := do
  tree.walk [] (← components path)

/-- The directory in which a path ends and the last name in it; slashes at the end are ignored. -/
def destination (tree : FileTree) (path : Path) : Except Fault (Location × Text) := do
  match (← components path).reverse.dropWhile List.isEmpty with
  | [] => return ([], [])
  | name :: before =>
    let location ← tree.walk [] before.reverse
    if tree.node? location = some .directory then return (location, name) else throw .notDirectory

def isPresent (tree : FileTree) (path : Path) : Bool := (tree.locate path).isOk

def isDirectory (tree : FileTree) (path : Path) : Bool :=
  match tree.locate path with
  | .ok location => tree.node? location = some .directory
  | .error _ => false

/-- The bytes of the file to which a path leads. -/
def read (tree : FileTree) (path : Path) : Except Fault (List UInt8) := do
  match tree.node? (← tree.locate path) with
  | some (.file bytes) => return bytes
  | some .directory => throw .isDirectory
  | none => throw .notFound

/-- The tree with bytes written to a path, over those of a file that is there. -/
def write (tree : FileTree) (path : Path) (bytes : List UInt8) : Except Fault FileTree := do
  let (location, name) ← tree.destination path
  if isDots name || path.text.getLast? = some '/' then throw .isDirectory
  else if nameLimit < name.byteLength then throw .nameTooLong
  else if tree.node? (name :: location) = some .directory then throw .isDirectory
  else return tree.put (name :: location) (.file bytes)

def makeDirectory (tree : FileTree) (path : Path) : Except Fault FileTree := do
  let (location, name) ← tree.destination path
  if isDots name then throw .alreadyExists
  else if nameLimit < name.byteLength then throw .nameTooLong
  else if (tree.node? (name :: location)).isSome then throw .alreadyExists
  else return tree.put (name :: location) .directory

/-- The tree without what is at a path and below it. -/
def remove (tree : FileTree) (path : Path) : Except Fault FileTree := do
  let location ← tree.locate path
  return ⟨tree.entries.filter fun (other, _) => !location.isSuffixOf other⟩

end FileTree

end WrapperGen
