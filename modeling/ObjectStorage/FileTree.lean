import ObjectStorage.LocalFile

/-! A tree of local files held as a value, and how a path is looked up in it. -/

namespace ObjectStorage

/-- Files and directories by their places, which are the names that lead to them from the root. The
working directory and all directories above it are there without an entry. -/
structure FileTree where
  /-- The place of the working directory. -/
  home : List ByteArray := []
  nodes : List (List ByteArray × FileNode) := []

namespace FileTree

/-- The longest name that a directory can hold, in bytes. -/
def maxName : Nat := 255

/-- The longest path that can be looked up, in bytes. -/
def maxPath : Nat := 4095

/-- The byte between the names of a path. -/
def slash : UInt8 := 0x2f

/-- The stretches of a path between its slashes. -/
def stretches (path : ByteArray) : List ByteArray :=
  (path.toList.splitOn slash).map fun name => ⟨name.toArray⟩

/-- The node at a place. -/
def node? (tree : FileTree) (place : List ByteArray) : Option FileNode :=
  if place.isPrefixOf tree.home then some .directory else tree.nodes.lookup place

/-- Places a node in a tree, along with the directories that lead to it. -/
def insert (tree : FileTree) (place : List ByteArray) (node : FileNode) : FileTree :=
  -- Directories that are there already stay as they are.
  let parents := ((List.range place.length).tail.map place.take).filter
    fun parent => (tree.node? parent).isNone
  { tree with nodes := (place, node) :: parents.map (·, .directory) ++ tree.nodes }

/-- Where a path starts: at the root if a slash stands in front, else at the working directory. -/
def origin (tree : FileTree) (path : ByteArray) : List ByteArray :=
  if path.toList.head? = some slash then [] else tree.home

/-- The place that a path spells out, for building a tree. -/
def placeOf (tree : FileTree) (path : String) : List ByteArray :=
  tree.origin path.toUTF8 ++ (stretches path.toUTF8).filter fun name => !name.isEmpty

/-- Follows the names of a path from a place. Every name but the last must lead to a directory, an
empty name or a dot stays where it is, and nothing lies above the root. -/
def follow (tree : FileTree) : List ByteArray → List ByteArray → Except FileFault FileNode
  | place, names =>
    match tree.node? place with
    | none => .error .missing
    | some node =>
      match names with
      | [] => .ok node
      | name :: rest =>
        -- More names are left, so this one has to be a directory.
        match node with
        | .file _ | .device => .error .notDirectory
        | .directory =>
          if name.isEmpty || name == ".".toUTF8 then follow tree place rest
          else if name == "..".toUTF8 then follow tree place.dropLast rest
          else if maxName < name.size then .error .nameTooLong
          else follow tree (place ++ [name]) rest

/-- What each path leads to. -/
def snapshot (tree : FileTree) : Snapshot := fun path =>
  let bytes := path.bytes
  -- These three are refused before any name is followed.
  if bytes.toList.contains 0 then .error .nulInName
  else if bytes.isEmpty then .error .missing
  else if maxPath < bytes.size then .error .nameTooLong
  else tree.follow (tree.origin bytes) (stretches bytes)

end FileTree

end ObjectStorage
