import Symbolizer.Files.Tree

set_option autoImplicit false

namespace Symbolizer

namespace FileTree

def put (tree : FileTree) (location : Location) (content : Content) : FileTree :=
  { tree with
    nodes := ⟨location, content, none⟩ :: tree.nodes.filter fun node => node.location != location }

def replace (tree : FileTree) (location : Location) : Content → FileTree
  -- Only a file gives way, and only to a file.
  | .directory => tree
  | content =>
      match tree.node? location with
      | some ⟨_, .file _ _, none⟩ => tree.put location content
      | _ => tree

/-- What was made before a step fails stays. -/
def make (content : Content) : FileTree → Location → List Text → FileTree
  | tree, _, [] => tree
  | tree, location, step :: rest =>
      let part := if rest.isEmpty then content else .directory
      match tree.enter location step with
      | .ok next => make content (tree.replace next part) next rest
      | .error .notFound =>
          make content (tree.put (step :: location) part) (step :: location) rest
      | .error _ => tree

def steps (path : Text) : List Text :=
  (path.splitOn '/').filter fun component => component != [] && component != here

def lastComponent (path : Text) : Text :=
  ((path.splitOn '/').filter (· != [])).getLastD []

def writeFile (tree : FileTree) (path : Text) (bytes : List UInt8) : FileTree :=
  -- A file takes the name that ends the path, and no slash comes behind it.
  let named := (path.splitOn '/').getLast? == (steps path).getLast?
  if (fault? path).isSome then tree
  else if named then make (.file bytes) tree (tree.start path) (steps path)
  else make .directory tree (tree.start path) (steps path).dropLast

def makeDirectory (tree : FileTree) (path : Text) : FileTree :=
  -- A dot at the end of the path makes nothing, nor does the step before it.
  if (fault? path).isSome then tree
  else if lastComponent path = here then
    make .directory tree (tree.start path) (steps path).dropLast
  else make .directory tree (tree.start path) (steps path)

def remove (tree : FileTree) (path : Text) : FileTree :=
  -- A directory that the path does not name at its end is emptied and stays.
  let named := lastComponent path != here && lastComponent path != parent
  match tree.reach path with
  | .error _ => tree
  | .ok location =>
      let keeps (node : Node) : Bool :=
        !location.isSuffixOf node.location || !named && node.location == location
      { tree with nodes := tree.nodes.filter keeps }

end FileTree

end Symbolizer
