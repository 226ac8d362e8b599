import SchemaBridge.Members

/-!
This module contains trees of files as values.
-/

namespace SchemaBridge

/--
A file or a directory. A file without a text holds bytes that are not text.
-/
inductive FileTree where
  | file (text : Option String)
  | directory (entries : List (String × FileTree))

namespace FileTree

/--
What stands at the end of the given names.
-/
def get? (tree : FileTree) : List String → Option FileTree
  | [] => some tree
  | name :: rest =>
    match tree with
    | .file _ => none
    | .directory entries => (Members.get? entries name).bind fun entry => entry.get? rest

/--
Put `value` at the end of the given names. Names that lead nowhere become directories.
-/
def put (tree value : FileTree) : List String → FileTree
  | [] => value
  | name :: rest =>
    match tree with
    | .file _ => tree
    | .directory entries =>
      let entry := (Members.get? entries name).getD (.directory [])
      .directory (Members.insert entries name (entry.put value rest))

end FileTree

end SchemaBridge
