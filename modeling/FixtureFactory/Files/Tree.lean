/-!
# Trees of files

A directory is a list of named trees, in no particular order.  A file holds text, or bytes that
are no text; the engine reads and writes text only, so of the others it is enough to know that
they are there and whether they are still the same.
-/

namespace FixtureFactory
namespace Files

/-- What a file holds. -/
inductive Content where
  | text (text : String)
  /-- Bytes that are not the encoding of a text. -/
  | bytes (bytes : List UInt8)
  deriving Inhabited, DecidableEq, Repr

/-- The content with the given bytes. -/
def Content.ofBytes (bytes : List UInt8) : Content :=
  match String.fromUTF8? ⟨bytes.toArray⟩ with
  | some decoded => .text decoded
  | none => .bytes bytes

/-- A file, or a directory with its entries. -/
inductive FileTree where
  | file (content : Content)
  | directory (entries : List (String × FileTree))
  deriving Inhabited, Repr

namespace FileTree

/-- The directory without entries. -/
def empty : FileTree := directory []

/-- Whether the tree is a directory. -/
def isDirectory : FileTree → Bool
  | directory _ => true
  | file _ => false

/-- What the tree holds, if it is a file. -/
def content? : FileTree → Option Content
  | directory _ => none
  | file content => some content

/-- The entry of a name. -/
def entry? (name : String) : FileTree → Option FileTree
  | directory entries => entries.lookup name
  | file _ => none

/-- The tree at the end of a path of names. -/
def at? : List String → FileTree → Option FileTree
  | [], t => some t
  | name :: path, t => t.entry? name >>= at? path

/-- The entries with another tree under a name, new or not. -/
def putEntry (name : String) (t : FileTree) : List (String × FileTree) → List (String × FileTree)
  | [] => [(name, t)]
  | (n, u) :: rest => if n == name then (n, t) :: rest else (n, u) :: putEntry name t rest

/-- The entries of a directory; a file has none. -/
def entries : FileTree → List (String × FileTree)
  | directory entries => entries
  | file _ => []

/-- The tree with another tree at the end of a path of names.  Directories that are missing on
the way are made, and a file on the way gives place to a directory. -/
def put : FileTree → List String → FileTree → FileTree
  | _, [], new => new
  | t, name :: path, new =>
      directory (putEntry name (put ((t.entries.lookup name).getD empty) path new) t.entries)

mutual

/-- Everything in a tree, by its path of names: the directories, with nothing, and the files, with
their contents.  The tree itself is not listed. -/
def listing (path : List String) : FileTree → List (List String × Option Content)
  | file _ => []
  | directory entries => listingOf path entries

/-- Everything in the entries of a directory. -/
def listingOf (path : List String) :
    List (String × FileTree) → List (List String × Option Content)
  | [] => []
  | (name, t) :: rest =>
      (path ++ [name], t.content?) :: listing (path ++ [name]) t ++ listingOf path rest

end

/-- The text of a listed path; that of a directory ends in a slash. -/
def listedText (item : List String × Option Content) : String :=
  "/".intercalate item.1 ++ (if item.2.isNone then "/" else "")

/-- What is new or different in a tree, in the order of the paths. -/
def changes (before after : FileTree) : List (String × Option Content) :=
  let old := before.listing []
  let new := (after.listing []).filter fun item => !old.contains item
  (new.map fun item => (listedText item, item.2)).mergeSort fun a b => decide (a.1 ≤ b.1)

end FileTree
end Files
end FixtureFactory
