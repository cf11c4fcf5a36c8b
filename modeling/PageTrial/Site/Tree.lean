import PageTrial.Text.Cut

/-!
# The files of a host

What a page server can find on its host: a tree of files and directories, and paths into it. Paths
set out from the root of the tree, from the working directory, or from someone's home directory. All
of these belong to the host, and the program knows nothing about them beforehand.
-/

set_option autoImplicit false

namespace PageTrial.Site

/-! ## Paths -/

/-- A path: how many slashes it begins with, and the names on it. -/
structure Path where
  /-- No slash for a relative path. Two slashes are kept apart from one; more count as one. -/
  slashes : Nat
  names : List String
  deriving Repr, DecidableEq

namespace Path

/-- The path that a text means. Doubled slashes and single points mean nothing. -/
def ofText (text : String) : Path :=
  let leading := (text.toList.takeWhile (· = '/')).length
  { slashes := if 2 < leading then 1 else leading
    names := (Text.split '/' text).filter fun name => name ≠ "" && name ≠ "." }

/-- The account whose home directory a path sets out from: a relative path may begin with a tilde
and an account's name, or with a tilde alone for one's own. -/
def account? (path : Path) : Option String :=
  if path.slashes = 0 then
    match path.names.head?.map String.toList with
    | some ('~' :: account) => some (String.ofList account)
    | _ => none
  else none

def text (path : Path) : String :=
  let shown :=
    String.ofList (List.replicate path.slashes '/') ++ String.intercalate "/" path.names
  if shown.isEmpty then "." else shown

/-- The path of something in a directory. -/
def child (directory : Path) (name : String) : Path :=
  { directory with names := directory.names ++ [name] }

end Path

/-! ## Trees -/

/-- A regular file. -/
structure File where
  content : List UInt8
  /-- When it was last changed, in nanoseconds since the beginning of 1970. -/
  modified : Nat := 0
  deriving Repr, DecidableEq

/-- What a path can lead to. -/
inductive Node where
  | file (file : File)
  | directory
  deriving Repr, DecidableEq

/-- The files and directories of a host, by the names that lead to them from its root. The
directories on the way to an entry need no entries of their own. -/
structure Tree where
  entries : List (List String × Node) := []
  /-- The directory from which relative paths set out. -/
  workdir : List String := []
  /-- The home directories of the accounts. The empty name means one's own. -/
  homes : List (String × List String) := []
  deriving Repr

namespace Tree

/-- How a walk along a path can fail. -/
inductive Stop where
  | missing
  | nameTooLong
  deriving Repr, DecidableEq

/-- The most bytes that a name may have. -/
def nameLimit : Nat := 255

/-- The most bytes that a path may have. -/
def pathLimit : Nat := 4095

def node? (tree : Tree) (names : List String) : Option Node :=
  if names.isEmpty then some .directory
  else
    match tree.entries.lookup names with
    | some node => some node
    | none =>
      if tree.entries.any fun entry => names.isPrefixOf entry.1 then some .directory else none

def step (tree : Tree) (place : List String) (name : String) : Except Stop (List String) :=
  if tree.node? place ≠ some .directory then .error .missing
  else if nameLimit < name.utf8ByteSize then .error .nameTooLong
  else if name = ".." then .ok place.dropLast
  else if (tree.node? (place ++ [name])).isSome then .ok (place ++ [name])
  else .error .missing

/-- Where a path leads. A path with a zero character in it leads nowhere, however long it is. -/
def walk (tree : Tree) (path : Path) : Except Stop (List String) :=
  if path.names.any (·.toList.contains '\x00') then .error .missing
  else if pathLimit < path.text.utf8ByteSize then .error .nameTooLong
  else path.names.foldlM tree.step (if path.slashes = 0 then tree.workdir else [])

/-- What a path leads to. -/
def find (tree : Tree) (path : Path) : Except Stop Node := do
  let place ← tree.walk path
  (tree.node? place).elim (.error .missing) .ok

/-- Where the directory is to which a path leads, if it leads to one. -/
def directory? (tree : Tree) (path : Path) : Except Stop (List String) := do
  let place ← tree.walk path
  if tree.node? place = some .directory then return place else .error .missing

end Tree

end PageTrial.Site
