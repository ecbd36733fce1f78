import TaggedBlock.Bytes
import TaggedBlock.Files.Error

set_option autoImplicit false

namespace TaggedBlock

inductive Place where
  | folder
  | file (name : String) (slash : Bool)
  | inside (name : String)
  | outside
deriving DecidableEq, Repr

namespace Place

def split : List Char → List (List Char)
  | [] => [[]]
  | c :: path =>
    if c = '/' then [] :: split path
    else
      match split path with
      | [] => [[c]]
      | name :: names => (c :: name) :: names

def isIdle (name : List Char) : Bool := name = [] || name = ['.']

def isParent (name : List Char) : Bool := name = ['.', '.']

def ofNames (names : List (List Char)) : Place :=
  match names.dropWhile isIdle with
  | [] => .folder
  | name :: rest =>
    if isParent name then
      if rest.all fun name => isIdle name || isParent name then .folder else .outside
    else if rest.all List.isEmpty then .file (String.ofList name) !rest.isEmpty
    else .inside (String.ofList name)

def ofPath (path : String) : Place :=
  match path.toList with
  | [] => .outside
  | '/' :: path => if (split path).all isIdle then .folder else .outside
  | path => ofNames (split path)

def longestName : Nat := 255

end Place

abbrev Folder := List (String × Bytes)

namespace Folder

def content? (folder : Folder) (name : String) : Option Bytes :=
  match folder with
  | [] => none
  | entry :: folder => if entry.1 = name then some entry.2 else content? folder name

def insert (folder : Folder) (name : String) (content : Bytes) : Folder :=
  match folder with
  | [] => [(name, content)]
  | entry :: folder =>
    if entry.1 = name then (name, content) :: folder else entry :: insert folder name content

def read (folder : Folder) (path : String) : Except FileError Bytes :=
  match Place.ofPath path with
  | .folder => .error .isDirectory
  | .outside => .error .notFound
  | .inside name =>
    .error (if (folder.content? name).isSome then .notDirectory else .notFound)
  | .file name slash =>
    if Place.longestName < name.utf8ByteSize then .error .nameTooLong
    else
      match folder.content? name with
      | none => .error .notFound
      | some content => if slash then .error .notDirectory else .ok content

def write (folder : Folder) (path : String) (content : Bytes) : Except FileError Folder :=
  match Place.ofPath path with
  | .folder => .error .isDirectory
  | .outside => .error .notFound
  | .inside name =>
    .error (if (folder.content? name).isSome then .notDirectory else .notFound)
  | .file name slash =>
    if slash then .error .isDirectory
    else if Place.longestName < name.utf8ByteSize then .error .nameTooLong
    else .ok (folder.insert name content)

theorem content_insert (folder : Folder) (name asked : String) (content : Bytes) :
    (folder.insert name content).content? asked =
      if asked = name then some content else folder.content? asked := by
  induction folder with
  | nil => simp only [insert, content?, eq_comm]
  | cons entry folder ih =>
    by_cases hit : entry.1 = name
    · rw [insert, if_pos hit, content?, content?, hit]
      by_cases same : name = asked
      · rw [if_pos same, if_pos same.symm]
      · rw [if_neg same, if_neg (Ne.symm same), if_neg same]
    · rw [insert, if_neg hit, content?, content?, ih]
      by_cases same : entry.1 = asked
      · rw [if_pos same, if_pos same, if_neg fun again => hit (same.trans again)]
      · rw [if_neg same, if_neg same]

end Folder

end TaggedBlock
