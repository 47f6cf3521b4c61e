import QueryFlow.Query.References
import QueryFlow.Text.Parts

/-!
A small tree of files, given as a list, and reading texts from it. Files hold bytes; a text is read
as UTF-8, and all line ends become line feeds.
-/

namespace QueryFlow

inductive Entry where
  | file (bytes : ByteArray)
  | directory

abbrev Files := List (String × Entry)

/-- Why a text cannot be read. -/
inductive ReadFault where
  | missing
  | directory
  | encoding
  /-- The path, or a name in it, is longer than a file system allows. -/
  | tooLong
  /-- The path holds a null character. -/
  | nullCharacter
  deriving Repr, DecidableEq

namespace Path

/-- The parts of a path; empty parts and single dots do not count. -/
def parts (path : String) : List String :=
  ((Text.parts '/' path).filter fun p => !p.isEmpty && p != ".")

/-- The start of a path that does not begin where the tree stands. Two slashes are a start of their
own, and more than two are one. -/
def root (path : String) : String :=
  if path.startsWith "//" && !path.startsWith "///" then "//"
  else if path.startsWith "/" then "/" else ""

/-- The path with only the parts that count. -/
def normal (path : String) : String :=
  let root := root path
  let text := root ++ "/".intercalate (parts path)
  if text.isEmpty then "." else text

/-- The last part of a path; a path without parts has none. -/
def lastName (path : String) : String := (parts path).getLast?.getD ""

/-- The ending of a name from its last dot on. A dot at the start or at the end begins no ending. -/
def ending (path : String) : String :=
  let name := (lastName path).toList
  let behind := (name.reverse.takeWhile (· != '.')).reverse
  let before := name.length - behind.length
  if before ≤ 1 || behind.isEmpty then "" else String.ofList ('.' :: behind)

end Path

namespace Files

/-- A place in the tree, by the names on the way to it, or a place outside. -/
inductive Place where
  | inside (names : List String)
  | outside
  deriving Repr, DecidableEq

/-- The longest name, in bytes. -/
def nameLimit : Nat := 255

/-- The longest path, in bytes. -/
def pathLimit : Nat := 4095

/-- What stands at a place inside the tree. The place where the tree stands and the directories that
hold files are there too. -/
def at? (files : Files) (names : List String) : Option Entry :=
  match files.find? fun (p, _) => Path.parts p == names with
  | some (_, e) => some e
  | none =>
    if names.isEmpty || files.any fun (p, _) => names.isPrefixOf (Path.parts p) then some .directory
    else none

/-- Go one part of a path further. Two dots lead to the directory above. -/
def enter (files : Files) (place : Place) (part : String) : Except ReadFault Place :=
  match place with
  | .outside =>
    if part == ".." then .ok .outside
    else if part.utf8ByteSize > nameLimit then .error .tooLong else .error .missing
  | .inside names =>
    match files.at? names with
    | some .directory =>
      if part == ".." then .ok (if names.isEmpty then .outside else .inside names.dropLast)
      else if part.utf8ByteSize > nameLimit then .error .tooLong
      else if (files.at? (names ++ [part])).isSome then .ok (.inside (names ++ [part]))
      else .error .missing
    | _ => .error .missing

/-- What stands at a path: the entry that is listed under it, or else what the parts of the path
lead to. -/
def entry (files : Files) (path : String) : Except ReadFault Entry :=
  if path.toList.contains (Char.ofNat 0) then .error .nullCharacter
  else if (Path.normal path).utf8ByteSize > pathLimit then .error .tooLong
  else
    match files.find? fun (p, _) => Path.normal p == Path.normal path with
    | some (_, e) => .ok e
    | none =>
      let start : Place := if (Path.root path).isEmpty then .inside [] else .outside
      match (Path.parts path).foldlM (enter files) start with
      | .error e => .error e
      | .ok .outside => .ok .directory
      | .ok (.inside names) =>
        match files.at? names with
        | some e => .ok e
        | none => .error .missing

/-- A text with line feeds for all line ends. -/
def plainLines : List Char → List Char
  | '\r' :: '\n' :: r => '\n' :: plainLines r
  | '\r' :: r => '\n' :: plainLines r
  | c :: r => c :: plainLines r
  | [] => []

def text (files : Files) (path : String) : Except ReadFault String :=
  match files.entry path with
  | .error e => .error e
  | .ok .directory => .error .directory
  | .ok (.file bytes) =>
    match String.fromUTF8? bytes with
    | none => .error .encoding
    | some s => .ok (String.ofList (plainLines s.toList))

end Files

end QueryFlow
