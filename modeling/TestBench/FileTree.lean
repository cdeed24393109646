import TestBench.Path
import TestBench.Script

/-! A tree of files and directories without links. A way is a list of names from the root; the root
is always a directory. Making directories and writing one file leave every other file as it was. -/
namespace TestBench

/-- What a file holds: bytes, and what they say as a script if they are one. -/
structure Content where
  bytes : List UInt8
  script : Option Script

def Content.empty : Content := ⟨[], none⟩

/-- The line that the end of some bytes stands in. -/
def Content.lastLine (bytes : List UInt8) : Nat := bytes.count 10 + 1

/-- What a file says as a script once lines of a log stand behind it. The date of the first of them
holds a number that begins with a zero; one that stands before it is still the first to be met. -/
def Content.scriptWithLog (c : Content) : Script :=
  let script := c.script.getD .empty
  if script.hasLeadingZero then script
  else { script with malformation := some (.leadingZero (lastLine c.bytes)) }

/-- A file with lines of a log behind what it holds. -/
def Content.withLog (c : Content) (bytes : List UInt8) : Content :=
  ⟨c.bytes ++ bytes, some c.scriptWithLog⟩

inductive Node
  | directory
  | file (content : Content)

/-- Things by their ways. -/
structure FileTree where
  entries : List (List String × Node)

inductive FileFault
  | notFound
  | notDirectory
  | isDirectory
  | exists
  | nameTooLong
  | embeddedNul
  | tooDeep
  deriving DecidableEq, Repr

def FileFault.kind : FileFault → String
  | .notFound => "FileNotFoundError"
  | .notDirectory => "NotADirectoryError"
  | .isDirectory => "IsADirectoryError"
  | .exists => "FileExistsError"
  | .nameTooLong => "OSError"
  | .embeddedNul => "ValueError"
  | .tooDeep => "RecursionError"

/-- What the tree refuses, in words, where there are words for it. -/
def FileFault.message? : FileFault → Option String
  | .embeddedNul => some "embedded null byte"
  | .tooDeep => some "maximum recursion depth exceeded while calling a Python object"
  | _ => none

/-- The longest name of a thing, in bytes. -/
def longestName : Nat := 255

/-- The longest path, in bytes. -/
def longestPath : Nat := 4095

/-- The greatest number of directories that are made inside each other at once. -/
def deepestMaking : Nat := 975

namespace FileTree

def empty : FileTree := ⟨[]⟩

def get? (t : FileTree) (way : List String) : Option Node :=
  if way = [] then some .directory
  else (t.entries.find? fun e => e.1 == way).map Prod.snd

def put (t : FileTree) (way : List String) (node : Node) : FileTree :=
  if (t.entries.find? fun e => e.1 == way).isSome then
    ⟨t.entries.map fun e => if e.1 == way then (way, node) else e⟩
  else ⟨t.entries ++ [(way, node)]⟩

/-- The directories on a way to a file, the outermost first. -/
def ancestors (way : List String) : List (List String) :=
  (List.range way.length).filterMap fun n => if n = 0 then none else some (way.take n)

/-- The tree with a file put at the end of a way, together with the directories on it. -/
def plant (t : FileTree) (way : List String) (content : Content) : FileTree :=
  ((ancestors way).foldl (fun t w => if (t.get? w).isSome then t else t.put w .directory) t).put
    way (.file content)

/-- Follow parts from the end of a way. Every part but the last must be a directory; the last one
may be missing. -/
def follow (t : FileTree) : List String → List String → Except FileFault (List String)
  | way, [] => .ok way
  | way, part :: parts =>
    match t.get? way with
    | none => .error .notFound
    | some (.file _) => .error .notDirectory
    | some .directory =>
      if longestName < part.utf8ByteSize then .error .nameTooLong
      else follow t (if part = ".." then way.dropLast else way ++ [part]) parts

/-- The fault of a path that is no name of anything, whatever the tree holds. -/
def unusable? (p : Path) : Option FileFault :=
  if p.hasNul then some .embeddedNul
  else if longestPath < p.text.utf8ByteSize then some .nameTooLong
  else none

/-- Where a path begins, seen from a directory. -/
def base (dir : List String) (p : Path) : List String := if p.isAbsolute then [] else dir

/-- The way that a path stands for, seen from a directory. -/
def locate (t : FileTree) (dir : List String) (p : Path) : Except FileFault (List String) :=
  match unusable? p with
  | some f => .error f
  | none => t.follow (base dir p) p.parts

def look (t : FileTree) (dir : List String) (p : Path) : Except FileFault Node := do
  match t.get? (← t.locate dir p) with
  | some node => .ok node
  | none => .error .notFound

def isDirectory (t : FileTree) (dir : List String) (p : Path) : Bool :=
  match t.look dir p with
  | .ok .directory => true
  | _ => false

def script? (t : FileTree) (way : List String) : Option Script :=
  match t.get? way with
  | some (.file c) => some (c.script.getD .empty)
  | _ => none

/-- Does a path lead to anything? A name that is too long cannot be asked about. -/
def exists? (t : FileTree) (dir : List String) (p : Path) : Except FileFault Bool :=
  match t.look dir p with
  | .ok _ => .ok true
  | .error .nameTooLong => .error .nameTooLong
  | .error _ => .ok false

def read (t : FileTree) (dir : List String) (p : Path) : Except FileFault (List UInt8) := do
  match ← t.look dir p with
  | .directory => .error .isDirectory
  | .file c => .ok c.bytes

/-- What making a directory leads to: the tree afterwards, and why it went wrong if it did. -/
abbrev Changed := Except FileFault Unit × FileTree

/-- The number of parts from the first one that is missing on. -/
def missing (t : FileTree) : List String → List String → Nat
  | _, [] => 0
  | way, part :: parts =>
    if longestName < part.utf8ByteSize then 0
    else if part = ".." then missing t way.dropLast parts
    else
      match t.get? (way ++ [part]) with
      | some .directory => missing t (way ++ [part]) parts
      | some (.file _) => 0
      | none => parts.length + 1

/-- Make the directories that parts lead to from one that is there, as far as they are missing.
`made` tells whether one has been made. A file on the way is found to be no directory, but to stand
in the place of one if it is the last part or something has been made before. -/
def lay (t : FileTree) : Bool → List String → List String → Changed
  | _, _, [] => (.ok (), t)
  | made, way, part :: parts =>
    if longestName < part.utf8ByteSize then (.error .nameTooLong, t)
    else if part = ".." then lay t made way.dropLast parts
    else
      match t.get? (way ++ [part]) with
      | some .directory => lay t made (way ++ [part]) parts
      | some (.file _) => (.error (if made || parts.isEmpty then .exists else .notDirectory), t)
      | none => lay (t.put (way ++ [part]) .directory) true (way ++ [part]) parts

/-- Make a directory and those that it lies in, as far as they are missing. -/
def ensure (t : FileTree) (dir : List String) (p : Path) : Changed :=
  match unusable? p with
  | some f => (.error f, t)
  | none =>
    if deepestMaking < t.missing (base dir p) p.parts then (.error .tooDeep, t)
    else t.lay false (base dir p) p.parts

/-- Open a file for writing: it may be new, but its directory must be there. -/
def openAt (t : FileTree) (dir : List String) (p : Path) :
    Except FileFault (List String × Option Content) := do
  let way ← t.locate dir p
  match t.get? way with
  | some .directory => .error .isDirectory
  | some (.file c) => .ok (way, some c)
  | none => .ok (way, none)

def write (t : FileTree) (dir : List String) (p : Path) (content : Content) : Changed :=
  match t.openAt dir p with
  | .ok (way, _) => (.ok (), t.put way (.file content))
  | .error f => (.error f, t)

/-- Add lines of a log to the file at a way; a new file holds nothing before. -/
def log (t : FileTree) (way : List String) (bytes : List UInt8) : FileTree :=
  match t.get? way with
  | some (.file c) => t.put way (.file (c.withLog bytes))
  | _ => t.put way (.file (Content.empty.withLog bytes))

end FileTree
end TestBench
