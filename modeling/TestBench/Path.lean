/-! Paths of files, as text and in parts. Empty parts and single dots are dropped when a path is
read; a double dot is kept until the path is resolved. Resolving gives a path without double dots,
and a path that has none resolves to itself. -/
namespace TestBench

/-- What a path begins at: where the reader stands, the root, or the root with two slashes. -/
inductive Anchor
  | here
  | root
  | doubleRoot
  deriving DecidableEq, Repr

/-- A path: where it begins and its parts, none of which is empty or a single dot. -/
structure Path where
  anchor : Anchor
  parts : List String
  deriving DecidableEq, Repr

namespace Path

def isPart (s : String) : Bool := s != "" && s != "."

/-- The anchor of a path, by its leading slashes: exactly two are kept. -/
def anchorOf : List Char → Anchor
  | '/' :: '/' :: '/' :: _ => .root
  | '/' :: '/' :: _ => .doubleRoot
  | '/' :: _ => .root
  | _ => .here

def pieces (cs : List Char) : List (List Char) := cs.splitOn '/'

def ofText (s : String) : Path :=
  ⟨anchorOf s.toList, ((pieces s.toList).map String.ofList).filter isPart⟩

/-- The leading slashes of an anchor. -/
def Anchor.text : Anchor → String
  | .here => ""
  | .root => "/"
  | .doubleRoot => "//"

def text (p : Path) : String :=
  if p.anchor = .here ∧ p.parts = [] then "."
  else Anchor.text p.anchor ++ "/".intercalate p.parts

def isAbsolute (p : Path) : Bool := p.anchor != .here

def parent (p : Path) : Path := ⟨p.anchor, p.parts.dropLast⟩

/-- A path seen from a directory; an absolute one stays what it is. -/
def within (dir p : Path) : Path := if p.isAbsolute then p else ⟨dir.anchor, dir.parts ++ p.parts⟩

/-- One part more on a way from the root; a double dot goes back by one and stops at the root. -/
def stepTo (way : List String) (part : String) : List String :=
  if part = ".." then way.dropLast else way ++ [part]

/-- The way from the root that parts lead along, by their text alone. -/
def walk (parts : List String) : List String := parts.foldl stepTo []

/-- A way from the root as a path. -/
def ofWay (way : List String) : Path := ⟨.root, way⟩

/-- A path without double dots, seen from a directory. -/
def resolve (dir p : Path) : Path := ofWay (walk (dir.within p).parts)

/-- Does a part of the path hold the character that ends text for an operating system? -/
def hasNul (p : Path) : Bool := p.parts.any fun s => s.toList.contains '\x00'

example : (ofText "//a/./b//c/").text = "//a/b/c" := by decide +kernel

example : (resolve (ofText "/hc/work") (ofText "../x/../y")).text = "/hc/y" := by decide +kernel

end Path
end TestBench
