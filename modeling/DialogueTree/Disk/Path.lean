/-!
# Paths

Paths are texts, kept as they are given; only what they lead to is looked up piece by piece. File
systems bound the bytes of a path and of every name in it.

* `Path.isValid`, `Path.isName`: the paths that can be looked up, and the pieces that can be names.
* `Path.join`, `Path.below`: a path from another one.
* `Path.parent`, `Path.fileName?`: what stands before and at the end of a path.
-/

namespace DialogueTree

/-- A path as written. -/
abbrev Path := String

namespace Path

/-- What stands between the slashes of a path. -/
def piecesOf : List Char → List Char → List String
  | piece, [] => [String.ofList piece.reverse]
  | piece, c :: cs =>
    if c = '/' then String.ofList piece.reverse :: piecesOf [] cs else piecesOf (c :: piece) cs

/-- What stands between the slashes of a path. -/
def pieces (p : Path) : List String := piecesOf [] p.toList

/-- Whether a path starts at the root. -/
def isAbsolute (p : Path) : Bool := p.toList.head? == some '/'

/-- A path read from a directory: an absolute one stands for itself. -/
def join (dir p : Path) : Path :=
  if isAbsolute p || dir.isEmpty then p
  else if dir.toList.getLast? == some '/' then dir ++ p
  else dir ++ "/" ++ p

/-- The path of something that is seen from a path. The empty path stands for that path itself. -/
def below (dir seen : Path) : Path := if seen = "" then dir else join dir seen

/-- Whether a piece of a path stays where it is. -/
def isIdle (piece : String) : Bool := piece == "" || piece == "."

/-- The pieces of a path that lead somewhere. -/
def steps (p : Path) : List String := p.pieces.filter (!isIdle ·)

/-- The name at the end of a path. -/
def fileName? (p : Path) : Option String := p.steps.getLast?.filter (· != "..")

/-- The most bytes that a path may have. -/
def maxBytes : Nat := 4095

/-- The most bytes that a name may have. -/
def maxNameBytes : Nat := 255

/-- Whether a path can be looked up: it is neither empty nor too long, and has no zero character. -/
def isValid (p : Path) : Bool :=
  p != "" && p.utf8ByteSize ≤ maxBytes && !p.toList.contains '\x00'

/-- Whether a piece of a path can be the name of a new file or directory. -/
def isName (piece : String) : Bool :=
  !isIdle piece && piece != ".." && piece.utf8ByteSize ≤ maxNameBytes

/-- Pieces up to the last one that leads somewhere. -/
def trimIdle (pieces : List String) : List String := (pieces.reverse.dropWhile isIdle).reverse

/-- The path of the directory that a path lies in. -/
def parent (p : Path) : Path :=
  match trimIdle (trimIdle p.pieces).dropLast with
  | [] => if isAbsolute p then "/" else "."
  | found => "/".intercalate found

/-- Whether a text ends in another one. -/
def endsWith (p : Path) (ending : String) : Bool := ending.toList.isSuffixOf p.toList

/-- A path with slashes for backslashes. -/
def withSlashes (p : Path) : Path := p.map fun c => if c = '\\' then '/' else c

end Path

end DialogueTree
