import Retouch.Text.WidthTable

/-!
# Width on a terminal

How many cells of a terminal a text takes. A text falls into clusters, which are drawn as one: a
code point with a width, and after it marks without one, what a joiner ties to it, and the selector
that asks for a picture. The width of a text is that of its clusters.
-/

namespace Retouch.CodePoint

/-- The number of cells a code point takes. -/
def width (c : CodePoint) : Nat :=
  if c.isBetween 0x20 0x7E then 1
  else if c.isIn zeroWidthRanges then 0
  else if c.isIn doubleWidthRanges then 2
  else 1

/-- The joiner, which ties the next code point to the one before. -/
def joiner : CodePoint := 0x200D

/-- The selector that asks for a picture of the code point before. -/
def pictureSelector : CodePoint := 0xFE0F

end Retouch.CodePoint

namespace Retouch.Text

/-- A piece of text that is drawn as one. -/
structure Cluster where
  text : Text
  cells : Nat

/-- Adds a code point and some cells to the last of the clusters, which are in reverse. -/
def extendLast (c : CodePoint) (cells : Nat) : List Cluster → List Cluster
  | [] => [⟨[c], cells⟩]
  | last :: before => ⟨last.text ++ [c], last.cells + cells⟩ :: before

/-- The clusters of a text after those that are known, which are in reverse, given the code point
that a selector would apply to and whether a joiner stands before the text. -/
def clustersAfter (known : List Cluster) (base : Option CodePoint) (joined : Bool) : Text → List Cluster
  | [] => known.reverse
  | c :: t =>
    if joined then clustersAfter (extendLast c 0 known) base false t
    else if c = CodePoint.joiner then clustersAfter (extendLast c 0 known) base true t
    else if c = CodePoint.pictureSelector then
      let gained := if base.any (·.isIn CodePoint.selectableRanges) then 1 else 0
      clustersAfter (extendLast c gained known) none false t
    else if c.width = 0 then clustersAfter (extendLast c 0 known) base false t
    else clustersAfter (⟨[c], c.width⟩ :: known) (some c) false t

/-- The clusters of a text. -/
def clusters (t : Text) : List Cluster :=
  clustersAfter [] none false t

/-- The number of cells some clusters take. -/
def cellsOf (clusters : List Cluster) : Nat :=
  clusters.foldr (fun cluster n => cluster.cells + n) 0

/-- The number of cells a text takes. -/
def width (t : Text) : Nat :=
  cellsOf (clusters t)

/-- Some spaces. -/
def spaces (count : Nat) : Text :=
  List.replicate count (CodePoint.ofChar ' ')

/-- A text filled up with spaces to a number of cells. -/
def padTo (cells : Nat) (t : Text) : Text :=
  t ++ spaces (cells - width t)

/-- As many of the first clusters as fit in a number of cells, and a space for each cell left
over. -/
def fitClusters (cells : Nat) : List Cluster → Text
  | [] => spaces cells
  | cluster :: rest =>
    if cluster.cells ≤ cells then cluster.text ++ fitClusters (cells - cluster.cells) rest
    else spaces cells

/-- A text cut or filled up to a number of cells. -/
def cutTo (cells : Nat) (t : Text) : Text :=
  fitClusters cells (clusters t)

/-- Clusters in lines of at most a number of cells, after the text of the line that has been begun
and the cells it takes. -/
def foldClusters (limit : Nat) (line : Text) (cells : Nat) : List Cluster → List Text
  | [] => [line]
  | cluster :: rest =>
    if cells + cluster.cells ≤ limit then
      foldClusters limit (line ++ cluster.text) (cells + cluster.cells) rest
    else line :: foldClusters limit cluster.text cluster.cells rest

/-- A text in lines of at most a number of cells, each as long as can be. -/
def foldTo (limit : Nat) (t : Text) : List Text :=
  foldClusters limit [] 0 (clusters t)

end Retouch.Text
