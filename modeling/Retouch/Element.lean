import Retouch.Failure
import Retouch.Markup.Tag

/-!
# Elements of a document

An element is known by the place of its node, its tag and the position of its opening tag. It is
found by a line and a column, which may be off by a tolerance; of several candidates the first one
counts.
-/

namespace Retouch

/-- The forms of elements. -/
inductive Element.Form where
  | paired
  | selfClosing
  | fragment
  deriving DecidableEq

/-- The code of a form. -/
def Element.Form.code : Element.Form → String
  | .paired => "element"
  | .selfClosing => "self_closing"
  | .fragment => "fragment"

/-- An element or a fragment of a document. -/
structure Element where
  place : Place
  form : Element.Form
  tag : Text
  position : Position

/-- What is looked for: a position, the tolerance in columns, the distance in lines up to which
other elements are reported, and whether fragments count. -/
structure Query where
  line : Int
  column : Int
  tolerance : Int := 5
  window : Int := 5
  fragments : Bool := false

namespace Element

/-- The node of an element. -/
def node (element : Element) : Node :=
  element.place.node

/-- What stands for the tag of a fragment. -/
def fragmentTag : Text := "<>"

/-- The element at a place. -/
def ofPlace (document : Document) (place : Place) : Except Defect Element := do
  let position := document.position place.node.openingTag
  if place.node.isFragment then return ⟨place, .fragment, fragmentTag, position⟩
  let tag ← match place.node.tagName? with
    | some name => document.text name
    | none => pure []
  return ⟨place, if place.node.kind = .selfClosing then .selfClosing else .paired, tag, position⟩

/-- Decides whether an element is what a query looks for. -/
def fits (query : Query) (element : Element) : Bool :=
  (element.position.line : Int) = query.line &&
    ((element.position.column : Int) - query.column).natAbs ≤ query.tolerance

/-- Decides whether an element is close enough to the line of a query to be reported. -/
def isNear (query : Query) (element : Element) : Bool :=
  ((element.position.line : Int) - query.line).natAbs ≤ query.window

/-- What is reported of an element. -/
def summary (element : Element) : NearbyElement :=
  ⟨element.position.line, element.position.column, element.tag⟩

/-- Looks through places, given what was seen before them. -/
def search (document : Document) (query : Query) (scanned : Nat) (nearby : List NearbyElement) :
    List Place → Except Failure Element
  | [] => .error (.notFound query.line query.column ⟨scanned, nearby⟩)
  | place :: places => do
    if place.node.isFragment && !query.fragments then search document query scanned nearby places
    else
      let element ← ofPlace document place
      if element.fits query then return element
      let seen := if element.isNear query then nearby ++ [element.summary] else nearby
      search document query (scanned + 1) seen places

/-- The first element that fits a query. -/
def locate (document : Document) (query : Query) : Except Failure Element :=
  search document query 0 [] (Place.markup document.root)

end Element

end Retouch
