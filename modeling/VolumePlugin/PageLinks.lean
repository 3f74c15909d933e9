/-
# Links between the pages of a listing

A listing in several pages comes with links to the first, the previous, the next and the last
page; links that would lead nowhere are missing. Page numbers are read from the links: the
current page follows the previous one or precedes the next one, and without either it is the
first page.
-/
import VolumePlugin.Url.Form
import VolumePlugin.Value.Access

namespace VolumePlugin

/-- The number of the first page. -/
def firstPage : Int := 1

/-- The links of one page, each empty where it is missing. -/
structure PageLinks where
  first : Value := .text ""
  prev : Value := .text ""
  next : Value := .text ""
  last : Value := .text ""
  deriving DecidableEq

namespace PageLinks

/-- The page number that the query of a URL names, if it names one that can be read. -/
def pageInQuery? (query : List Char) : Option Int :=
  (Url.field? query "page".toList).bind Numeral.read?

/-- The page number of a URL. -/
def pageOfUrl (url : String) : Except Failure Int :=
  match Url.query url.toList with
  | .error fault => .error (.badUrl fault)
  | .ok query =>
    match pageInQuery? query with
    | some page => .ok page
    | none => .error (.unexpectedAnswer (.text url) (.text "page link without a page number"))

/-- The page number of a link. -/
def pageOfLink (link : Value) : Except Failure Int :=
  match link with
  | .text url => pageOfUrl url
  | other => .error (.mismatch (.lacks other.kind "decode"))

/-- Whether nothing follows the page. -/
def isLast (links : PageLinks) : Bool :=
  !links.last.truthy && !links.next.truthy

/-- The number of the page that the links belong to. -/
def currentPage (links : PageLinks) : Except Failure Int :=
  if links.prev.truthy then return (← pageOfLink links.prev) + 1
  else if links.next.truthy then return (← pageOfLink links.next) - 1
  else .ok firstPage

/-- The links that a value describes, none where it is empty or holds no pages. -/
def ofValue (value : Value) : Except Failure (Option PageLinks) := do
  if !value.truthy then return none
  let pages := Value.memberOr (← value.members) "pages" .null
  if !pages.truthy then return none
  let links ← pages.members
  let link (name : String) : Value := Value.memberOr links name (.text "")
  return some ⟨link "first", link "prev", link "next", link "last"⟩

/-- Where a listing stands behind a page that was asked for: at its end, with the number of the
last page, or before a page that has to be asked for next. -/
inductive Position
  | finished (lastPage : Int)
  | goOn (nextPage : Int)
  deriving DecidableEq

/-- The position behind a page. Without links the page is the only one. -/
def position (links : Option PageLinks) (page : Int) : Except Failure Position := do
  match links with
  | none => return .finished page
  | some links =>
    let current ← links.currentPage
    return if links.isLast then .finished current else .goOn (current + 1)

example :
    (currentPage { prev := .text "https://h/v?per_page=2&page=3#page=9" }).toOption = some 4 := by
  decide +kernel

end PageLinks

end VolumePlugin
