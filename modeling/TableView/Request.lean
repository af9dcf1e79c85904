import TableView.Column.Codec
import TableView.Settings

/-! What one request asks of a table view: terms, an order and a page. -/
namespace TableView

/-- A column's name and what was typed for it. -/
abbrev SearchTerm := String × String

structure OrderSpec where
  column : String
  direction : SortDirection := .asc
deriving DecidableEq, Repr

/-- Page numbers and page lengths start at one. -/
structure PageWindow where
  page : UInt32
  perPage : UInt32
deriving DecidableEq, Repr

namespace PageWindow

def of (page perPage : UInt32) : PageWindow := ⟨max page 1, max perPage 1⟩

/-- The number of rows before the page. -/
def offset (w : PageWindow) : Nat := (w.page.toNat - 1) * w.perPage.toNat

def first : PageWindow := of 1 ({} : Settings).defaultPerPage

end PageWindow

structure Request where
  searchTerms : Fields String := []
  order : Option OrderSpec := none
  page : Option UInt32 := none
  perPage : Option UInt32 := none
deriving DecidableEq, Repr

/-- The window of rows to show, its length within the settings' bounds. -/
def Request.window (r : Request) (s : Settings) : PageWindow :=
  .of (r.page.getD 1) (s.perPage r.perPage)

open Json

namespace OrderSpec

def ofJson? (j : Json) : Option OrderSpec := do
  let ms ← members? ["column", "direction"] j
  return {
    column := ← required? ms "column" string?
    direction := ← defaulted? ms "direction" (word? SortDirection.words) .asc }

def toJson (o : OrderSpec) : Json :=
  .obj [("column", .str o.column), ("direction", .str o.direction.word)]

end OrderSpec

def PageWindow.ofJson? (j : Json) : Option PageWindow := do
  let ms ← members? ["page", "per_page"] j
  return .of (← required? ms "page" uint32?) (← required? ms "per_page" uint32?)

namespace Request

def ofJson? (j : Json) : Option Request := do
  let ms ← members? ["search_terms", "order", "page", "per_page"] j
  return {
    searchTerms := ← defaulted? ms "search_terms" (mapOf? string?) []
    order := ← optional? ms "order" OrderSpec.ofJson?
    page := ← optional? ms "page" uint32?
    perPage := ← optional? ms "per_page" uint32? }

def toJson (r : Request) : Json :=
  .obj [("order", ofOption OrderSpec.toJson r.order),
    ("page", ofOption (fun n => .nat n.toNat) r.page),
    ("per_page", ofOption (fun n => .nat n.toNat) r.perPage),
    ("search_terms", .obj (r.searchTerms.map fun (k, s) => (k, .str s)))]

end Request
end TableView
