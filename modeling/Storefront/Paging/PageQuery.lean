/-
**Page queries.**

What a client says about the page it wants: a size, an offset and a sort as a text, each of which may be
missing.  `PageQuery.request` is the request that this means.
-/

import Storefront.Paging.Page

namespace Storefront

/-- A wish for a page. -/
structure PageQuery where
  size : Option Int := none
  offset : Option Int := none
  sort : Option String := none
deriving DecidableEq

namespace PageQuery

/-- The sort that is wished for: the natural order if none is named. -/
def sortOrder (query : PageQuery) : Except SortError SortOrder :=
  match query.sort with
  | some raw => SortOrder.read raw
  | none => .ok .natural

/-- The request for a page, unless the sort cannot be read. -/
def request (query : PageQuery) : Except SortError PageRequest :=
  query.sortOrder.map fun sort =>
    .clamped (query.size.getD PageRequest.defaultSize) (query.offset.getD 0) sort

end PageQuery

end Storefront
