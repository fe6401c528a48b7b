/-
**Queries.**

A query is a list of names and values with `&` between them; a plus sign stands for a space, and bytes that
are no text are replaced.  `PageQuery.ofForm` reads the query for a page: a known name may occur once, and
sizes and offsets are integers of sixty-four bits.
-/

import Storefront.Http.Percent
import Storefront.Paging.PageQuery
import Storefront.Text.Integer
import Storefront.Text.Space

namespace Storefront

open Storefront.Text

namespace Form

/-- The text that a name or a value means. -/
def decode (cs : List Char) : String :=
  Symbol.lossy (Percent.symbols (cs.map fun c => if c = '+' then ' ' else c))

/-- A name and its value; without an equals sign the value is empty. -/
def pair (cs : List Char) : String × String :=
  (decode (cs.takeWhile fun c => c != '='), decode ((cs.dropWhile fun c => c != '=').drop 1))

/-- The names and values of a query, in order. -/
def pairs (query : List Char) : List (String × String) :=
  ((pieces '&' query).filter fun piece => !piece.isEmpty).map pair

end Form

/-- Why a query for a page is refused. -/
inductive PageQueryError
  | repeated (field : String)
  | number (field : String) (cause : IntegerError)
deriving DecidableEq

/-- The message for a query string that is no page request. -/
def PageQueryError.message : PageQueryError → String
  | .repeated field => "duplicate field `" ++ field ++ "`"
  | .number field cause => field ++ ": " ++ cause.message

namespace PageQuery

/-- A number of a query. -/
def readNumber (field value : String) : Except PageQueryError Int :=
  (readInteger (.signed 64) value.toList).mapError (.number field)

/-- Fills in a name and its value; unknown names are skipped. -/
def fill (query : PageQuery) : String × String → Except PageQueryError PageQuery
  | ("size", value) => do
    if query.size.isSome then throw (.repeated "size")
    let size ← readNumber "size" value
    return { query with size := some size }
  | ("offset", value) => do
    if query.offset.isSome then throw (.repeated "offset")
    let offset ← readNumber "offset" value
    return { query with offset := some offset }
  | ("sort", value) =>
    if query.sort.isSome then throw (.repeated "sort")
    else return { query with sort := some value }
  | _ => return query

/-- Fills in names and values from left to right; the first that is refused decides. -/
def fillAll (query : PageQuery) : List (String × String) → Except PageQueryError PageQuery
  | [] => .ok query
  | pair :: rest => do
    let query ← query.fill pair
    fillAll query rest

/-- The query for a page. -/
def ofForm (query : List Char) : Except PageQueryError PageQuery := fillAll {} (Form.pairs query)

end PageQuery

end Storefront
