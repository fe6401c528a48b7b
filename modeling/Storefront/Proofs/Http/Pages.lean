/-
**Pages of listings.**

A request for a page is answered with the window of the matching records, arranged by the sort, and the
totals of all matching records (`PageQuery.page`).

Main statement: `Listing.respond_page` — so it is for every state, every size, every offset and every
sort by allowed properties.
-/

import Storefront.Proofs.Http.Listings
import Storefront.Proofs.Paging.Windows
import Storefront.Proofs.Store.Entities
import Storefront.Proofs.Store.Pages

namespace Storefront

/-! ### What is asked for -/

namespace PageQuery

/-- How many records a page may have, where zero sets no bound. -/
def bound (query : PageQuery) : Nat := (max 0 (min 1000 (query.size.getD 10))).toNat

/-- How many records stand before the page. -/
def skipped (query : PageQuery) : Nat := (max 0 (query.offset.getD 0)).toNat

/-- The page of arranged records, `total` of them. -/
def page {α : Type} (query : PageQuery) (total : Nat) (arranged : List α) : Page α where
  totalPages := if query.bound = 0 ∨ total = 0 then 0 else ⌈(total : ℚ) / query.bound⌉
  totalElements := total
  elements :=
    if query.bound = 0 then arranged.drop query.skipped
    else (arranged.drop query.skipped).take query.bound

/-- The window that is cut, with its totals, is the page that is asked for. -/
theorem ofWindow_eq_page {α : Type} {query : PageQuery} {request : PageRequest}
    (asked : query.request = .ok request) (total : Nat) (arranged : List α) :
    Page.ofWindow (request.window arranged) total request.size = query.page total arranged := by
  obtain ⟨size, offset⟩ : request.size = query.bound ∧ request.offset = query.skipped := by
    rw [query.request_eq] at asked
    cases reads : SortOrder.readEntries query.sortPieces with
    | error cause => rw [reads] at asked; cases asked
    | ok keys =>
      rw [reads] at asked
      cases asked
      have size (n : Int) : min n.toNat 1000 = (max 0 (min 1000 n)).toNat := by omega
      have offset (n : Int) : n.toNat = (max 0 n).toNat := by omega
      exact ⟨size _, offset _⟩
  have elements : request.window arranged = if query.bound = 0 then arranged.drop query.skipped
      else (arranged.drop query.skipped).take query.bound := by
    rw [PageRequest.window, PageRequest.limit, size, offset]
    by_cases unbounded : query.bound = 0
    · rw [if_pos unbounded, if_pos unbounded]
    · rw [if_neg unbounded, if_neg unbounded]
  rw [Page.ofWindow, size, totalPages_eq_ceil, elements]
  rfl

end PageQuery

/-! ### Listings -/

namespace Listing

/-- What a listing consists of. -/
def Record : Listing → Type
  | .items => Item
  | .ordersOf _ => Order

/-- The row of a record. -/
def row : (listing : Listing) → listing.Record → Row
  | .items => Item.row
  | .ordersOf _ => Order.row

/-- A record among all that is stored. -/
def entity : (listing : Listing) → listing.Record → Entity
  | .items => .item
  | .ordersOf _ => .order

/-- The records that match: all items, or the orders of the account and no others. -/
def matching (items : List Item) (orders : List Order) : (listing : Listing) → List listing.Record
  | .items => items
  | .ordersOf account => orders.filter fun order => order.accountId == account

/-- The answer that gives a page. -/
def given : (listing : Listing) → Page listing.Record → StoreAnswer
  | .items, page => .items (.ok page)
  | .ordersOf _, page => .orders (.ok page)

theorem comparable_row [Collation] (listing : Listing) : Row.Comparable listing.row := by
  cases listing with
  | items => exact Item.comparable_row
  | ordersOf account => exact Order.comparable_row

/-- What a client is shown of a page. -/
theorem response_given (listing : Listing) (page : Page listing.Record) (status : Nat) :
    (listing.given page).response status = .ofJson status (.object [
      ("total_pages", .integer page.totalPages),
      ("total_elements", .integer page.totalElements),
      ("elements", .array (page.elements.map fun record => (listing.entity record).json))]) := by
  cases listing <;> rfl

/-- Undisturbed, a page is the window of the records that match, arranged by the sort. -/
theorem call_solo [Collation] {listing : Listing} {request : PageRequest} {items : List Item}
    {orders : List Order} {id : Nat → Uuid} {clock : Nat → Int} {solo : Solo}
    (allowed : ∀ key ∈ request.sort.keys, key.property ∈ listing.names)
    (holds : solo.tables.Holds items orders) :
    ((listing.call request).program.solo id clock solo).1 = listing.given (.ofWindow
      (request.window ((listing.matching items orders).mergeSort
        (SortKey.notAfter request.sort.keys listing.row)))
      (listing.matching items orders).length request.size) := by
  have passes := SortOrder.check_of_allowed allowed
  cases listing with
  | items =>
    have read : ItemStore.pageOn request solo.tables =
        ItemStore.listOn request request.sort.terms solo.tables := by
      rw [ItemStore.pageOn, show request.sort.check ItemStore.sortable = .ok request.sort from passes]
    exact (congrArg Prod.fst Action.solo_program_map).trans (congrArg StoreAnswer.items
      (((ItemStore.page_solo request solo).trans read).trans (ItemStore.listOn_of_holds holds)))
  | ordersOf account =>
    have read : OrderStore.searchOn account request solo.tables =
        OrderStore.listOn account request request.sort.terms solo.tables := by
      rw [OrderStore.searchOn, show request.sort.check OrderStore.sortable = .ok request.sort from passes]
    exact (congrArg Prod.fst Action.solo_program_map).trans (congrArg StoreAnswer.orders
      (((OrderStore.search_solo account request solo).trans read).trans
        (OrderStore.listOn_of_holds holds account)))

/-- **A page is the window of the matching records, arranged by the sort, with the totals of all of
them.** The early exit for an account without orders makes no difference. -/
theorem respond_page [Collation] {settings : ServerSettings} {limit : Option Duration} {app : App}
    {environment : Environment} {request : Request} {machine : Machine} {route : Route}
    {names : List String} {listing : Listing} {query : PageQuery} {sort : SortOrder}
    {items : List Item} {orders : List Order}
    (built : App.build? settings limit = some app)
    (method : request.method = "GET") (path : Route.ofPath? request.path = some route)
    (resource : At route names (.ok listing)) (read : Extract.pageQuery request = .ok query)
    (sorted : query.sortOrder = .ok sort) (allowed : ∀ key ∈ sort.keys, key.property ∈ names)
    (holds : machine.tables.Holds items orders)
    (healthy : environment.Healthy) (available : machine.pool = .open)
    (inTime : (Handler.dispatch app.services request).InTime environment (some app.limit)
      (App.requestId environment request machine).1) :
    (∃ arranged page, SortKey.Arranges sort.keys listing.row (listing.matching items orders) arranged ∧
      page = query.page (listing.matching items orders).length arranged ∧
      (app.respond environment request machine).2.status = 200 ∧
      (app.respond environment request machine).2.body = (Json.Value.object [
        ("total_pages", .integer page.totalPages),
        ("total_elements", .integer page.totalElements),
        ("elements", .array (page.elements.map fun record => (listing.entity record).json))]).render) ∧
    ∀ account page terms id clock solo,
      ((OrderStore.list account page terms).run.solo id clock solo).1 =
        ((OrderStore.listWhole account page terms).run.solo id clock solo).1 := by
  refine ⟨⟨_, _, SortKey.arranges_sorted listing.comparable_row _ _, rfl, ?_⟩,
    fun _ _ _ _ _ solo => OrderStore.list_solo_eq solo⟩
  obtain ⟨page, asked, rfl⟩ : ∃ page, query.request = .ok page ∧ page.sort = sort := by
    rw [PageQuery.request, sorted]
    exact ⟨_, rfl, rfl⟩
  have work : Handler.dispatch app.services request =
      StoreAnswer.response 200 <$> (listing.call page).action limit := by
    rw [App.services_of_build? built, Handler.dispatch_eq path (method ▸ resource.allows_get)
      (by rw [method]; decide), resource.task_of_page read asked, resource.status]
    rfl
  have ended : (app.attend environment request machine).2 = .finished _ :=
    Machine.perform_of_inTime healthy (App.pool_requestId.trans available) inTime
  rw [work, congrArg Prod.fst Action.solo_program_map, StoreCall.program_action,
    call_solo (resource.names_eq ▸ allowed) (App.tables_requestId ▸ holds), response_given,
    PageQuery.ofWindow_eq_page asked] at ended
  have other : request.method ≠ "OPTIONS" := by rw [method]; decide
  obtain ⟨_, status, body⟩ : (app.respond environment request machine).1 = _ ∧
      (app.respond environment request machine).2.status = _ ∧ _ := App.respond_eq other
  rw [status, body, ended]
  exact ⟨rfl, rfl⟩

/-- A wish for the last item by its title. -/
def lastItemWish : Request where
  target := "/api/v1/item?size=1&sort=title+desc"

/-- One of two items is asked for, the last one by its title. -/
theorem respond_page_sample :
    ∃ (app : App) (cup tea : Item), App.build? {} none = some app ∧ cup.title < tea.title ∧
      ∃ arranged, SortKey.Arranges [⟨"title", ⟨.descending, none⟩⟩] Item.row [cup, tea] arranged ∧
        (app.respond .sample lastItemWish { tables := { items := [cup, tea].map Item.row } }).2.status =
          200 ∧
        (app.respond .sample lastItemWish { tables := { items := [cup, tea].map Item.row } }).2.body =
          (Json.Value.object [("total_pages", .integer 2), ("total_elements", .integer 2),
            ("elements", .array ((arranged.take 1).map fun item => (Entity.item item).json))]).render := by
  have holds : Tables.Holds { items := [Item.register ⟨"Cup", none, ⟨0⟩⟩ (.numbered 1) ⟨0⟩,
      Item.register ⟨"Tea", none, ⟨0⟩⟩ (.numbered 2) ⟨0⟩].map Item.row } _ [] :=
    ⟨rfl, rfl, List.nodup_nil, [], rfl, nofun⟩
  have inTime : ∀ (machine : Machine) (action : Action Response),
      action.InTime .sample (some (.ofSeconds 30)) machine := fun machine action =>
    action.inTime_of_prompt (fun _ => rfl) _ machine
  have allowed : ∀ key ∈ [(⟨"title", ⟨.descending, none⟩⟩ : SortKey)],
      key.property ∈ ItemStore.sortable := by decide
  have built : App.build? {} none =
      some ⟨⟨["http://localhost:5173"]⟩, .inDatabase none, .ofSeconds 30⟩ := rfl
  have path : Route.ofPath? lastItemWish.path = some .items := by decide +kernel
  have read : Extract.pageQuery lastItemWish = .ok ⟨some 1, none, some "title desc"⟩ := by decide +kernel
  have sorted : PageQuery.sortOrder ⟨some 1, none, some "title desc"⟩ =
      .ok ⟨[⟨"title", ⟨.descending, none⟩⟩]⟩ := by decide +kernel
  have asked : ∀ arranged : List Item,
      PageQuery.page ⟨some 1, none, some "title desc"⟩ 2 arranged = ⟨2, 2, arranged.take 1⟩ := by
    intro arranged
    simp [PageQuery.page, PageQuery.bound, PageQuery.skipped]
  obtain ⟨arranged, page, arranges, same, status, body⟩ :=
    (@respond_page _ {} none _ .sample lastItemWish { tables := _ } .items _ .items _ _ _ _
      built rfl path .items read sorted allowed holds (fun _ _ => rfl) rfl (inTime _ _)).1
  obtain rfl : page = ⟨2, 2, arranged.take 1⟩ := same.trans (asked arranged)
  exact ⟨_, _, _, built, by decide +kernel, arranged, arranges, status, body⟩

end Listing

end Storefront
