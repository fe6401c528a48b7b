/-
**Browsing a listing.**

While the tables stay as they are, every ask for a page of a listing has one answer
(`Listing.Gives`), whatever else the state of the server is.  The pages of a size, asked for one after
the other, are the listing that is given in one piece.

Main statement: `Listing.pages_join` — so it is for every sort and every size; a sort by another property
is refused at every size and offset.
-/

import Storefront.Proofs.Http.Pages

namespace Storefront

namespace Listing

variable [Collation] {listing : Listing} {tables : Tables} {items : List Item} {orders : List Order}
  {sort : SortOrder} {size offset : Int}

/-- The listing is asked for a page with these tables: whatever the state of the server is otherwise, the
page is given, as long as nothing is in the way. -/
def Gives (listing : Listing) (tables : Tables) (sort : SortOrder) (size offset : Int)
    (page : Page listing.Record) : Prop :=
  ∀ (machine : Machine) (environment : Environment) (own outer : Option Duration),
    machine.tables = tables → environment.Healthy → machine.pool = .open →
      ((listing.call (.clamped size offset sort)).action own).InTime environment outer machine →
        (machine.perform environment outer
          ((listing.call (.clamped size offset sort)).action own)).2 = .finished (listing.given page)

/-- The records that match, arranged by the sort. -/
def arranged (listing : Listing) (items : List Item) (orders : List Order) (sort : SortOrder) :
    List listing.Record :=
  (listing.matching items orders).mergeSort (SortKey.notAfter sort.keys listing.row)

theorem length_arranged :
    (listing.arranged items orders sort).length = (listing.matching items orders).length :=
  List.length_mergeSort _

/-- A page of the arranged records is given. -/
theorem gives_page (holds : tables.Holds items orders)
    (allowed : ∀ key ∈ sort.keys, key.property ∈ listing.names) :
    listing.Gives tables sort size offset
      ((PageRequest.clamped size offset sort).page (listing.arranged items orders sort)) := by
  rintro machine environment own outer rfl healthy available inTime
  rw [Machine.perform_of_inTime healthy available inTime, StoreCall.program_action,
    call_solo allowed holds, PageRequest.page, length_arranged]
  rfl

/-- **Joined, the pages of a size are the listing in one piece**, in which every record that matches
stands once and in the order of the sort.  Every page but the last one is full, a page behind the last
record is empty, all of them have the same totals, and the number of pages is computed within 64 bits.
For a sort by another property, no page is given at all. -/
theorem pages_join (holds : tables.Holds items orders)
    (fits : int64.contains (listing.matching items orders).length = true) (sort : SortOrder) :
    ((∀ key ∈ sort.keys, key.property ∈ listing.names) →
      ∃ (whole : List listing.Record) (page : Int → Int → Page listing.Record),
        SortKey.Arranges sort.keys listing.row (listing.matching items orders) whole ∧
          (∀ size offset, listing.Gives tables sort size offset (page size offset)) ∧
          (page 0 0).elements = whole ∧
          ∀ (size : Int) (bound : Nat), bound = max 0 (min 1000 size) →
            (0 < bound → Page.Divide whole bound (page size)) ∧
              (bound = 0 → page size 0 = ⟨0, whole.length, whole⟩)) ∧
    ∀ key, (sort.keys.find? fun key => !listing.names.contains key.property) = some key →
      ∀ (size offset : Int) (machine : Machine) (environment : Environment) (own outer : Option Duration),
        machine.perform environment outer ((listing.call (.clamped size offset sort)).action own) =
          (machine, .finished (listing.failed
            (.rejected (.sort (.notAllowed key.property listing.names))))) := by
  constructor
  · intro allowed
    refine ⟨listing.arranged items orders sort, fun size offset =>
      (PageRequest.clamped size offset sort).page (listing.arranged items orders sort),
      SortKey.arranges_sorted listing.comparable_row _ _, fun _ _ => gives_page holds allowed,
      congrArg Page.elements (PageRequest.page_unbounded rfl sort),
      fun size bound clamps => ⟨fun sized => ?_, ?_⟩⟩
    · exact PageRequest.divide_of_size (length_arranged ▸ fits) clamps sized sort
    · rintro rfl
      exact PageRequest.page_unbounded clamps.symm sort
  · intro key first size offset machine environment own outer
    have refused : (listing.call (.clamped size offset sort)).action own = _ :=
      call_refused (SortOrder.check_of_first first)
    rw [refused]
    rfl

end Listing

/-- Three items. -/
def Item.wares : List Item :=
  [.register ⟨"Tea", none, ⟨0⟩⟩ (.numbered 1) ⟨0⟩,
    .register ⟨"Cup", none, ⟨0⟩⟩ (.numbered 2) ⟨0⟩,
    .register ⟨"Pot", none, ⟨0⟩⟩ (.numbered 3) ⟨0⟩]

/-- A server with these items. -/
def Machine.wares : Machine := { tables := { items := Item.wares.map Item.row } }

/-- These items by their titles. -/
def Item.sortedWares : List Item :=
  [.register ⟨"Cup", none, ⟨0⟩⟩ (.numbered 2) ⟨0⟩,
    .register ⟨"Pot", none, ⟨0⟩⟩ (.numbered 3) ⟨0⟩,
    .register ⟨"Tea", none, ⟨0⟩⟩ (.numbered 1) ⟨0⟩]

theorem Item.arranges_wares : SortKey.Arranges [⟨"title", {}⟩] Item.row wares sortedWares := by
  refine ⟨sortedWares.zip [1, 2, 0], by decide, rfl, ?_⟩
  have before : (sortedWares.zip [1, 2, 0]).Pairwise fun first second =>
      Cell.order {} (first.1.row.get "title") (second.1.row.get "title") = .lt := by decide
  exact before.imp fun less => Or.inl (Or.inl less)

/-- The items by their titles stand on two pages of two; they cannot be sorted by their cost.  Items and
orders are held in every state that a store reaches. -/
theorem Listing.pages_join_wares :
    (∀ tables, Tables.empty.Grown tables → ∃ items orders, tables.Holds items orders) ∧
    (∃ first second : Page Item,
      (Machine.perform .sample none
        ((StoreCall.itemPage (.clamped 2 0 ⟨[⟨"title", {}⟩]⟩)).action none) .wares).2 =
          .finished (.items (.ok first)) ∧
      (Machine.perform .sample none
        ((StoreCall.itemPage (.clamped 2 2 ⟨[⟨"title", {}⟩]⟩)).action none) .wares).2 =
          .finished (.items (.ok second)) ∧
      first.totalPages = 2 ∧ first.elements.length = 2 ∧ second.elements.length ≤ 2 ∧
      SortKey.Arranges [⟨"title", {}⟩] Item.row Item.wares (first.elements ++ second.elements) ∧
      first.elements ++ second.elements = Item.sortedWares) ∧
    (Machine.perform .sample none
      ((StoreCall.itemPage (.clamped 2 0 ⟨[⟨"price", {}⟩, ⟨"cost", {}⟩]⟩)).action none) .wares).2 =
        .finished (.items (.error (.rejected (.sort (.notAllowed "cost" ItemStore.sortable))))) := by
  have holds : Machine.wares.tables.Holds Item.wares [] :=
    ⟨rfl, rfl, List.nodup_nil, [], rfl, nofun⟩
  have fits : int64.contains (Listing.matching Item.wares [] .items).length = true := by decide
  have prompt : ∀ {α : Type} (action : Action α), action.InTime .sample none .wares :=
    Action.inTime_of_prompt (fun _ => rfl) _ _
  have allowed : ∀ key ∈ [(⟨"title", {}⟩ : SortKey)], key.property ∈ Listing.items.names := by decide
  refine ⟨fun _ grown => grown.holds, ?_, ?_⟩
  · obtain ⟨whole, page, arranges, gives, -, divides⟩ := (pages_join holds fits ⟨_⟩).1 allowed
    have divide : Page.Divide whole 2 (page 2) := (divides 2 2 rfl).1 (by decide)
    have count : whole.length = 3 := arranges.perm.length_eq
    have pages : (page 2 0).totalPages = 2 := by
      rw [(divide.totals 0).2, count]
      norm_num
    have asked (offset : Int) := gives 2 offset .wares .sample none none rfl (fun _ _ => rfl) rfl (prompt _)
    have joined := divide.joined
    rw [pages] at joined
    replace joined : (page 2 0).elements ++ ((page 2 2).elements ++ []) = whole := joined
    have full : (page 2 0).elements.length = 2 := divide.full 0 (by rw [pages]; decide)
    have last : (page 2 2).elements.length ≤ 2 := (divide.last 1 (by rw [pages]; rfl)).2
    rw [List.append_nil] at joined
    exact ⟨_, _, asked 0, asked 2, pages, full, last, joined ▸ arranges,
      joined.trans (arranges.eq Item.comparable_row Item.arranges_wares)⟩
  · have refused := (pages_join holds fits ⟨[⟨"price", {}⟩, ⟨"cost", {}⟩]⟩).2
      ⟨"cost", {}⟩ (by decide) 2 0 .wares .sample none none
    exact congrArg Prod.snd refused

end Storefront
