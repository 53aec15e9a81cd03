import CardSearch.Json.Printer
import CardSearch.Search.Basic

/-!
# Pages as JSON

A page of results for other programs: the cards, how many there are in all, where
the page begins, how long it may be, and whether cards are left after it.
-/

namespace CardSearch.Search

/-- Whether cards are left after the page. -/
def Page.hasMore (p : Page) (o : Options) : Bool := o.offset + p.rows.length < p.count

def Page.json (p : Page) (o : Options) : Json :=
  .object ([("cards", .array (p.cards.map (·.json))), ("count", .number (.int p.count)),
    ("offset", .number (.int o.offset))] ++
    (o.limit.map fun n => ("limit", Json.number (.int n))).toList ++
    [("has_more", .bool (p.hasMore o))])

end CardSearch.Search
