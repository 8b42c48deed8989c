import ControlPlane.Client

/-!
Listings that come in pages. The cursor of a page's last item asks for the page after it, and
cursors that do not lead on end the listing.
-/
namespace ControlPlane

/-- The items asked for at once when nothing else is said. -/
def Listing.defaultPageSize : Nat := 100

/-- What is listed, and how its pages are read. -/
structure Listing (α : Type) where
  url : String
  filters : List (String × String)
  pageSize : Nat
  /-- The items of a page. -/
  page : Json → Option (List α)
  cursor : α → String

namespace Listing
variable {α : Type}

/-- A page holds one item at least. -/
def size (l : Listing α) : Nat := max l.pageSize 1

def params (l : Listing α) (after : Option String) : List (String × String) :=
  l.filters ++ [("pageSize", String.ofList (Text.Decimal.ofNat l.size))] ++
    (after.map fun cursor => ("pageAfter", cursor)).toList

/-- The cursor that leads on from a page: a full page's last, if it is new and not empty. -/
def next? (l : Listing α) (seen : List String) (items : List α) : Option String :=
  (items.getLast?.map l.cursor).filter fun cursor =>
    l.size ≤ items.length && cursor ≠ "" && cursor ∉ seen

/-- The items after a cursor and what is left of the session. A listing whose cursors lead on for
ever has none. -/
def itemsAfter? (l : Listing α) (k : Connection) (after : Option String) (seen : List String)
    (s : Session) : Option (EStateM.Result Failure Session (List α)) :=
  match k.getJson l.url (l.params after) l.page s with
  | .error failure s => some (.error failure s)
  | .ok items s =>
    match l.next? seen items with
    | none => some (.ok items s)
    | some cursor => do
      match ← l |>.itemsAfter? k (some cursor) (cursor :: seen) s with
      | .ok rest s => return .ok (items ++ rest) s
      | .error failure s => return .error failure s
partial_fixpoint

/-- All items, in the order of their pages. A listing without end is told as a failure, with the
session from before its first request. -/
def items (l : Listing α) (k : Connection) : Call (List α) := fun s =>
  (l.itemsAfter? k none [] s).getD (.error (.unboundedListing l.url) s)

end Listing
end ControlPlane
