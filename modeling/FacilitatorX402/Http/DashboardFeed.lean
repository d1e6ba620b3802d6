import FacilitatorX402.Library.Requests
import Mathlib.Order.Lattice

/-!
# The settlement feed of the dashboard

One connection of GET /dashboard/events, which asks for the settlements after its cursor every three
seconds. An id is a nonempty text that the database orders, and so a connection without a cursor is one
that has read nothing.
-/

namespace FacilitatorX402

structure FeedSettlement (ι : Type) where
  id : ι
  createdAt : Int
  deriving DecidableEq

/-- The rows of the table, and of the connection its `lastId` and the ids it has written. -/
structure DashboardFeed (ι : Type) where
  settlements : List (FeedSettlement ι)
  lastId : Option ι
  written : List ι

/-- A settlement is inserted, or the connection polls. A poll comes with the rows that its query orders,
before the page is cut. -/
inductive FeedMove (ι : Type) where
  | insert (settlement : FeedSettlement ι)
  | poll (found : List (FeedSettlement ι))
  | pollFails

namespace DashboardFeed

variable {ι : Type} [LinearOrder ι]

def empty : DashboardFeed ι where
  settlements := []
  lastId := none
  written := []

/-- `where: lastId ? { id: { gt: lastId } } : {}`. -/
def isAfter (lastId : Option ι) (id : ι) : Bool :=
  match lastId with
  | none => true
  | some lastId => decide (lastId < id)

/-- `orderBy: { createdAt: 'asc' }`: rows of one time may come in any order. -/
def Finds (feed : DashboardFeed ι) (found : List (FeedSettlement ι)) : Prop :=
  found.Perm (feed.settlements.filter (isAfter feed.lastId ·.id)) ∧
    found.Pairwise (·.createdAt ≤ ·.createdAt)

def pageSize : Nat := 10

def write (feed : DashboardFeed ι) (settlement : FeedSettlement ι) : DashboardFeed ι :=
  { feed with written := feed.written ++ [settlement.id], lastId := some settlement.id }

def poll (feed : DashboardFeed ι) (found : List (FeedSettlement ι)) : DashboardFeed ι :=
  (found.take pageSize).foldl write feed

/-- The reply of a poll is the page. -/
def serve (feed : DashboardFeed ι) :
    FeedMove ι → Option (List (FeedSettlement ι)) × DashboardFeed ι
  | .insert settlement =>
      (none, { feed with settlements := feed.settlements ++ [settlement] })
  | .poll found => (some (found.take pageSize), feed.poll found)
  | .pollFails => (none, feed)

end DashboardFeed

end FacilitatorX402
