import Polymesh.Library.OrderedLists
import Polymesh.Primitives

/-!
# Checkpoint schedules

The pending times of a checkpoint schedule, and the cache over all schedules of a ticker
(`pallets/common/src/traits/checkpoint.rs`). The cache holds the next time of every schedule,
the least of them, and the number of pending times, each kept up to date by its own rule.
-/

namespace Polymesh

open OrderedLists

abbrev ScheduleId := Fin (2 ^ 64)

/-- `Moment::MAX`. -/
def momentMax : Moment := 2 ^ 64 - 1

/-- The pending times of a schedule, the next one first. -/
structure ScheduleCheckpoints where
  pending : OrderedList fun a b : Moment => a < b
  bounded : ∀ at_ ∈ pending.elems, at_ ≤ momentMax

namespace ScheduleCheckpoints

variable (c : ScheduleCheckpoints) (now : Moment)

def len : ℕ := c.pending.elems.length

def next : Option Moment := c.pending.elems.head?

def ensureNoExpired : Bool := c.pending.elems.all (now ≤ ·)

/-- The times that have come. -/
def due : List Moment := c.pending.elems.filter (· ≤ now)

/-- The times that have not come. -/
def notDue : ScheduleCheckpoints where
  pending := c.pending.filter (now < ·)
  bounded at_ h := c.bounded at_ (List.mem_of_mem_filter h)

end ScheduleCheckpoints

/-- The least of some times; `Moment::MAX` where there are none. -/
def minNext (times : List Moment) : Moment :=
  times.foldl (fun least next => if next < least then next else least) momentMax

structure NextCheckpoints where
  nextAt : Moment
  totalPending : ℕ
  schedules : OrderedMap ScheduleId Moment

namespace NextCheckpoints

/-- The cache without schedules. -/
def default : NextCheckpoints := ⟨momentMax, 0, .empty _⟩

variable (c : NextCheckpoints)

def isEmpty : Bool := c.schedules.elems.isEmpty

def expired (now : Moment) : Bool := c.nextAt ≤ now

/-- Take out the schedules whose next time has come. -/
def expiredSchedules (now : Moment) : List ScheduleId × NextCheckpoints :=
  let left := c.schedules.filter (now < ·.2)
  ((c.schedules.elems.filter (·.2 ≤ now)).map Prod.fst,
    { c with schedules := left, nextAt := minNext (left.elems.map Prod.snd) })

def incTotalPending (num : ℕ) : NextCheckpoints :=
  { c with totalPending := saturatingAdd 64 c.totalPending num }

/-- `saturating_sub` is the subtraction of natural numbers. -/
def decTotalPending (num : ℕ) : NextCheckpoints :=
  { c with totalPending := c.totalPending - num }

def recalNext : NextCheckpoints :=
  { c with nextAt := minNext (c.schedules.elems.map Prod.snd) }

def addScheduleNext (id : ScheduleId) (cp : Moment) : NextCheckpoints :=
  { c with
    schedules := c.schedules.insert id cp
    nextAt := if cp < c.nextAt then cp else c.nextAt }

def removeSchedule (id : ScheduleId) : NextCheckpoints :=
  let left : NextCheckpoints := { c with schedules := c.schedules.erase id }
  if some c.nextAt = c.schedules.lookup id then left.recalNext else left

end NextCheckpoints

end Polymesh
