import FactoryHub.Lib.Reassert
import FactoryHub.Llsf.Robots

/-!
# Facts in order

Three rules of high salience keep facts in the order of their numbers, so that `do-for-all-facts`
goes through them in this order: `sort-orders`, `sort-pucks` and `robots-sort`. Each modifies no
slot; it is the retracting and asserting of `modify` that moves the fact.
-/

namespace FactoryHub.Llsf

open Lib

/-- A puck fact with its id. -/
structure PuckFact extends Puck where
  id : Int
  deriving DecidableEq, Repr

/-- Rule `sort-orders`. -/
def sortOrders : FactList Order → FactList Order → Prop := FactList.Fires Order.id

/-- Rule `sort-pucks`. -/
def sortPucks : FactList PuckFact → FactList PuckFact → Prop := FactList.Fires PuckFact.id

/-- Rule `robots-sort`. -/
def robotsSort : FactList Robot → FactList Robot → Prop := FactList.Fires Robot.number

/-- **Sorting by assertion ends**: whichever enabled pairs the rules fire for, and whatever the fact
indices are. -/
theorem sorting_ends (orders : FactList Order) (pucks : FactList PuckFact)
    (robots : FactList Robot) (horders : (orders.facts.map (fun f => f.fact.id)).Nodup)
    (hpucks : (pucks.facts.map (fun f => f.fact.id)).Nodup)
    (hrobots : (robots.facts.map (fun f => f.fact.number)).Nodup) :
    orders.Sorts sortOrders Order.id ∧ pucks.Sorts sortPucks PuckFact.id ∧
      robots.Sorts robotsSort Robot.number := by
  refine ⟨?_, ?_, ?_⟩
  · exact FactList.sorts horders
  · exact FactList.sorts hpucks
  · exact FactList.sorts hrobots

/-- A robot of a team. -/
def robotOf (number : Int) (name : String) : Robot where
  number := number
  team := "CYAN"
  teamColor := some .cyan
  name := name
  host := "robot"
  port := 4444
  lastSeen := ⟨0, 0⟩

/-- The orders 3, 1 and 2, the pucks 2 and 1, and the robots 3, 2 and 1. -/
theorem sorting_ends_of_three_orders :
    FactList.Sorts sortOrders Order.id
        ⟨[⟨10, { id := 3, team := .cyan, product := .p3 }⟩,
          ⟨12, { id := 1, team := .cyan, product := .p3 }⟩,
          ⟨17, { id := 2, team := .cyan, product := .p1 }⟩], by decide⟩ ∧
      FactList.Sorts sortPucks PuckFact.id ⟨[⟨3, { id := 2 }⟩, ⟨8, { id := 1 }⟩], by decide⟩ ∧
      FactList.Sorts robotsSort Robot.number
        ⟨[⟨4, robotOf 3 "R-3"⟩, ⟨5, robotOf 2 "R-2"⟩, ⟨9, robotOf 1 "R-1"⟩], by decide⟩ :=
  sorting_ends _ _ _ (by decide) (by decide) (by decide)

end FactoryHub.Llsf
