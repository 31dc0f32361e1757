/-! # Depth-first finishing order

An exploration of a finite graph with an explicit stack. A node on top of the stack that is new is
discovered, and its undiscovered successors are put above it; one that has been discovered is taken
off, and finished if it is not finished yet. A node may be on the stack more than once. Each step
discovers a node or shortens the stack, so a search ends.

Finished nodes are kept with the last one first. On an acyclic graph that is an order in which each
node stands before its successors.
-/

namespace SqlTrees
set_option autoImplicit false

/-- A search under way. -/
structure Search where
  discovered : List Nat := []
  /-- What is still to be looked at, top first. -/
  stack : List Nat := []
  /-- The finished nodes, last one first. -/
  finished : List Nat := []
deriving DecidableEq, Repr

namespace Search

/-- One look at the top of the stack. -/
def step (successors : Nat → List Nat) (s : Search) : Search :=
  match s.stack with
  | [] => s
  | n :: rest =>
    if n ∈ s.discovered then
      { s with
        stack := rest
        finished := if n ∈ s.finished then s.finished else n :: s.finished }
    else
      let discovered := n :: s.discovered
      let fresh := (successors n).filter fun m => m ∉ discovered
      { s with discovered, stack := fresh.reverse ++ n :: rest }

/-- Steps until the stack is empty, at most as many as given. -/
def run (successors : Nat → List Nat) : Nat → Search → Search
  | 0, s => s
  | fuel + 1, s => if s.stack.isEmpty then s else run successors fuel (s.step successors)

/-- Explore from a node, unless it has been discovered. -/
def explore (successors : Nat → List Nat) (fuel : Nat) (s : Search) (root : Nat) : Search :=
  if root ∈ s.discovered then s else run successors fuel { s with stack := [root] }

/-- The search from each of some nodes in turn. -/
def exploreAll (successors : Nat → List Nat) (fuel : Nat) (roots : List Nat) : Search :=
  roots.foldl (explore successors fuel) {}

end Search
end SqlTrees
