import SqlTrees.Format.Write
import SqlTrees.Rebuild.Pass

/-! # Counting nodes

Two counts of the nodes of a tree. `Node.writtenCount` counts on the written form, by the names of
members. `Pass.visitCounter` counts the visits of a traversal, kind by kind.
-/

namespace SqlTrees
set_option autoImplicit false

/-! ## On the written form -/

/-- Whether an object has a member of this name, other than null. -/
def hasContent (name : String) (members : List (String × Json)) : Bool :=
  match members.lookup name with
  | none | some .null => false
  | some _ => true

mutual

/-- Every `location` member marks a node, and so does every criteria that is not null: join criteria
have no location of their own. -/
def Json.nodeCount : Json → Nat
  | .arr items => nodeCountOfItems items
  | .obj members =>
    (if (members.lookup "location").isSome then 1 else 0) +
      (if hasContent "criteria" members then 1 else 0) + nodeCountOfMembers members
  | _ => 0

def nodeCountOfItems : List Json → Nat
  | [] => 0
  | j :: rest => j.nodeCount + nodeCountOfItems rest

def nodeCountOfMembers : List (String × Json) → Nat
  | [] => 0
  | (_, j) :: rest => j.nodeCount + nodeCountOfMembers rest

end

/-- The number of nodes, counted on the written form. -/
def Node.writtenCount (n : Node) : Nat :=
  n.toJson.nodeCount

/-! ## By visiting -/

/-- How many visits there were to each kind, without a bound. 64-bit counters and their sum have the
same values from every start whose sum stays below `UInt64.size` when the number of visits is added,
so from zeros for every tree that fits into memory. -/
abbrev Counts := Kind → Nat

namespace Counts

/-- One more visit to a kind. -/
def bump (c : Counts) (k : Kind) : Counts := fun l =>
  if l = k then c l + 1 else c l

/-- The kinds that were visited, in their order, with their counts. -/
def toList (c : Counts) : List (Kind × Nat) :=
  Kind.all.filterMap fun k => if c k = 0 then none else some (k, c k)

def total (c : Counts) : Nat :=
  Kind.all.foldr (fun k n => c k + n) 0

end Counts

/-- What the counting pass has seen. -/
structure Tally where
  /-- Visits begun. -/
  pre : Counts := fun _ => 0
  /-- Visits completed. -/
  post : Counts := fun _ => 0
  /-- The nodes begun and not completed, innermost first. -/
  openNodes : List Kind := []
  /-- The largest number of nodes that were open at once. -/
  maxDepth : Nat := 0
  /-- Whether every completed visit was the innermost one that was open. -/
  paired : Bool := true

namespace Tally

def enter (t : Tally) (k : Kind) : Tally :=
  { t with
    pre := t.pre.bump k
    openNodes := k :: t.openNodes
    maxDepth := max t.maxDepth (t.openNodes.length + 1) }

def leave (t : Tally) (k : Kind) : Tally :=
  { t with
    post := t.post.bump k
    openNodes := t.openNodes.tail
    paired := t.paired && t.openNodes.head? = some k }

def total (t : Tally) : Nat :=
  t.pre.total

end Tally

/-- Changes nothing and tallies every visit. -/
def Pass.visitCounter : Pass Tally UnsupportedKind where
  unsupported := id
  preVisit k := Walk.update (·.enter k)
  postVisit k := do
    Walk.update (·.leave k)
    let tally ← Walk.context
    Walk.report (.closed k tally.openNodes.length)

end SqlTrees
