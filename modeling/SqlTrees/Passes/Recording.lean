import SqlTrees.Format.Write
import SqlTrees.Passes.Failure
import SqlTrees.Rebuild.Method
import SqlTrees.Rebuild.Pass

/-! # Recording passes

Passes that write down the visits they make and the calls that reach a method they replace. A hook
can be made to fail at a chosen visit.
-/

namespace SqlTrees
set_option autoImplicit false

/-- The beginning or the end of a visit. -/
inductive Visit
  | enter (k : Kind)
  | leave (k : Kind)
deriving DecidableEq, Repr

/-- What a recording pass has written down. -/
structure Recording where
  visits : Array Visit := #[]
  calls : Array Json := #[]

namespace Recording

def visit (v : Visit) : Walk Recording PassError Unit :=
  Walk.update fun r => { r with visits := r.visits.push v }

def call (j : Json) : Walk Recording PassError Unit :=
  Walk.update fun r => { r with calls := r.calls.push j }

end Recording

/-- The visit at which a hook is to fail: the `nth` of its phase and kind, counted from one. -/
structure FailingHook where
  phase : Phase
  kind : Kind
  nth : Nat
deriving DecidableEq, Repr

/-- Fail if the visit that was written down last is the one to fail at. -/
def FailingHook.check (failing : Option FailingHook) (phase : Phase) (v : Visit) (k : Kind) :
    Walk Recording PassError Unit := do
  match failing with
  | none => pure ()
  | some f =>
    if f.phase = phase ∧ f.kind = k then
      let r ← Walk.context
      if r.visits.count v = f.nth then throw (.hook phase k f.nth)

namespace Pass

/-- Writes down every visit and changes nothing. -/
def trace (failing : Option FailingHook) : Pass Recording PassError where
  unsupported := .unsupported
  preVisit k := do
    Recording.visit (.enter k)
    FailingHook.check failing .pre (.enter k) k
  postVisit k := do
    Recording.visit (.leave k)
    FailingHook.check failing .post (.leave k) k

/-- Copies the nodes that have no standard rule, and writes down the name of the rule that each
would need. -/
def keepUnsupported : Pass Recording PassError where
  unsupported := .unsupported
  preVisit k := Recording.visit (.enter k)
  rule? k :=
    if k.treatment = .unsupported then
      some fun fields => do
        Recording.call (.str k.ruleName)
        return .ofFields k fields.before
    else none

end Pass

/-! ## Arguments of a method -/

/-- A field as an argument. A double is given as it is, be it finite or not. -/
def Field.argument : {τ : FieldType} → Field Tree τ → Json
  | .atom .double, .atom d => .double d
  | _, f => f.toJson

/-- The fields of a node as arguments, under their names; the location is none. -/
def Record.arguments : {s : Signature} → Record Tree s → List (String × Json)
  | _, .nil => []
  | (_, .atom .location) :: _, .cons _ rest => rest.arguments
  | (name, _) :: _, .cons f rest => (name, f.argument) :: rest.arguments

/-- Whether the rule of a kind is given the node. -/
def Kind.takesNode (k : Kind) : Bool :=
  match k.treatment, k.category with
  | .composite, .statement | .composite, .relation | .composite, .expression => k = .table
  | _, _ => true

/-- Whether the rule of a kind is given the node's fields. -/
def Kind.takesFields (k : Kind) : Bool :=
  match k with
  | .identifier | .longLiteral | .doubleLiteral | .decimalLiteral | .stringLiteral
  | .booleanLiteral | .table => true
  | k => !k.takesNode

/-- The order in which the rule of a function call is given the fields. -/
def callArguments : List String :=
  ["name", "window", "filter", "order_by", "distinct", "arguments"]

/-- The arguments that the rule of a kind is called with. -/
def Kind.arguments (k : Kind) (fields : Record Tree k.signature) : List Json :=
  let node : List Json := if k.takesNode then [(Tree.ofFields k fields).toJson] else []
  let named := if k.takesFields then fields.arguments else []
  match k with
  | .functionCall => callArguments.filterMap fun name => named.lookup name
  | _ => node ++ named.map Prod.snd

/-! ## Replacing a method -/

/-- What a replaced method answers: a tree of the category asked for, or nothing, and then it
fails. -/
structure Answer where
  tree? : (c : Category) → Option (Tree c)
  node? : Option Node

namespace Pass

/-- Write a call down and answer it. -/
def answer {α : Type} (name : String) (arguments : List Json) (result : Option α) :
    Walk Recording PassError α := do
  Recording.call (.arr arguments)
  match result with
  | some a => return a
  | none => throw (.rule name)

/-- Replaces one method by one that writes down its arguments and gives a fixed answer. -/
def replacing (m : Method) (a : Answer) : Pass Recording PassError where
  unsupported := .unsupported
  preVisit k := Recording.visit (.enter k)
  postVisit k := Recording.visit (.leave k)
  rule? k :=
    match m with
    | .rule name _ =>
      if k.ruleName = name then
        some fun fields => answer name (k.arguments fields.before) (a.tree? k.category)
      else none
    | _ => none
  dispatch? c :=
    match m with
    | .dispatcher d =>
      if d = c then some fun t => answer m.name [t.toJson] (a.tree? c) else none
    | _ => none
  process? :=
    match m with
    | .process => some fun n => answer m.name [n.toJson] a.node?
    | _ => none
  rebuild? :=
    match m with
    | .rebuild => some fun n => answer m.name [n.toJson] a.node?
    | _ => none

end Pass
end SqlTrees
