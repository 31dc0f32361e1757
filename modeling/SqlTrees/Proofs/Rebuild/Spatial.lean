import SqlTrees.Passes.Spatial
import SqlTrees.Proofs.Rebuild.Identity
import SqlTrees.Proofs.Tree.Situated

/-! # Resolving spatial predicates

* `Occurrence.isContains`: the calls that the pass resolves.
* `Resolves`, `Tree.ResolvesTo`: what a tree is rebuilt as. Nothing is left to resolve in the
  result, and a tree with nothing to resolve is only cleared.
* `Balanced`: how a walk ends that started from a stack of open nodes.
* `Pass.rule_ends`, `Pass.visit_node_balanced`: the rule of a node, and its visit.
* `Tree.visit_balanced`: so ends the visit of every tree.
* `spatial_conservative_balanced_idempotent`: and so does the pass.
-/

namespace SqlTrees
set_option autoImplicit false

/-! ## What there is to resolve -/

/-- Whether a node is a call of `CONTAINS`. -/
def Occurrence.isContains : Occurrence → Bool
  | ⟨.functionCall, .cons (.atom name) _⟩ => sameIgnoringCase name.suffix "contains"
  | _ => false

theorem Occurrence.isContains_of_ne {x : Occurrence} (h : x.kind ≠ .functionCall) :
    x.isContains = false := by
  obtain ⟨k, fields⟩ := x
  cases k <;> first | rfl | exact absurd rfl h

/-- Nodes with a standard rule, none of them a call of `CONTAINS`. -/
def AllResolved (xs : List Occurrence) : Prop :=
  ∀ x ∈ xs, x.kind ∉ Kind.unruled ∧ x.isContains = false

theorem AllResolved.append {xs ys : List Occurrence} (hx : AllResolved xs) (hy : AllResolved ys) :
    AllResolved (xs ++ ys) :=
  List.forall_mem_append.2 ⟨hx, hy⟩

/-! ## What is rebuilt as what -/

/-- Something with the nodes `before` is rebuilt as something with the nodes `after`. Of the result
it is said that it is `settled`, and if there was nothing to resolve, that it is the `same`. -/
structure Resolves (before after : List Occurrence) (settled same : Prop) : Prop where
  resolved : AllResolved after
  settled : settled
  same : (∀ x ∈ before, x.isContains = false) → (∀ x ∈ before, x.kind ∉ Kind.unruled) ∧ same

namespace Resolves
variable {before after before' after' : List Occurrence} {settled settled' settled'' : Prop}
  {same same' same'' : Prop}

theorem imp (h : Resolves before after settled same) (hs : settled → settled')
    (he : same → same') : Resolves before after settled' same' where
  resolved := h.resolved
  settled := hs h.settled
  same hb := ⟨(h.same hb).1, he (h.same hb).2⟩

theorem append (h : Resolves before after settled same)
    (h' : Resolves before' after' settled' same') (hs : settled → settled' → settled'')
    (he : same → same' → same'') :
    Resolves (before ++ before') (after ++ after') settled'' same'' where
  resolved := h.resolved.append h'.resolved
  settled := hs h.settled h'.settled
  same hb := by
    obtain ⟨hb, hb'⟩ := List.forall_mem_append.1 hb
    obtain ⟨ruled, e⟩ := h.same hb
    obtain ⟨ruled', e'⟩ := h'.same hb'
    exact ⟨List.forall_mem_append.2 ⟨ruled, ruled'⟩, he e e'⟩

theorem nothing (hs : settled) (he : same) : Resolves [] [] settled same where
  resolved := List.forall_mem_nil _
  settled := hs
  same _ := ⟨List.forall_mem_nil _, he⟩

end Resolves

def Tree.ResolvesTo {c : Category} (t r : Tree c) : Prop :=
  Resolves t.nodes r.nodes (r.cleared = r) (r = t.cleared)

def Record.ResolvesTo {s : Signature} (f r : Record Tree s) : Prop :=
  Resolves f.nodes r.nodes (r.cleared = r) (r = f.cleared)

def Field.ResolvesTo {τ : FieldType} (f r : Field Tree τ) : Prop :=
  Resolves f.nodes r.nodes (r.cleared = r) (r = f.cleared)

theorem Field.ResolvesTo.atom {a : Atom} (v : a.Carrier) :
    (Field.atom v : Field Tree (.atom a)).ResolvesTo (.atom v) :=
  .nothing rfl rfl

theorem Field.ResolvesTo.cons {τ : FieldType} {f r : Field Tree τ} {fs rs : Field Tree (.list τ)}
    (h : f.ResolvesTo r) (hs : fs.ResolvesTo rs) :
    (Field.cons f fs).ResolvesTo (Field.cons r rs) :=
  Resolves.append h hs (fun e es => by rw [Field.cleared, e, es])
    (fun e es => by rw [Field.cleared, e, es])

theorem Record.ResolvesTo.cons {name : String} {τ : FieldType} {s : Signature} {f r : Field Tree τ}
    {fs rs : Record Tree s} (h : f.ResolvesTo r) (hs : fs.ResolvesTo rs) :
    (Record.cons f fs : Record Tree ((name, τ) :: s)).ResolvesTo (Record.cons r rs) :=
  Resolves.append h hs (fun e es => by rw [Record.cleared, e, es])
    (fun e es => by rw [Record.cleared, e, es])

/-- A leaf is rebuilt as it stands. -/
theorem Tree.resolvesTo_leaf {k : Kind} (hk : k ∈ Kind.leaves) (fields : Record Tree k.signature) :
    (Tree.ofFields k fields).ResolvesTo (.ofFields k fields) := by
  have childless := Kind.childless_of_mem_leaves hk
  have cleared : (Tree.ofFields k fields).cleared = .ofFields k fields := by
    rw [Tree.cleared, if_pos hk, fields.cleared_of_childless childless]
  have ruled : k ∉ Kind.unruled := by
    rw [← Kind.treatment_eq_unsupported_iff, (Kind.treatment_eq_leaf_iff k).2 hk]
    exact nofun
  have plain : k ≠ .functionCall := by
    rintro rfl
    exact absurd hk (by decide)
  have nodes : (Tree.ofFields k fields).nodes = [⟨k, fields⟩] := by
    rw [Tree.nodes, fields.nodes_of_childless childless]
  refine ⟨?_, cleared, fun _ => ⟨?_, cleared.symm⟩⟩ <;> rw [nodes]
  · exact List.forall_mem_singleton.2 ⟨ruled, Occurrence.isContains_of_ne plain⟩
  · exact List.forall_mem_singleton.2 ruled

/-- A composite is rebuilt from its rebuilt fields. -/
theorem Tree.resolvesTo_composite {k : Kind} (hl : k ∉ Kind.leaves) (hu : k ∉ Kind.unruled)
    {fields rebuilt : Record Tree k.signature} (h : fields.ResolvesTo rebuilt)
    (plain : (⟨k, rebuilt.unlocated⟩ : Occurrence).isContains = false) :
    (Tree.ofFields k fields).ResolvesTo (.ofFields k rebuilt.unlocated) where
  resolved := by
    rw [Tree.nodes, rebuilt.nodes_unlocated]
    exact List.forall_mem_cons.2 ⟨⟨hu, plain⟩, h.resolved⟩
  settled := by
    rw [Tree.cleared, if_neg hl, Record.cleared_unlocated, h.settled, Record.unlocated_unlocated]
  same hb := by
    rw [Tree.nodes] at hb ⊢
    obtain ⟨ruled, e⟩ := h.same (List.forall_mem_cons.1 hb).2
    refine ⟨List.forall_mem_cons.2 ⟨hu, ruled⟩, ?_⟩
    rw [Tree.cleared, if_neg hl, e]

/-! ## What a call of `CONTAINS` becomes -/

/-- A tree on which nothing is left to do. -/
def Tree.Resolved {c : Category} (t : Tree c) : Prop :=
  AllResolved t.nodes ∧ t.cleared = t

theorem Field.resolved_children {c : Category} : (f : Field Tree (.list (.child c))) →
    AllResolved f.nodes → f.cleared = f → ∀ t ∈ f.children, t.Resolved
  | .nil, _, _ => List.forall_mem_nil _
  | .cons (.child t) fs, nodes, cleared => by
    obtain ⟨first, later⟩ := List.forall_mem_append.1 nodes
    rw [Field.cleared, Field.cleared, Field.cons.injEq, Field.child.injEq] at cleared
    exact List.forall_mem_cons.2 ⟨⟨first, cleared.1⟩, fs.resolved_children later cleared.2⟩

theorem Field.resolved_ofChildren {c : Category} : (ts : List (Tree c)) →
    (∀ t ∈ ts, t.Resolved) →
    AllResolved (ofChildren ts : Field Tree (.list (.child c))).nodes ∧
      (ofChildren ts : Field Tree (.list (.child c))).cleared = ofChildren ts
  | [], _ => ⟨List.forall_mem_nil _, rfl⟩
  | t :: ts, h => by
    obtain ⟨⟨nodes, cleared⟩, hts⟩ := List.forall_mem_cons.1 h
    obtain ⟨nodes', cleared'⟩ := resolved_ofChildren ts hts
    change AllResolved (t.nodes ++ (ofChildren ts : Field Tree _).nodes) ∧
      Field.cons (.child t.cleared) (ofChildren ts : Field Tree _).cleared = .cons (.child t) _
    rw [cleared, cleared']
    exact ⟨nodes.append nodes', rfl⟩

theorem Expression.call?_eq_some {e : Expression} {name : QualifiedName}
    {arguments : List Expression} (h : e.call? = some (name, arguments)) :
    ∃ distinct f rest, e = .node .functionCall rfl (.cons (.atom name) <| .cons distinct <|
      .cons f rest) ∧ arguments = f.children := by
  match e with
  | .node k isA fields =>
    by_cases hk : k = .functionCall
    · subst hk
      match fields with
      | .cons (.atom _) (.cons distinct (.cons f rest)) =>
        cases h
        exact ⟨distinct, f, rest, rfl, rfl⟩
    · have other : call? (.node k isA fields) = none := by
        cases k <;> first | rfl | exact absurd rfl hk
      rw [other] at h
      cases h

/-- The arguments of a call are resolved with the call. -/
theorem Expression.resolved_of_callOf? {e : Expression} (he : e.Resolved) {name : String}
    {arguments : List Expression} (h : e.callOf? name = some arguments) :
    ∀ a ∈ arguments, a.Resolved := by
  unfold callOf? at h
  split at h
  · next call =>
    rw [Option.ite_none_right_eq_some] at h
    obtain rfl := Option.some.inj h.2
    obtain ⟨distinct, f, rest, rfl, rfl⟩ := call?_eq_some call
    obtain ⟨nodes, cleared⟩ := he
    have inside : AllResolved f.nodes := by
      intro x hx
      apply nodes
      rw [Tree.nodes, Record.nodes, Record.nodes, Record.nodes]
      simp [hx]
    have fixed : f.cleared = f := by
      rw [Tree.cleared, if_neg (by decide), Tree.node.injEq] at cleared
      simp only [heq_eq_eq, true_and, Record.cleared, Record.unlocated, Record.cons.injEq]
        at cleared
      exact cleared.2.2.1
    exact f.resolved_children inside fixed
  · cases h

theorem shapeTest_resolved {shape : Expression} (hs : shape.Resolved) {function : String}
    {coordinates : List Expression} (h : shapeTest shape = .ok (function, coordinates)) :
    sameIgnoringCase (QualifiedName.parse function).suffix "contains" = false ∧
      ∀ a ∈ coordinates, a.Resolved := by
  unfold shapeTest at h
  split at h
  · next call =>
    cases h
    exact ⟨by decide, Expression.resolved_of_callOf? hs call⟩
  · split at h
    · next call =>
      split at h
      · cases h
      · cases h
        exact ⟨by decide, Expression.resolved_of_callOf? hs call⟩
    · cases h

theorem resolveContains_resolved {parent : Option Kind} {arguments : List Expression}
    (ha : ∀ a ∈ arguments, a.Resolved) {function : String} {coordinates : List Expression}
    (h : resolveContains parent arguments = .ok (function, coordinates)) :
    sameIgnoringCase (QualifiedName.parse function).suffix "contains" = false ∧
      ∀ a ∈ coordinates, a.Resolved := by
  unfold resolveContains at h
  split at h
  · split at h
    · next point shape =>
      obtain ⟨hp, hs⟩ := List.forall_mem_cons.1 ha
      have hs := List.forall_mem_singleton.1 hs
      split at h
      · next position call =>
        rcases ht : shapeTest shape with e | ⟨f, rest⟩
        · rw [ht] at h
          cases h
        · rw [ht] at h
          cases h
          obtain ⟨name, resolved⟩ := shapeTest_resolved hs ht
          exact ⟨name, List.forall_mem_append.2
            ⟨Expression.resolved_of_callOf? hp call, resolved⟩⟩
      · cases h
    · cases h
  · cases h

/-- A call of another function, over resolved arguments. -/
theorem Expression.resolved_call {function : String} {arguments : List Expression}
    (name : sameIgnoringCase (QualifiedName.parse function).suffix "contains" = false)
    (ha : ∀ a ∈ arguments, a.Resolved) : (Expression.call function arguments).Resolved := by
  obtain ⟨nodes, cleared⟩ := Field.resolved_ofChildren arguments ha
  constructor
  · change AllResolved (_ :: ([] ++ ([] ++ ((Field.ofChildren arguments).nodes ++ []))))
    simp only [List.nil_append, List.append_nil]
    have ruled : Kind.functionCall ∉ Kind.unruled := by decide
    exact List.forall_mem_cons.2 ⟨⟨ruled, name⟩, nodes⟩
  · change Tree.node .functionCall rfl (.cons _ <| .cons _ <|
      .cons (Field.ofChildren arguments).cleared _) = _
    rw [cleared]
    rfl

/-! ## How walks end -/

/-- The rule of a node stops the pass: it fails with the path to the node on the stack, where it
started too. So it is this node's own rule that fails, and not that of a node below it. -/
structure Situated.Stops (stack : List Kind) (x : Situated) (e : SpatialError)
    (q : Progress (List Kind)) : Prop where
  cause : x.node.kind ∈ Kind.unruled ∨ x.node.isContains = true
  context : q.context = x.path.reverse ++ stack
  rule : ∃ events, Pass.spatial.rule x.node.kind (x.node.fields.attach Pass.spatial)
    ⟨x.path.reverse ++ stack, events⟩ = (.error e, q)

theorem Situated.Stops.under {k : Kind} {stack : List Kind} {x : Situated} {e : SpatialError}
    {q : Progress (List Kind)} (h : x.Stops (k :: stack) e q) : (x.under k).Stops stack e q := by
  have path : (x.under k).path.reverse ++ stack = x.path.reverse ++ k :: stack := by
    rw [x.path_under, List.reverse_cons, List.append_assoc, List.singleton_append]
  exact ⟨h.cause, path ▸ h.context, path ▸ h.rule⟩

section Balanced
variable {α β : Type}

/-- How a walk ends that started from a stack: with the same stack, or stopped at one of these
places. -/
inductive Balanced (stack : List Kind) (places : List Situated) (good : α → Prop) :
    Except SpatialError α × Progress (List Kind) → Prop
  | done {a : α} (events : Array Event) (h : good a) :
      Balanced stack places good (.ok a, ⟨stack, events⟩)
  | stopped {x : Situated} {e : SpatialError} {q : Progress (List Kind)} (hx : x ∈ places)
      (h : x.Stops stack e q) : Balanced stack places good (.error e, q)

namespace Balanced
variable {stack : List Kind} {places others : List Situated} {good : α → Prop} {better : β → Prop}
  {w : Walk (List Kind) SpatialError α} {events : Array Event}

theorem bind (h : Balanced stack places good (w ⟨stack, events⟩)) (among : places ⊆ others)
    {f : α → Walk (List Kind) SpatialError β}
    (hf : ∀ a events, good a → Balanced stack others better (f a ⟨stack, events⟩)) :
    Balanced stack others better ((w >>= f) ⟨stack, events⟩) := by
  rw [Walk.bind_apply]
  generalize w ⟨stack, events⟩ = p at h
  cases h with
  | done events ha => exact hf _ events ha
  | stopped hx h => exact .stopped (among hx) h

theorem map (h : Balanced stack places good (w ⟨stack, events⟩)) {f : α → β}
    (hf : ∀ a, good a → better (f a)) :
    Balanced stack places better ((do return f (← w)) ⟨stack, events⟩) :=
  h.bind (List.Subset.refl _) fun a events ha => .done events (hf a ha)

end Balanced
end Balanced

/-! ## Fields of a node -/

/-- Whether the fields of a record all have a property. -/
def Record.Each (p : {τ : FieldType} → Field Tree τ → Prop) : {s : Signature} → Record Tree s → Prop
  | _, .nil => True
  | _, .cons f r => p f ∧ r.Each p

/-- Rebuilding what a field holds leaves the stack balanced. -/
def Field.Balances {τ : FieldType} (f : Field Tree τ) : Prop :=
  ∀ stack events, Balanced stack f.situated f.ResolvesTo
    ((f.attach Pass.spatial).traverse Child.rebuilt ⟨stack, events⟩)

theorem Record.rebuilt_balanced : {s : Signature} → (r : Record Tree s) → r.Each Field.Balances →
    ∀ stack events, Balanced stack r.situated r.ResolvesTo
      ((r.attach Pass.spatial).rebuilt ⟨stack, events⟩)
  | _, .nil, _, _, events => .done events (.nothing rfl rfl)
  | _, .cons f r, h, stack, events => by
    have ih := r.rebuilt_balanced h.2
    rw [Record.attach, Record.rebuilt, Record.traverse, Record.situated]
    refine (h.1 stack events).bind (List.subset_append_left _ _) fun g events hg => ?_
    refine (ih stack events).bind (List.subset_append_right _ _) fun rest events hrest => ?_
    exact .done events (Record.ResolvesTo.cons hg hrest)

/-! ## Nodes -/

namespace Pass

theorem spatial_direct : spatial.Direct :=
  ⟨fun _ => rfl, rfl, rfl⟩

theorem spatial_rule_of_ne {k : Kind} (hk : k ≠ .functionCall) :
    spatial.rule k = spatial.standardRule k := by
  cases k <;> first | rfl | exact absurd rfl hk

/-- How the rule of a node ends that started with the node on the stack: balanced, unless it was
itself what failed. -/
inductive RuleEnds {k : Kind} (fields : Record Tree k.signature) (stack : List Kind) :
    Except SpatialError (Tree k.category) × Progress (List Kind) → Prop
  | balanced {p : Except SpatialError (Tree k.category) × Progress (List Kind)}
      (h : Balanced (k :: stack) fields.situated (Tree.ofFields k fields).ResolvesTo p) :
      RuleEnds fields stack p
  | refused {e : SpatialError} (events : Array Event)
      (cause : k ∈ Kind.unruled ∨ (⟨k, fields⟩ : Occurrence).isContains = true) :
      RuleEnds fields stack (.error e, ⟨k :: stack, events⟩)

/-- The standard rule of any other node than a call. -/
theorem standardRule_ends {k : Kind} (hk : k ≠ .functionCall) (fields : Record Tree k.signature)
    (ih : fields.Each Field.Balances) (stack : List Kind) (events : Array Event) :
    RuleEnds fields stack
      (spatial.standardRule k (fields.attach spatial) ⟨k :: stack, events⟩) := by
  by_cases hu : k ∈ Kind.unruled
  · rw [standardRule_unruled _ hu]
    exact .refused (events.push (.unsupported k)) (.inl hu)
  · by_cases hl : k ∈ Kind.leaves
    · rw [standardRule_leaf _ hl, Record.before_attach]
      exact .balanced (.done events (Tree.resolvesTo_leaf hl fields))
    · rw [standardRule_composite _ hl hu]
      refine .balanced ((fields.rebuilt_balanced ih (k :: stack) events).map fun r hr => ?_)
      exact Tree.resolvesTo_composite hl hu hr (Occurrence.isContains_of_ne hk)

section Call
variable (name : QualifiedName) (distinct : Bool)
  (arguments : Field Tree (.list (.child .expression)))
  (orderBy : Field Tree (.option (.child .orderBy)))
  (window : Field Tree (.option (.child .window)))
  (filter : Field Tree (.option (.child .expression))) (location : Location)

/-- The fields of a call. -/
def callFields : Record Tree Kind.functionCall.signature :=
  .cons (.atom name) <| .cons (.atom distinct) <| .cons arguments <| .cons orderBy <|
    .cons window <| .cons filter <| .cons (.atom location) .nil

/-- The rule of a call: its arguments first, and then it is a call of `CONTAINS` or it is not. -/
theorem spatial_call :
    spatial.rule .functionCall
        ((callFields name distinct arguments orderBy window filter location).attach spatial) =
      (do
        let arguments ← (arguments.attach spatial).traverse Child.rebuilt
        if sameIgnoringCase name.suffix "contains" then
          let stack ← Walk.context
          let (function, coordinates) ←
            ExceptT.mk (pure (resolveContains stack[1]? arguments.children))
          Walk.report (.spatialCall function)
          return Expression.call function coordinates
        else
          let window ← (window.attach spatial).traverse Child.rebuilt
          let filter ← (filter.attach spatial).traverse Child.rebuilt
          let orderBy ← (orderBy.attach spatial).traverse Child.rebuilt
          return .ofFields .functionCall
            (callFields name distinct arguments orderBy window filter none)) := rfl

theorem situated_callFields :
    (callFields name distinct arguments orderBy window filter location).situated =
      arguments.situated ++ (orderBy.situated ++ (window.situated ++ filter.situated)) := by
  simp [callFields, Record.situated, Field.situated]

variable {name distinct arguments orderBy window filter location}

/-- A call of another function, from its rebuilt fields. -/
theorem resolvesTo_call (other : sameIgnoringCase name.suffix "contains" = false)
    {arguments' : Field Tree (.list (.child .expression))} (ha : arguments.ResolvesTo arguments')
    {orderBy' : Field Tree (.option (.child .orderBy))} (ho : orderBy.ResolvesTo orderBy')
    {window' : Field Tree (.option (.child .window))} (hw : window.ResolvesTo window')
    {filter' : Field Tree (.option (.child .expression))} (hf : filter.ResolvesTo filter') :
    (Tree.ofFields .functionCall
        (callFields name distinct arguments orderBy window filter location)).ResolvesTo
      (.ofFields .functionCall
        (callFields name distinct arguments' orderBy' window' filter' none)) := by
  have fields : (callFields name distinct arguments orderBy window filter location).ResolvesTo
      (callFields name distinct arguments' orderBy' window' filter' location) :=
    .cons (.atom (a := .name) name) <| .cons (.atom (a := .flag) distinct) <| .cons ha <|
      .cons ho <| .cons hw <| .cons hf <| .cons (.atom (a := .location) location)
        (.nothing rfl rfl)
  exact Tree.resolvesTo_composite (k := .functionCall) (by decide) (by decide) fields other

/-- A call of `CONTAINS` becomes a call over resolved arguments. -/
theorem resolvesTo_contains (contains : sameIgnoringCase name.suffix "contains" = true)
    {function : String} {coordinates : List Expression}
    (h : (Expression.call function coordinates).Resolved) :
    (Tree.ofFields .functionCall
        (callFields name distinct arguments orderBy window filter location)).ResolvesTo
      (Expression.call function coordinates) where
  resolved := h.1
  settled := h.2
  same hb := by
    have plain : sameIgnoringCase name.suffix "contains" = false :=
      hb ⟨.functionCall, _⟩ List.mem_cons_self
    rw [contains] at plain
    cases plain

theorem call_ends (ha : arguments.Balances) (ho : orderBy.Balances) (hw : window.Balances)
    (hf : filter.Balances) (stack : List Kind) (events : Array Event) :
    RuleEnds (callFields name distinct arguments orderBy window filter location) stack
      (spatial.rule .functionCall
        ((callFields name distinct arguments orderBy window filter location).attach spatial)
        ⟨.functionCall :: stack, events⟩) := by
  have first := ha (.functionCall :: stack) events
  rw [spatial_call, Walk.bind_apply]
  generalize (arguments.attach spatial).traverse Child.rebuilt ⟨.functionCall :: stack, events⟩ = p
    at first
  have among := situated_callFields name distinct arguments orderBy window filter location
  -- the arguments are rebuilt whatever the name is; only then do the two ways part
  cases first with
  | stopped hx h =>
    refine .balanced (.stopped ?_ h)
    rw [among]
    exact List.mem_append_left _ hx
  | done events hr =>
    rename_i rebuilt
    simp only
    cases contains : sameIgnoringCase name.suffix "contains" with
    | true =>
      rw [if_pos rfl, Walk.bind_apply, Walk.context_apply]
      simp only [Walk.bind_apply]
      rcases call : resolveContains (Kind.functionCall :: stack)[1]? rebuilt.children with
        e | ⟨function, coordinates⟩
      · exact .refused events (.inr contains)
      · have children := rebuilt.resolved_children hr.resolved hr.settled
        obtain ⟨other, resolved⟩ := resolveContains_resolved children call
        exact .balanced (.done (events.push (.spatialCall function))
          (resolvesTo_contains contains (Expression.resolved_call other resolved)))
    | false =>
      rw [if_neg (by decide)]
      refine .balanced ?_
      rw [among]
      refine (hw _ _).bind (by grind) fun window events hw => ?_
      refine (hf _ _).bind (by grind) fun filter events hf => ?_
      refine (ho _ _).bind (by grind) fun orderBy events ho => ?_
      exact .done events (resolvesTo_call contains hr ho hw hf)

end Call

theorem rule_ends {k : Kind} (fields : Record Tree k.signature) (ih : fields.Each Field.Balances)
    (stack : List Kind) (events : Array Event) :
    RuleEnds fields stack (spatial.rule k (fields.attach spatial) ⟨k :: stack, events⟩) := by
  by_cases hk : k = .functionCall
  · subst hk
    match fields, ih with
    | .cons (.atom name) <| .cons (.atom distinct) <| .cons arguments <| .cons orderBy <|
        .cons window <| .cons filter <| .cons (.atom location) .nil, ih =>
      obtain ⟨-, -, ha, ho, hw, hf, -⟩ := ih
      exact call_ends ha ho hw hf stack events
  · rw [spatial_rule_of_ne hk]
    exact standardRule_ends hk fields ih stack events

/-- The visit of a node puts it on the stack and takes it off again. -/
theorem visit_node_balanced {k : Kind} (fields : Record Tree k.signature)
    (ih : fields.Each Field.Balances) (stack : List Kind) (events : Array Event) :
    Balanced stack (Tree.ofFields k fields).situated (Tree.ofFields k fields).ResolvesTo
      ((Tree.ofFields k fields).visit spatial ⟨stack, events⟩) := by
  have rule := rule_ends fields ih stack (events.push (.rebuildingNode k))
  -- a visit that fails does not come to the hook that would take the node off the stack
  have visit : (Tree.ofFields k fields).visit spatial ⟨stack, events⟩ =
      match spatial.rule k (fields.attach spatial)
          ⟨k :: stack, events.push (.rebuildingNode k)⟩ with
      | (.ok t, q) => (.ok t, { q with context := q.context.tail })
      | (.error e, q) => (.error e, q) := by
    have opened : (Tree.ofFields k fields).visit spatial ⟨stack, events⟩ =
        (do
          let result ← spatial.rule k (fields.attach spatial)
          spatial.postVisit k
          return result) ⟨k :: stack, events.push (.rebuildingNode k)⟩ := rfl
    rw [opened, Walk.bind_apply]
    rcases spatial.rule k (fields.attach spatial)
      ⟨k :: stack, events.push (.rebuildingNode k)⟩ with ⟨e | t, q⟩ <;> rfl
  rw [visit]
  generalize hrun : spatial.rule k (fields.attach spatial)
    ⟨k :: stack, events.push (.rebuildingNode k)⟩ = p at rule
  cases rule with
  | balanced h =>
    cases h with
    | done events h => exact .done events h
    | stopped hx h => exact .stopped (List.mem_cons_of_mem _ (List.mem_map_of_mem hx)) h.under
  | refused events cause =>
    exact .stopped List.mem_cons_self ⟨cause, rfl, _, hrun⟩

end Pass

/-! ## Whole trees -/

mutual

theorem Tree.visit_balanced : {c : Category} → (t : Tree c) → ∀ stack events,
    Balanced stack t.situated t.ResolvesTo (t.visit Pass.spatial ⟨stack, events⟩)
  | _, .node _ rfl fields, stack, events =>
    Pass.visit_node_balanced fields fields.each_balances stack events
  | _, .inclusion i t, stack, events => by
    have ih := t.visit_balanced stack events
    rw [Tree.visit, Pass.spatial_direct.dispatch_eq, ite_self, Tree.situated]
    refine ih.map fun r hr => ?_
    refine hr.imp (fun e => ?_) (fun e => ?_)
    · rw [Tree.cleared, e]
    · rw [Tree.cleared, e]

theorem Record.each_balances : {s : Signature} → (r : Record Tree s) → r.Each Field.Balances
  | _, .nil => trivial
  | _, .cons f r => ⟨f.traverse_balanced, r.each_balances⟩

theorem Field.traverse_balanced : {τ : FieldType} → (f : Field Tree τ) → f.Balances
  | _, .atom v, _, events => .done events (.atom v)
  | _, .child t, stack, events => by
    have ih := t.visit_balanced stack events
    rw [Field.attach, Field.traverse, Pass.spatial_direct.dispatch_eq, Field.situated]
    refine ih.map fun r hr => ?_
    refine hr.imp (fun e => ?_) (fun e => ?_)
    · rw [Field.cleared, e]
    · rw [Field.cleared, e]
  | _, .none, _, events => .done events (.nothing rfl rfl)
  | _, .some f, stack, events => by
    have ih := f.traverse_balanced stack events
    rw [Field.attach, Field.traverse, Field.situated]
    refine ih.map fun r hr => ?_
    refine hr.imp (fun e => ?_) (fun e => ?_)
    · rw [Field.cleared, e]
    · rw [Field.cleared, e]
  | _, .nil, _, events => .done events (.nothing rfl rfl)
  | _, .cons f fs, stack, events => by
    have ihf := f.traverse_balanced stack events
    have ih := fs.traverse_balanced stack
    rw [Field.attach, Field.traverse, Field.situated]
    refine ihf.bind (List.subset_append_left _ _) fun g events hg => ?_
    refine (ih events).bind (List.subset_append_right _ _) fun gs events hgs => ?_
    exact .done events (Field.ResolvesTo.cons hg hgs)

end

/-! ## The pass -/

namespace Pass

theorem spatial_start (n : Node) (stack : List Kind) :
    Balanced stack n.tree.situated
      (fun m => ∃ t, n.tree.ResolvesTo t ∧ m = { n with tree := t })
      ((spatial.rebuild n).start stack) := by
  have visit := n.tree.visit_balanced stack #[.rebuildingTree n.kind]
  rw [spatial_direct.rebuild_start]
  generalize n.tree.visit spatial ⟨stack, #[.rebuildingTree n.kind]⟩ = p at visit
  cases visit with
  | done events h => exact .done events ⟨_, h, rfl⟩
  | stopped hx h => exact .stopped hx h

theorem spatial_eq_ok_iff {n : Node} (plain : ∀ x ∈ n.tree.nodes, x.isContains = false)
    (stack : List Kind) (m : Node) :
    ((spatial.rebuild n).start stack).1 = .ok m ↔
      (∀ k ∈ n.tree.kinds, k ∉ Kind.unruled) ∧ m = n.cleared := by
  have run := spatial_start n stack
  rw [← n.tree.map_kind_nodes, List.forall_mem_map]
  generalize (spatial.rebuild n).start stack = p at run
  cases run with
  | done events h =>
    obtain ⟨t, ht, rfl⟩ := h
    obtain ⟨ruled, rfl⟩ := ht.same plain
    constructor
    · intro hm
      cases hm
      exact ⟨ruled, rfl⟩
    · rintro ⟨-, rfl⟩
      rfl
  | @stopped x e q hx h =>
    constructor
    · exact nofun
    · rintro ⟨ruled, -⟩
      have hn : x.node ∈ n.tree.nodes := by
        rw [← n.tree.map_node_situated]
        exact List.mem_map_of_mem hx
      rcases h.cause with unruled | contains
      · exact absurd unruled (ruled _ hn)
      · rw [plain _ hn] at contains
        cases contains

end Pass

/-- The pass on a tree without a call of `CONTAINS` is the identity pass. On any tree, if it
succeeds then the stack is as it was, no call of `CONTAINS` is left and a second run changes
nothing; if it fails then the stack is the path to the node that failed on top of what it was. -/
theorem spatial_conservative_balanced_idempotent (n : Node) (stack : List Kind) :
    let run := (Pass.spatial.rebuild n).start stack
    ((∀ x ∈ n.tree.nodes, x.isContains = false) →
      ∀ m, run.1 = .ok m ↔ ((Pass.identity.rebuild n).start ()).1 = .ok m) ∧
    (∀ m, run.1 = .ok m →
      run.2.context = stack ∧ (∀ x ∈ m.tree.nodes, x.isContains = false) ∧
        ((Pass.spatial.rebuild m).start stack).1 = .ok m) ∧
    ∀ e, run.1 = .error e →
      ∃ x ∈ n.tree.situated, run.2.context = x.path.reverse ++ stack ∧
        (x.node.kind ∈ Kind.unruled ∨ x.node.isContains = true) ∧
        ∃ events, Pass.spatial.rule x.node.kind (x.node.fields.attach Pass.spatial)
          ⟨x.path.reverse ++ stack, events⟩ = (.error e, run.2) := by
  refine ⟨?conservative, ?balanced, ?stopped⟩
  case conservative =>
    intro plain m
    rw [Pass.spatial_eq_ok_iff plain, Pass.identity_eq_ok_iff]
  case balanced =>
    intro m hm
    have run := Pass.spatial_start n stack
    generalize (Pass.spatial.rebuild n).start stack = p at run hm ⊢
    cases run with
    | stopped => cases hm
    | done events h =>
      cases hm
      obtain ⟨t, ht, rfl⟩ := h
      have plain : ∀ x ∈ t.nodes, x.isContains = false := fun x hx => (ht.resolved x hx).2
      -- the second run meets no call of `CONTAINS`, so it clears what is cleared already
      refine ⟨rfl, plain, (Pass.spatial_eq_ok_iff plain stack _).2 ⟨?_, ?_⟩⟩
      · change ∀ k ∈ t.kinds, k ∉ Kind.unruled
        rw [← t.map_kind_nodes, List.forall_mem_map]
        exact fun x hx => (ht.resolved x hx).1
      · rw [Node.cleared, ht.settled]
  case stopped =>
    intro e he
    have run := Pass.spatial_start n stack
    generalize (Pass.spatial.rebuild n).start stack = p at run he ⊢
    cases run with
    | done => cases he
    | stopped hx h =>
      cases he
      exact ⟨_, hx, h.context, h.cause, h.rule⟩

/-- `CONTAINS(POINT(1, 2), CIRCLE(3)) = 1` is resolved once, and in the result there is nothing left
to resolve. Under `NOT` the pass stops at the call. -/
theorem spatial_of_point_in_circle :
    let contains := Expression.call "CONTAINS"
      [.call "POINT" [.longLiteral 1, .longLiteral 2], .call "CIRCLE" [.longLiteral 3]]
    let resolved := Expression.call "scisql_s2PtInCircle"
      [.longLiteral 1, .longLiteral 2, .longLiteral 3]
    let n : Node := ⟨Expression.comparison .equal contains (.longLiteral 1), rfl⟩
    let m : Node := ⟨Expression.comparison .equal resolved (.longLiteral 1), rfl⟩
    let outside : Node := ⟨Expression.not contains, rfl⟩
    ((Pass.spatial.rebuild n).start [.subqueryExpression]).1 = .ok m ∧
    ((Pass.spatial.rebuild m).start [.subqueryExpression]).1 = .ok m ∧
    ((Pass.identity.rebuild m).start ()).1 = .ok m ∧
    ∃ x ∈ outside.tree.situated,
      ((Pass.spatial.rebuild outside).start [.subqueryExpression]).2.context =
        x.path.reverse ++ [.subqueryExpression] := by
  intro contains resolved n m outside
  have run : ((Pass.spatial.rebuild n).start [.subqueryExpression]).1 = .ok m := rfl
  have stop : ((Pass.spatial.rebuild outside).start [.subqueryExpression]).1 =
      .error .outsidePredicate := rfl
  have settled := (spatial_conservative_balanced_idempotent n _).2.1 m run
  have same := (spatial_conservative_balanced_idempotent m [.subqueryExpression]).1 settled.2.1 m
  obtain ⟨x, hx, path, -⟩ := (spatial_conservative_balanced_idempotent outside _).2.2 _ stop
  exact ⟨run, settled.2.2, same.1 settled.2.2, x, hx, path⟩

end SqlTrees
