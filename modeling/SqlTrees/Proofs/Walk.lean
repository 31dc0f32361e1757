import SqlTrees.Rebuild.Walk

/-! # Walks as functions of the progress

What the steps of a walk are made of does to the progress, as equations for rewriting.
-/

namespace SqlTrees.Walk
set_option autoImplicit false

variable {σ ε α β : Type}

theorem bind_apply (w : Walk σ ε α) (f : α → Walk σ ε β) (p : Progress σ) :
    (w >>= f) p = match w p with
      | (.ok a, q) => f a q
      | (.error e, q) => (.error e, q) := by
  simp only [bind, ExceptT.bind, ExceptT.mk, StateT.bind]
  rcases w p with ⟨e | a, q⟩ <;> rfl

theorem pure_apply (a : α) (p : Progress σ) : (pure a : Walk σ ε α) p = (.ok a, p) := rfl

theorem report_apply (e : Event) (p : Progress σ) :
    (report e : Walk σ ε Unit) p = (.ok (), { p with events := p.events.push e }) := rfl

theorem update_apply (f : σ → σ) (p : Progress σ) :
    (update f : Walk σ ε Unit) p = (.ok (), { p with context := f p.context }) := rfl

theorem context_apply (p : Progress σ) : (context : Walk σ ε σ) p = (.ok p.context, p) := rfl

theorem throw_apply (e : ε) (p : Progress σ) : (throw e : Walk σ ε α) p = (.error e, p) := rfl

theorem within_apply (inner : σ) (w : Walk σ ε α) (p : Progress σ) :
    within inner w p =
      ((w { p with context := inner }).1,
        { (w { p with context := inner }).2 with context := p.context }) := rfl

end SqlTrees.Walk
