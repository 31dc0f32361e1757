/-! # Running an action over a list or an option

`seq` performs an action on every element in order and stops where it fails; `opt` is `seq` for at
most one element. Neither performs anything that is not asked for.
-/

namespace SqlTrees
set_option autoImplicit false

variable {m : Type → Type} [Monad m] {α β : Type}

/-- The results of an action on the elements of a list, in order. -/
def seq (f : α → m β) : List α → m (List β)
  | [] => pure []
  | x :: xs => do
    let y ← f x
    let ys ← seq f xs
    return y :: ys

/-- The result of an action on an element, if there is one. -/
def opt (f : α → m β) : Option α → m (Option β)
  | none => pure none
  | some x => do
    let y ← f x
    return some y

end SqlTrees
