import SqlTrees.Format.Scalar

/-! # Written scalars are read back

* `Atom.finite`: whether a value holds no NaN and no infinity; only a double can.
* `Atom.decode_encode`: a finite value is read back as it was, any other is not read back at all.
* `Atom.finite_of_decode`: nothing else is ever read.
-/

namespace SqlTrees
set_option autoImplicit false

/-! ## Structures -/

theorem Ident.ofJson?_toJson (i : Ident) : Ident.ofJson? i.toJson = some i := rfl

theorem texts?_map_str (ss : List String) : texts? (ss.map Json.str) = some ss := by
  induction ss with
  | nil => rfl
  | cons s ss ih => rw [List.map_cons, texts?, ih, Option.map_some]

theorem QualifiedName.ofJson?_toJson (n : QualifiedName) :
    QualifiedName.ofJson? n.toJson = some n := by
  change (texts? (n.parts.map Json.str)).map QualifiedName.mk = some n
  rw [texts?_map_str, Option.map_some]

/-! ## Whole numbers -/

theorem Json.natBelow?_int {bound n : Nat} (h : n < bound) :
    (Json.int n).natBelow? bound = some n := by
  rw [natBelow?, if_pos ⟨Int.natCast_nonneg n, by omega⟩, Int.toNat_natCast]

theorem index?_int (n : UInt64) : index? (.int n.toNat) = some n := by
  rw [index?, Json.natBelow?_int n.toNat_lt, Option.map_some, UInt64.ofNat_toNat]

theorem precision?_int (n : UInt32) : precision? (.int n.toNat) = some n := by
  rw [precision?, Json.natBelow?_int n.toNat_lt, Option.map_some, UInt32.ofNat_toNat]

theorem long?_int (n : Int64) : long? (.int n.toInt) = some n := by
  have h : isLong n.toInt = true := by
    rw [isLong, Bool.and_eq_true, decide_eq_true_eq, decide_eq_true_eq]
    exact ⟨n.minValue_le_toInt, n.toInt_le⟩
  rw [long?, if_pos h, Int64.ofInt_toInt]

theorem Position.ofJson?_toJson (p : Position) : Position.ofJson? p.toJson = some p := by
  change (do
    let line ← index? (.int p.line.toNat)
    let column ← index? (.int p.column.toNat)
    return (⟨line, column⟩ : Position)) = some p
  rw [index?_int, index?_int]
  rfl

theorem Location.ofJson?_toJson (l : Location) : Location.ofJson? l.toJson = some l := by
  cases l with
  | none => rfl
  | some p =>
    change (Position.ofJson? p.toJson).map some = some (some p)
    rw [Position.ofJson?_toJson, Option.map_some]

/-! ## Doubles and words -/

theorem Double.toJson_cases (d : Double) : d.toJson = .double d ∨ d.toJson = .null := by
  unfold toJson
  split
  · exact .inl rfl
  · exact .inr rfl

theorem Double.toJson_of_not_finite {d : Double} (h : d.isFinite = false) : d.toJson = .null := by
  rw [toJson, h]
  rfl

theorem Double.ofJson?_toJson (d : Double) :
    Double.ofJson? d.toJson = if d.isFinite then some d else none := by
  cases h : d.isFinite with
  | true => rw [toJson, h, if_pos rfl, ofJson?, h]
  | false => rw [toJson, h]; rfl

theorem Double.isFinite_of_ofJson? {j : Json} {d : Double} (h : ofJson? j = some d) :
    d.isFinite = true := by
  cases j with
  | double e =>
    rw [ofJson?, Option.ite_none_right_eq_some] at h
    exact Option.some.inj h.2 ▸ h.1
  | int n =>
    rw [ofJson?, Option.ite_none_right_eq_some] at h
    exact Option.some.inj h.2 ▸ h.1
  | _ => cases h

theorem wordOfJson?_wordToJson {α : Type} [Tagged α] (a : α) :
    wordOfJson? α (wordToJson a) = some a :=
  Tagged.ofTag?_tag a

/-! ## Atoms -/

namespace Atom

/-- Whether a value is no NaN and no infinity. -/
def finite : (a : Atom) → a.Carrier → Bool
  | .double, d => d.isFinite
  | _, _ => true

theorem decode_encode (a : Atom) (v : a.Carrier) :
    a.decode (a.encode v) = if a.finite v then some v else none := by
  cases a with
  | text => rfl
  | flag => rfl
  | long => exact long?_int v
  | index => exact index?_int v
  | precision => exact precision?_int v
  | double => exact Double.ofJson?_toJson v
  | ident => exact Ident.ofJson?_toJson v
  | name => exact QualifiedName.ofJson?_toJson v
  | location => exact Location.ofJson?_toJson v
  | word w => exact wordOfJson?_wordToJson v

theorem finite_of_decode {a : Atom} {j : Json} {v : a.Carrier} (h : a.decode j = some v) :
    a.finite v = true := by
  cases a with
  | double => exact Double.isFinite_of_ofJson? h
  | _ => rfl

end Atom
end SqlTrees
