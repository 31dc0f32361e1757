import SqlTrees.Sample.Tape

/-! # What holds of every value drawn

`Gen.Always g p` says that whatever the tape, `g` makes a value with the property `p`. There is one
rule for each way to put generators together; a generator is sound when the rules apply along its
text.
-/

namespace SqlTrees.Gen
set_option autoImplicit false

variable {α β : Type} {g : Gen α} {p q : α → Prop}

def Always (g : Gen α) (p : α → Prop) : Prop :=
  ∀ tape, p (g tape).1

/-! ## Sequences -/

theorem Always.mono (h : g.Always p) (hpq : ∀ a, p a → q a) : g.Always q :=
  fun tape => hpq _ (h tape)

theorem Always.pure {a : α} (h : p a) : Always (pure a) p :=
  fun _ => h

theorem Always.bind {r : β → Prop} {f : α → Gen β} (h : g.Always p)
    (hf : ∀ a, p a → (f a).Always r) : Always (g >>= f) r :=
  fun tape => hf _ (h tape) _

/-- What is drawn first does not matter. -/
theorem Always.any {r : β → Prop} {f : α → Gen β} (hf : ∀ a, (f a).Always r) :
    Always (g >>= f) r :=
  fun tape => hf (g tape).1 _

theorem Always.next {r : β → Prop} {a : α} {f : α → Gen β} (h : (f a).Always r) :
    Always (Pure.pure a >>= f) r :=
  h

theorem Always.ite {c : Prop} [Decidable c] {g h : Gen α} (hg : c → g.Always p)
    (hh : ¬c → h.Always p) : Always (if c then g else h) p := by
  split
  · next hc => exact hg hc
  · next hc => exact hh hc

/-! ## Choices -/

theorem range_always (low high : Nat) (h : low ≤ high) :
    (range low high).Always fun n => low ≤ n ∧ n ≤ high := by
  refine .any fun n => .pure ?_
  have below : n % (high - low + 1) < high - low + 1 := Nat.mod_lt _ (Nat.succ_pos _)
  omega

theorem times_always (h : g.Always p) (n : Nat) :
    (times g n).Always fun as => as.length = n ∧ ∀ a ∈ as, p a := by
  induction n with
  | zero => exact .pure ⟨rfl, List.forall_mem_nil _⟩
  | succ n ih =>
    refine .bind h fun a ha => .bind ih fun as has => .pure ⟨?_, ?_⟩
    · rw [List.length_cons, has.1]
    · exact List.forall_mem_cons.2 ⟨ha, has.2⟩

theorem several_always (h : g.Always p) {low high : Nat} (ordered : low ≤ high) :
    (several low high g).Always fun as =>
      (low ≤ as.length ∧ as.length ≤ high) ∧ ∀ a ∈ as, p a := by
  refine .bind (range_always low high ordered) fun n hn => ?_
  exact (times_always h n).mono fun as has => ⟨has.1 ▸ hn, has.2⟩

theorem optional_always (h : g.Always p) (choice : Gen β) (c : β → Prop) [DecidablePred c] :
    Always (do
      if c (← choice) then
        let a ← g
        return some a
      else return none) fun o => ∀ a ∈ o, p a := by
  refine .any fun b => .ite (fun _ => .bind h fun a ha => .pure ?_) fun _ => .pure nofun
  rintro _ ⟨⟩
  exact ha

theorem maybe_always (h : g.Always p) : (maybe g).Always fun o => ∀ a ∈ o, p a :=
  optional_always h flag (· = true)

theorem rarely_always (h : g.Always p) (n : Nat) : (rarely n g).Always fun o => ∀ a ∈ o, p a :=
  optional_always h (range 0 n) (· = 0)

end SqlTrees.Gen
