import Templating.Proofs.RoundTrip
/-!
# The three states of a binding

A binding that a host holds (`Binding.Reachable`: made by a maker, then assigned to any
number of times) is in exactly one of three states, told apart by what its properties
read:

* unset: nothing is assigned, there is no literal and no expression text, and the
  document is `null`;
* a literal: a value that is neither `null` nor a text (and, being a value, no formula),
  no expression text, and the literal is the document;
* an expression: no literal, and expression text that starts with the marker `=` and that
  classification keeps as it is; the text is the document.

Resolving a binding and reading its properties give values, never a new binding, so the
bindings of any script of operations are those made and then assigned. An assignment
classifies what is assigned afresh and keeps nothing of the binding but its options
(`assign_eq_of_options`): assigning to a binding is making one with its options
(`make_any_eq_assign`). A maker refuses exactly what is not of its kind
(`Maker.Accepts`), and then makes no binding (`make_ok_iff_accepts`).

Main statements:

    assign b a is unset, a literal or an expression                      (state_assign)
    Reachable b → b.InOneState                                 (Reachable.inOneState)
    (∃ b, make m o a = ok b) ↔ m.Accepts a                     (make_ok_iff_accepts)
-/

namespace Templating

namespace Binding

/-! ## The states -/

/-- An unset binding: nothing is assigned, it has no literal and no expression text, and
its document is `null`. -/
def IsUnset (b : Binding) : Prop :=
  b.isSet = false ∧ b.literal = .null ∧ b.expressionText = none ∧ b.document = .null

/-- A binding holding a literal: a value that is neither `null` nor a text, and no
expression text; the literal is its document. -/
def IsLiteral (b : Binding) : Prop :=
  b.isSet = true ∧ b.literal ≠ .null ∧ (∀ s, b.literal ≠ .str s) ∧
    b.expressionText = none ∧ b.document = b.literal

/-- A binding holding an expression: no literal, and expression text that starts with the
marker and that classification keeps; the text is its document. -/
def IsExpression (b : Binding) : Prop :=
  b.isSet = true ∧ b.literal = .null ∧ ∃ s, b.expressionText = some s ∧
    s.head? = some Document.marker ∧ Document.classify s = s ∧ b.document = .str s

/-- A binding is in exactly one of the three states. -/
def InOneState (b : Binding) : Prop :=
  (b.IsUnset ∧ ¬b.IsLiteral ∧ ¬b.IsExpression) ∨
    (¬b.IsUnset ∧ b.IsLiteral ∧ ¬b.IsExpression) ∨
    (¬b.IsUnset ∧ ¬b.IsLiteral ∧ b.IsExpression)

section States

variable {b : Binding}

theorem IsUnset.not_isLiteral (h : b.IsUnset) : ¬b.IsLiteral :=
  fun hl => hl.2.1 h.2.1

theorem IsUnset.not_isExpression (h : b.IsUnset) : ¬b.IsExpression := by
  rintro ⟨-, -, s, hs, -⟩
  rw [h.2.2.1] at hs
  cases hs

theorem IsLiteral.not_isExpression (h : b.IsLiteral) : ¬b.IsExpression :=
  fun he => h.2.1 he.2.1

theorem inOneState_of_or (h : b.IsUnset ∨ b.IsLiteral ∨ b.IsExpression) : b.InOneState := by
  rcases h with hu | hl | he
  · exact .inl ⟨hu, hu.not_isLiteral, hu.not_isExpression⟩
  · exact .inr (.inl ⟨fun hu => hu.not_isLiteral hl, hl, hl.not_isExpression⟩)
  · exact .inr (.inr ⟨fun hu => hu.not_isExpression he, fun hl => hl.not_isExpression he, he⟩)

end States

/-! ## Assignments -/

/-- Expression text held as it is classified: text, a parsed formula or a host function,
each with text that starts with the marker and that classification keeps. -/
theorem isExpression_of_held {b : Binding} {s : Text}
    (hheld : b.held = some (.text s) ∨ b.held = some (.formula s) ∨
      ∃ f, b.held = some (.host s f))
    (hhead : s.head? = some Document.marker) : b.IsExpression := by
  have hkeep := Document.classify_of_head hhead
  rcases hheld with h | h | ⟨f, h⟩ <;>
    exact ⟨by simp [isSet, h], by simp [literal, h], s, by simp [expressionText, h], hhead,
      hkeep, by simp [document, expressionText, h]⟩

/-- Every assignment leaves a binding in one of the three states: `null` unsets it, a text
and a formula make expression text, and any other value is a literal. -/
theorem state_assign (b : Binding) (a : Assigned) :
    (b.assign a).IsUnset ∨ (b.assign a).IsLiteral ∨ (b.assign a).IsExpression := by
  cases a with
  | value v =>
    cases v with
    | null => exact .inl ⟨rfl, rfl, rfl, rfl⟩
    | str s =>
      exact .inr (.inr (isExpression_of_held (.inl rfl) (Document.head?_classify s)))
    | bool _ | int _ | float _ | list _ | tuple _ | object _ | record _ _ _ | method _ _ _
    | host _ =>
      exact .inr (.inl ⟨rfl, nofun, fun _ => nofun, rfl, rfl⟩)
  | formula f =>
    refine .inr (.inr (isExpression_of_held (s := 0x3D :: f.text) ?_ rfl))
    cases hf : f.isHost
    · exact .inr (.inl (by simp [assign, classifyAssigned, hf]))
    · exact .inr (.inr ⟨f, by simp [assign, classifyAssigned, hf]⟩)

/-- **Every binding a host holds is in exactly one state.** -/
theorem Reachable.inOneState {b : Binding} (hb : Reachable b) : b.InOneState := by
  obtain ⟨a, ha⟩ := hb.eq_assign
  rw [ha]
  exact inOneState_of_or (state_assign b a)

/-- An assignment keeps nothing of the binding but its options: bindings with the same
options, whatever they held, are the same once assigned alike. -/
theorem assign_eq_of_options {b c : Binding} (h : b.options = c.options) (a : Assigned) :
    b.assign a = c.assign a := by
  cases b
  cases c
  simp only at h
  subst h
  rfl

theorem make_any_eq_assign (b : Binding) (a : Assigned) :
    make .any b.options a = .ok (b.assign a) :=
  congrArg Except.ok (assign_eq_of_options rfl a)

/-! ## Makers -/

/-- What a maker accepts: anything; a text; a number, an integer or a double but never a
boolean; a boolean; anything but a text; a formula. -/
def Maker.Accepts : Maker → Assigned → Prop
  | .any, _ => True
  | .text, a => ∃ s, a = .value (.str s)
  | .number, a => (∃ n, a = .value (.int n)) ∨ ∃ x, a = .value (.float x)
  | .boolean, a => ∃ p, a = .value (.bool p)
  | .tree, a => ∀ s, a ≠ .value (.str s)
  | .formula, a => ∃ f, a = .formula f

theorem Maker.refusal_eq_none_iff (m : Maker) (a : Assigned) :
    m.refusal a = none ↔ m.Accepts a := by
  cases m <;> rcases a with ⟨_ | _ | _ | _ | _ | _ | _ | _ | _ | _ | _⟩ | f <;>
    simp [refusal, Accepts]

/-- A maker makes a binding exactly from what it accepts; from anything else it makes
none. -/
theorem make_ok_iff_accepts (m : Maker) (o : Options) (a : Assigned) :
    (∃ b, make m o a = .ok b) ↔ m.Accepts a := by
  rw [← Maker.refusal_eq_none_iff]
  unfold make
  cases m.refusal a <;> simp

/-- **The states of a binding.** Every binding a host holds, made by a maker and then
assigned to any number of times, is in exactly one of the states unset, literal and
expression. An assignment gives the binding that the same assignment makes with the same
options, whatever the binding held, and a maker that refuses what it is given makes no
binding. -/
theorem reachable_inOneState :
    (∀ b : Binding, Reachable b → b.InOneState) ∧
    (∀ (b c : Binding) (a : Assigned), b.options = c.options → b.assign a = c.assign a) ∧
    (∀ (b : Binding) (a : Assigned), make .any b.options a = .ok (b.assign a)) ∧
    (∀ m o a, (∃ b, make m o a = .ok b) ↔ m.Accepts a) :=
  ⟨fun _ hb => hb.inOneState, fun _ _ a h => assign_eq_of_options h a, make_any_eq_assign,
    make_ok_iff_accepts⟩

theorem reachable_inOneState_number :
    Reachable ((({} : Binding).assign (.value (.int 1))).assign (.value (.str [0x61]))) ∧
    ((({} : Binding).assign (.value (.int 1))).assign (.value (.str [0x61]))).InOneState :=
  have hb : Reachable (({} : Binding).assign (.value (.int 1))) :=
    @Reachable.make .number .standard (.value (.int 1)) _ rfl
  ⟨.assign _ hb, reachable_inOneState.1 _ (.assign _ hb)⟩

end Binding

end Templating
