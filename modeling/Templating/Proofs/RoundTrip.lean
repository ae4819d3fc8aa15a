import Templating.Binding
/-!
# Bindings through their documents

A binding's document (`Binding.document`) is its expression text, or its literal. A host
serialises bindings by their documents and reads them back by assigning the document to a
fresh binding; this module states what that round trip keeps.

The bindings a host can hold are those made by a maker and then assigned to any number of
times (`Binding.Reachable`); each of them holds what some assignment classifies to
(`Reachable.held_classified`). Assigning back the document of such a binding gives back
exactly what it held, with one exception: a formula, parsed or a host function, is held
again as its expression text, now text (`Held.reloaded`). Text is final, so the result is
no longer walked, and the binding no longer compares equal to the one it came from.

Main statements:

    Reachable b → (b.assign b.document).held = b.held.map Held.reloaded,
      and a binding that holds no formula comes back holding the same and resolving alike
                                                                          (document_round_trip)
-/

namespace Templating

/-! ## Reachable bindings -/

namespace Binding

/-- The bindings a host can hold: made by a maker (a constructor or a named factory), then
assigned to any number of times. -/
inductive Reachable : Binding → Prop
  | make {m : Maker} {o : Options} {a : Assigned} {b : Binding} :
      make m o a = .ok b → Reachable b
  | assign {b : Binding} (a : Assigned) : Reachable b → Reachable (b.assign a)

@[simp] theorem held_assign (b : Binding) (a : Assigned) :
    (b.assign a).held = classifyAssigned a := rfl

@[simp] theorem options_assign (b : Binding) (a : Assigned) :
    (b.assign a).options = b.options := rfl

theorem held_make {m : Maker} {o : Options} {a : Assigned} {b : Binding}
    (h : make m o a = .ok b) : b.held = classifyAssigned a := by
  unfold make at h
  split at h
  · cases h
  · cases h
    rfl

theorem Reachable.held_classified {b : Binding} (h : Reachable b) :
    ∃ a, b.held = classifyAssigned a := by
  induction h with
  | make hm => exact ⟨_, held_make hm⟩
  | assign a _ _ => exact ⟨a, rfl⟩

theorem Reachable.eq_assign {b : Binding} (h : Reachable b) :
    ∃ a, b = b.assign a := by
  obtain ⟨a, ha⟩ := h.held_classified
  exact ⟨a, by cases b; subst ha; rfl⟩

theorem resolve_congr {b c : Binding} (ho : b.options = c.options) (hh : b.held = c.held) :
    b.resolve = c.resolve := by
  cases b
  cases c
  simp only at ho hh
  subst ho hh
  rfl

end Binding

/-! ## The round trip -/

/-- Whether a binding holds a formula: a parsed expression or a host function, whose
result is walked. -/
def Held.isFormula : Held → Bool
  | .formula _ | .host _ _ => true
  | _ => false

/-- What a binding holds once its document is assigned back: a formula's expression text
is held as text. -/
def Held.reloaded : Held → Held
  | .formula s | .host s _ => .text s
  | h => h

theorem Held.reloaded_eq_self (h : Held) : h.reloaded = h ↔ h.isFormula = false := by
  cases h <;> simp [reloaded, isFormula]

theorem Held.map_reloaded_eq_self (h : Option Held) :
    h.map reloaded = h ↔ h.any isFormula = false := by
  cases h with
  | none => simp
  | some h => simpa using reloaded_eq_self h

namespace Binding

/-- The document of an assignment, assigned back, classifies to what the assignment did,
with a formula's expression text held as text. -/
theorem classifyAssigned_document (b : Binding) (a : Assigned) :
    classifyAssigned (.value (b.assign a).document) = (classifyAssigned a).map Held.reloaded := by
  cases a with
  | value v =>
    cases v with
    | null => rfl
    | str s =>
      simp [classifyAssigned, assign, document, expressionText, Held.reloaded,
        Document.classify_classify]
    | bool _ | int _ | float _ | list _ | tuple _ | object _ | record _ _ _ | method _ _ _
    | host _ => rfl
  | formula f =>
    have hc : Document.classify (0x3D :: f.text) = 0x3D :: f.text :=
      Document.classify_of_head rfl
    cases hf : f.isHost <;>
      simp [classifyAssigned, assign, document, expressionText, Held.reloaded, hf, hc]

/-- Assigning its document back to a reachable binding gives what it held, with a
formula's expression text held as text. -/
theorem held_reload {b : Binding} (hb : Reachable b) :
    (b.assign (.value b.document)).held = b.held.map Held.reloaded := by
  obtain ⟨a, ha⟩ := hb.eq_assign
  rw [held_assign, ha, classifyAssigned_document, held_assign]

/-- A formula comes back as text, whose result is final: the reloaded binding resolves to
the formula's outcome without walking it. -/
theorem resolve_reload_formula {b : Binding} (hb : Reachable b) {s : Text}
    (hs : b.held = some (.formula s)) (ctx : Value) (F : Nat) :
    (b.assign (.value b.document)).resolve ctx F = b.options.evaluateText s ctx (F + 3) := by
  have hr := held_reload hb
  rw [hs] at hr
  simp only [resolve, hr, Option.map_some, Held.reloaded, options_assign]

/-- A binding that held a formula compares unequal to the one read back from its
document. -/
theorem sameAs_reload_formula {b : Binding} (hb : Reachable b)
    (hf : b.held.any Held.isFormula = true) :
    (b.assign (.value b.document)).sameAs b = false := by
  have hr := held_reload hb
  unfold sameAs
  rw [hr]
  cases hh : b.held with
  | none => simp [hh] at hf
  | some h => cases h <;> simp_all [Held.isFormula, Held.reloaded]

/-- **Round trip through the document.** A reachable binding assigned its own document
holds what it held, with a formula's expression text held as text. One that holds no
formula comes back holding the very same and resolves alike against every context in
every frame. -/
theorem document_round_trip (b : Binding) (hb : Reachable b) :
    (b.assign (.value b.document)).held = b.held.map Held.reloaded ∧
    (b.held.any Held.isFormula = false →
      (b.assign (.value b.document)).held = b.held ∧
      ∀ ctx F, (b.assign (.value b.document)).resolve ctx F = b.resolve ctx F) := by
  have hr := held_reload hb
  refine ⟨hr, fun hf => ?_⟩
  have hsame : (b.assign (.value b.document)).held = b.held :=
    hr.trans ((Held.map_reloaded_eq_self b.held).2 hf)
  exact ⟨hsame, fun ctx F => by rw [resolve_congr (options_assign b _) hsame]⟩

theorem document_round_trip_text :
    Reachable (({} : Binding).assign (.value (.str [0x61]))) ∧
    ((({} : Binding).assign (.value (.str [0x61]))).assign
        (.value (({} : Binding).assign (.value (.str [0x61]))).document)).held =
      ((({} : Binding).assign (.value (.str [0x61]))).held.map Held.reloaded) ∧
    ((({} : Binding).assign (.value (.str [0x61]))).held.any Held.isFormula = false →
      ((({} : Binding).assign (.value (.str [0x61]))).assign
          (.value (({} : Binding).assign (.value (.str [0x61]))).document)).held =
        (({} : Binding).assign (.value (.str [0x61]))).held ∧
      ∀ ctx F, ((({} : Binding).assign (.value (.str [0x61]))).assign
          (.value (({} : Binding).assign (.value (.str [0x61]))).document)).resolve ctx F =
        (({} : Binding).assign (.value (.str [0x61]))).resolve ctx F) :=
  have hb : Reachable (({} : Binding).assign (.value (.str [0x61]))) :=
    @Reachable.make .text .standard (.value (.str [0x61])) _ rfl
  ⟨hb, document_round_trip _ hb⟩

/-- The formula of the expression `['=1+2']` is walked, so its text leaf is evaluated:
it resolves to `[3]`. Read back from its document it is text, and resolves to
`["=1+2"]`. -/
theorem reload_formula_list :
    ((({} : Binding).assign (.formula ⟨Text.ofString "['=1+2']",
        .expr (.array [.lit (.str (Text.ofString "=1+2"))])⟩)).resolve (.object []) 5).toOption.bind
      (fun r => r.toOption.bind Value.toText) = some (Text.ofString "[3]") ∧
    (((({} : Binding).assign (.formula ⟨Text.ofString "['=1+2']",
        .expr (.array [.lit (.str (Text.ofString "=1+2"))])⟩)).assign
        (.value (({} : Binding).assign (.formula ⟨Text.ofString "['=1+2']",
          .expr (.array [.lit (.str (Text.ofString "=1+2"))])⟩)).document)).resolve
        (.object []) 5).toOption.bind
      (fun r => r.toOption.bind Value.toText) = some (Text.ofString "[\"=1+2\"]") := by
  decide +kernel

end Binding

end Templating
