import Templating.Text.Basic
/-!
# Classifying document text

A text in a document is one of three things, told by its first code points:

* `=expr`: an expression, kept as it is;
* `\=text`: the literal text `=text`, the backslash only protecting the marker;
* anything else: a literal text in which `${…}` interpolates.

Classification turns each into expression text: literal and interpolated text becomes an
interpolation template, the text between backticks with every backtick escaped, after
the expression marker.

Main statements:

    escapeTicks (s ++ t) = escapeTicks s ++ escapeTicks t          (escapeTicks_append)
    classify (classify t) = classify t                            (classify_classify)
    s.head? ≠ some marker → classify s = marker :: backtick ::
      escapeTicks (s less a leading backslash before the marker) ++ [backtick]
                                                                  (classify_of_head_ne)
-/

namespace Templating

namespace Document

/-- The expression marker `=`. -/
def marker : Nat := 0x3D

/-- The backtick, which opens and closes a template. -/
def backtick : Nat := 0x60

/-- The text with every backtick escaped by a backslash. -/
def escapeTicks (t : Text) : Text :=
  t.flatMap (fun c => if c = backtick then [0x5C, backtick] else [c])

/-- The expression text of a document text. -/
def classify (t : Text) : Text :=
  match t with
  | 0x3D :: _ => t
  | 0x5C :: 0x3D :: rest => template (0x3D :: rest)
  | _ => template t
where
  /-- The template that stands for a literal text. -/
  template (t : Text) : Text := marker :: backtick :: escapeTicks t ++ [backtick]

/-! ## Lemmas -/

@[simp] theorem escapeTicks_nil : escapeTicks [] = [] := rfl

theorem escapeTicks_cons (c : Nat) (t : Text) :
    escapeTicks (c :: t) = (if c = backtick then [0x5C, backtick] else [c]) ++ escapeTicks t := by
  simp [escapeTicks]

theorem escapeTicks_append (s t : Text) :
    escapeTicks (s ++ t) = escapeTicks s ++ escapeTicks t := by
  simp [escapeTicks]

theorem escapeTicks_of_not_mem {t : Text} (h : backtick ∉ t) : escapeTicks t = t := by
  induction t with
  | nil => rfl
  | cons c t ih =>
    simp only [List.mem_cons, not_or] at h
    rw [escapeTicks_cons, if_neg (Ne.symm h.1), ih h.2]
    rfl

/-- The first code point of an escaped text: a backslash for a backtick, else the text's
own. -/
theorem head?_escapeTicks (t : Text) :
    (escapeTicks t).head? = t.head?.map (fun c => if c = backtick then 0x5C else c) := by
  cases t with
  | nil => rfl
  | cons c t => by_cases hc : c = backtick <;> simp [escapeTicks_cons, hc]

theorem head?_escapeTicks_ne (t : Text) : (escapeTicks t).head? ≠ some backtick := by
  rw [head?_escapeTicks]
  cases t with
  | nil => simp
  | cons c t =>
    simp only [backtick]
    by_cases hc : c = 0x60 <;> simp [hc]

theorem length_le_escapeTicks (t : Text) : t.length ≤ (escapeTicks t).length := by
  induction t with
  | nil => simp
  | cons c t ih => rw [escapeTicks_cons]; split <;> simp <;> omega

@[simp] theorem head?_classify (t : Text) : (classify t).head? = some marker := by
  unfold classify
  split
  · rfl
  · rfl
  · rfl

/-- Expression text is classified as itself. -/
theorem classify_of_head {t : Text} (h : t.head? = some marker) : classify t = t := by
  obtain ⟨c, rest, rfl⟩ : ∃ c rest, t = c :: rest := by
    cases t with
    | nil => simp at h
    | cons c rest => exact ⟨c, rest, rfl⟩
  have hc : c = 0x3D := by simpa [marker] using h
  subst hc
  rfl

theorem classify_classify (t : Text) : classify (classify t) = classify t :=
  classify_of_head (head?_classify t)

/-- A document text that is no expression is classified as the template of the text it
stands for: itself, less the backslash that protects a leading marker. -/
theorem classify_of_head_ne {s : Text} (hs : s.head? ≠ some marker) :
    classify s = marker :: backtick ::
      (escapeTicks (if Text.startsWith s [0x5C, 0x3D] then s.drop 1 else s) ++ [backtick]) := by
  unfold classify
  split
  · simp [marker] at hs
  · simp [Text.startsWith, Text.stripPrefix?, classify.template]
  · rename_i h1 h2
    have hplain : Text.startsWith s [0x5C, 0x3D] = false := by
      rcases s with _ | ⟨c, _ | ⟨d, rest⟩⟩
      · rfl
      · simp [Text.startsWith, Text.stripPrefix?]
      · simp only [Text.startsWith, Text.stripPrefix?]
        by_cases hc : c = 0x5C
        · subst hc
          have hd : d ≠ 0x3D := fun hd => h2 rest (by rw [hd])
          simp [Ne.symm hd]
        · simp [Ne.symm hc]
    simp [hplain, classify.template]

example :
    classify (Text.ofString "\\=x") = Text.ofString "=`=x`" ∧
    classify (Text.ofString "a`b") = Text.ofString "=`a\\`b`" := by
  decide

end Document

end Templating
