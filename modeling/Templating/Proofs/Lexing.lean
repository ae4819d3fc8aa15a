import Templating.Expr.Token
import Templating.Number.Reading
/-!
# What the scanner reads

Every token of a scan is read by `Token.next?` from a part of the text that is no longer
than the text (`Token.scan_mem`). What one read takes then bounds each token:

* a template's body is shorter than the text it is read from
  (`Token.length_lt_of_template_mem`);
* a number literal with no point and no exponent is a nonempty run of decimal digits
  (`Token.digits_of_number_mem`), and such a run is refused as an integer exactly when it
  has more digits than `digitLimit` (`Reading.readInt_digits`).

Main statements:

    scan t = some ts → .template b ∈ ts → b.length < t.length   (length_lt_of_template_mem)
    t ≠ [] → (∀ c ∈ t, isDigit c) →
      readInt t = if digitLimit < t.length then error (tooManyDigits t.length) else ok _
                                                                    (readInt_digits)
-/

namespace Templating

/-! ## Digits as integer reading sees them -/

namespace Reading

theorem asciiView_of_digitValue? {c d : Nat} (h : Text.digitValue? c = some d) :
    asciiView c = 0x30 + d ∧ d < 10 := by
  obtain ⟨z, hz, rfl⟩ := Option.map_eq_some_iff.1 h
  have hmem := List.mem_of_find?_eq_some hz
  have hrun : z ≤ c ∧ c < z + 10 := by simpa using List.find?_some hz
  have hzeros : ∀ x ∈ Text.digitZeros, x = 0x30 ∨ 0x660 ≤ x := by decide
  refine ⟨?_, by omega⟩
  unfold asciiView
  by_cases hc : c < 0x7F
  · rw [if_pos hc]
    rcases hzeros z hmem with rfl | hbig <;> omega
  · rw [if_neg hc, h]

theorem isDigit_asciiView {c : Nat} (h : Text.isDigit c = true) : isDigit (asciiView c) = true := by
  obtain ⟨d, hd⟩ := Option.isSome_iff_exists.1 h
  obtain ⟨hv, hlt⟩ := asciiView_of_digitValue? hd
  simp only [isDigit, hv, Bool.and_eq_true, decide_eq_true_eq]
  omega

theorem scanDigits_digits {s : Text} (hs : ∀ c ∈ s, isDigit c = true) (acc : Text) (u : Bool) :
    scanDigits s acc u = some (acc.reverse ++ s, [], s.isEmpty && u) := by
  induction s generalizing acc u with
  | nil => simp [scanDigits]
  | cons c s ih =>
    have hc : isDigit c = true := hs c (List.mem_cons_self ..)
    rw [scanDigits, if_pos hc, ih (fun x hx => hs x (List.mem_cons_of_mem _ hx))]
    simp

/-- A nonempty run of decimal digits, of any script, is refused as an integer exactly when
it has more digits than the limit. -/
theorem readInt_digits {t : Text} (hne : t ≠ []) (hd : ∀ c ∈ t, Text.isDigit c = true) :
    readInt t = if digitLimit < t.length then .error (.tooManyDigits t.length)
      else .ok (digitsValue (t.map asciiView)) := by
  obtain ⟨c, rest, rfl⟩ := List.exists_cons_of_ne_nil hne
  have hview : ∀ x ∈ (c :: rest).map asciiView, isDigit x = true := by
    intro x hx
    obtain ⟨y, hy, rfl⟩ := List.mem_map.1 hx
    exact isDigit_asciiView (hd y hy)
  have hascii : 0x30 ≤ asciiView c ∧ asciiView c ≤ 0x39 := by
    simpa [isDigit] using hview _ (List.mem_cons_self ..)
  have hspace : isSpace (asciiView c) = false := by
    simp only [isSpace, Bool.or_eq_false_iff, decide_eq_false_iff_not, Bool.and_eq_false_imp,
      decide_eq_true_eq]
    omega
  have hsign : takeSign (asciiView c :: rest.map asciiView) =
      (false, asciiView c :: rest.map asciiView) := by
    have h2D : asciiView c ≠ 0x2D := by omega
    have h2B : asciiView c ≠ 0x2B := by omega
    unfold takeSign
    split <;> simp_all
  have hunder : asciiView c ≠ 0x5F := by omega
  have hscan := scanDigits_digits hview [] false
  simp only [List.map_cons] at hscan
  unfold readInt
  simp only [List.map_cons, List.dropWhile_cons, hspace, Bool.false_eq_true, if_false]
  rw [hsign]
  simp only [List.head?_cons, Option.some.injEq, hunder, if_false]
  rw [hscan]
  simp

end Reading

namespace Token

/-! ## One read -/

/-- The body of a template is no longer than what the scan of it has taken and what is
left, when the fallback cut it holds is. -/
theorem length_templateBody {t acc : Text} {lastPair : Option (Text × Text)} {b r : Text} :
    templateBody t acc lastPair = some (b, r) →
      (∀ b' r', lastPair = some (b', r') → b'.length ≤ acc.length + t.length) →
        b.length ≤ acc.length + t.length := by
  fun_induction templateBody t acc lastPair with
  | case1 acc lastPair =>
    intro h hlast
    simpa using hlast b r h
  | case2 rest acc lastPair =>
    intro h _
    simp only [Option.some.injEq, Prod.mk.injEq] at h
    obtain ⟨rfl, -⟩ := h
    simp
  | case3 _ rest acc ih =>
    intro h _
    have hb := ih h (by
      intro b' r' hl
      simp only [Option.some.injEq, Prod.mk.injEq] at hl
      obtain ⟨rfl, -⟩ := hl
      simp only [List.length_reverse, List.length_cons]
      omega)
    simp only [List.length_cons] at hb ⊢
    omega
  | case4 c rest acc lastPair _ _ ih =>
    intro h hlast
    have hb := ih h (fun b' r' hl => by have := hlast b' r' hl; simp at this ⊢; omega)
    simp only [List.length_cons] at hb ⊢
    omega

theorem length_lt_of_next?_template {u r b : Text} (h : next? u = some (.template b, r)) :
    b.length < u.length := by
  cases u with
  | nil => simp [next?] at h
  | cons c rest =>
    simp only [next?] at h
    repeat' split at h
    all_goals simp at h
    have hb := length_templateBody h (by simp)
    simp only [List.length_nil, Nat.zero_add] at hb
    simp only [List.length_cons]
    omega

theorem next?_number {u r n : Text} (h : next? u = some (.number n, r)) :
    ∃ c rest, u = c :: rest ∧ Text.isDigit c = true ∧ n = numberText (c :: rest) := by
  cases u with
  | nil => simp [next?] at h
  | cons c rest =>
    simp only [next?] at h
    repeat' split at h
    all_goals simp at h
    exact ⟨c, rest, rfl, ‹_›, h.1.symm⟩

theorem fraction_eq (t : Text) : fraction t = [] ∨ ∃ ds, fraction t = 0x2E :: ds := by
  unfold fraction
  split
  · dsimp only
    split
    · exact .inl rfl
    · exact .inr ⟨_, rfl⟩
  · exact .inl rfl

theorem exponent_eq (t : Text) :
    exponent t = [] ∨ ∃ e rest, exponent t = e :: rest ∧ (e = 0x65 ∨ e = 0x45) := by
  unfold exponent
  split
  · rename_i e rest
    by_cases he : (e = 0x65 || e = 0x45) = true
    · rw [if_pos he]
      split
      dsimp only
      split
      · exact .inl rfl
      · exact .inr ⟨e, _, rfl, by simpa using he⟩
    · rw [if_neg he]
      exact .inl rfl
  · exact .inl rfl

theorem numberText_digits {c : Nat} {rest : Text} (hc : Text.isDigit c = true)
    (hn : (numberText (c :: rest)).any (fun x => x = 0x2E || x = 0x65 || x = 0x45) = false) :
    numberText (c :: rest) ≠ [] ∧ ∀ x ∈ numberText (c :: rest), Text.isDigit x = true := by
  simp only [numberText] at hn ⊢
  generalize hw : (c :: rest).takeWhile Text.isDigit = whole at hn ⊢
  have hwhole : whole = c :: rest.takeWhile Text.isDigit := by
    rw [← hw, List.takeWhile_cons_of_pos hc]
  rcases fraction_eq ((c :: rest).drop whole.length) with hf | ⟨ds, hf⟩
  · rw [hf] at hn ⊢
    rcases exponent_eq ((c :: rest).drop (whole.length + 0)) with he | ⟨e, es, he, hee⟩
    · simp only [List.length_nil] at he ⊢
      rw [he]
      refine ⟨by simp [hwhole], fun x hx => ?_⟩
      rw [← hw, List.append_nil, List.append_nil] at hx
      exact List.all_eq_true.1 List.all_takeWhile x hx
    · simp only [List.length_nil] at he hn
      rw [he] at hn
      rcases hee with rfl | rfl <;> simp at hn
  · rw [hf] at hn
    simp at hn

/-! ## A whole scan -/

/-- A template of a scan has a body shorter than the scanned text. -/
theorem length_lt_of_template_mem {t : Text} {ts : List Token} {b : Text}
    (h : scan t = some ts) (hb : .template b ∈ ts) : b.length < t.length := by
  obtain ⟨u, r, hu, hn⟩ := scan_mem h hb
  have := length_lt_of_next?_template hn
  omega

theorem digits_of_number_mem {t : Text} {ts : List Token} {n : Text}
    (h : scan t = some ts) (hn : .number n ∈ ts)
    (hx : n.any (fun x => x = 0x2E || x = 0x65 || x = 0x45) = false) :
    n ≠ [] ∧ ∀ x ∈ n, Text.isDigit x = true := by
  obtain ⟨u, r, -, hnext⟩ := scan_mem h hn
  obtain ⟨c, rest, rfl, hc, rfl⟩ := next?_number hnext
  exact numberText_digits hc hx


end Token

end Templating
