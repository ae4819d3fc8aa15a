import Templating.Text.Digit
/-!
# Tokens of expression text

Expression text is cut into tokens, left to right, skipping the blanks space, tab, form
feed, return and newline in between:

* a name: an ASCII letter, `_`, `@`, `#` or `$`, then ASCII letters, digits and `_`;
* a number: decimal digits (of any script), an optional fraction `.digits`, an optional
  exponent `e`/`E`, sign, digits. A fraction or exponent without digits is not taken;
* a string: text in single or double quotes, where a backslash takes the code point
  after it along, unless that is a newline;
* a template: text in backticks, where a backslash takes a backtick after it along.
  When no free backtick closes the template, it ends at the backtick of its last
  escaped pair instead (that backslash stays in the template as text);
* a symbol, the two-character ones taking precedence over their one-character prefixes.

Every token takes at least one code point, so the scan ends.

A scan reads the token at the head of text that starts with no blank, then scans what
that token leaves (`scan_of_next?`), so every token of a scan is read by `next?` from a
suffix of the text (`scan_mem`).

Main statements:

    next? (c :: u ++ r) = some (tok, r) → scan (c :: u ++ r) = (scan r).map (tok :: ·)
                                                                  (scan_of_next?)
    scan t = some ts → tok ∈ ts → ∃ u r, u.length ≤ t.length ∧ next? u = some (tok, r)
                                                                  (scan_mem)
-/

namespace Templating

/-- A symbol of expression text. -/
inductive Symbol where
  | orOr | andAnd | eqEq | bangEq | lt | le | gt | ge
  | plus | minus | star | slash | percent | caret | bang
  | dot | lbracket | rbracket | lparen | rparen | comma | lbrace | rbrace | colon
deriving DecidableEq

/-- A token. Strings and templates keep their text between the delimiters as written. -/
inductive Token where
  | name (t : Text)
  | number (t : Text)
  | string (body : Text)
  | template (body : Text)
  | sym (s : Symbol)
deriving DecidableEq

namespace Token

/-- The symbols with their spelling, longer spellings first. -/
def symbols : List (Text × Symbol) :=
  [(Text.ofString "||", .orOr), (Text.ofString "&&", .andAnd), (Text.ofString "==", .eqEq),
   (Text.ofString "!=", .bangEq), (Text.ofString "<=", .le), (Text.ofString ">=", .ge),
   (Text.ofString "<", .lt), (Text.ofString ">", .gt), (Text.ofString "+", .plus),
   (Text.ofString "-", .minus), (Text.ofString "*", .star), (Text.ofString "/", .slash),
   (Text.ofString "%", .percent), (Text.ofString "^", .caret), (Text.ofString "!", .bang),
   (Text.ofString ".", .dot), (Text.ofString "[", .lbracket), (Text.ofString "]", .rbracket),
   (Text.ofString "(", .lparen), (Text.ofString ")", .rparen), (Text.ofString ",", .comma),
   (Text.ofString "\x7b", .lbrace), (Text.ofString "\x7d", .rbrace), (Text.ofString ":", .colon)]

/-- Whether a code point is a blank between tokens. -/
def isSpace (c : Nat) : Bool := c = 0x20 || c = 0x09 || c = 0x0C || c = 0x0D || c = 0x0A

/-- Whether a code point is an ASCII letter. -/
def isLetter (c : Nat) : Bool := (0x41 ≤ c && c ≤ 0x5A) || (0x61 ≤ c && c ≤ 0x7A)

/-- Whether a code point may start a name. -/
def isNameStart (c : Nat) : Bool := isLetter c || c = 0x5F || c = 0x40 || c = 0x23 || c = 0x24

/-- Whether a code point may continue a name. -/
def isNameChar (c : Nat) : Bool := isLetter c || Text.isAsciiDigit c || c = 0x5F

/-! ## Scanners -/

/-- The exponent `e sign? digits` at the head, or nothing when it has no digit. -/
def exponent : Text → Text
  | e :: rest =>
    if e = 0x65 || e = 0x45 then
      let (sign, r) := match rest with
        | s :: r => if s = 0x2B || s = 0x2D then ([s], r) else ([], rest)
        | [] => ([], [])
      let ds := r.takeWhile Text.isDigit
      if ds.isEmpty then [] else e :: sign ++ ds
    else []
  | [] => []

/-- The fraction `. digits` at the head, or nothing when no digit follows the point. -/
def fraction : Text → Text
  | 0x2E :: rest =>
    let ds := rest.takeWhile Text.isDigit
    if ds.isEmpty then [] else 0x2E :: ds
  | _ => []

/-- The number at the head of a text starting with a digit. -/
def numberText (t : Text) : Text :=
  let whole := t.takeWhile Text.isDigit
  let frac := fraction (t.drop whole.length)
  whole ++ frac ++ exponent (t.drop (whole.length + frac.length))

/-- A quoted string's text up to its closing quote `q`, and the rest after the quote. -/
def stringBody (q : Nat) : Text → (acc : Text) → Option (Text × Text)
  | [], _ => none
  | c :: rest, acc =>
    if c = q then some (acc.reverse, rest)
    else if c = 0x5C then
      match rest with
      | d :: rest' => if d = 0x0A then none else stringBody q rest' (d :: c :: acc)
      | [] => none
    else stringBody q rest (c :: acc)

/-- A template's text up to its closing backtick, and the rest. `lastPair` holds the
cut at the backtick of the last escaped pair, used when no free backtick comes. -/
def templateBody : Text → (acc : Text) → (lastPair : Option (Text × Text)) → Option (Text × Text)
  | [], _, lastPair => lastPair
  | 0x60 :: rest, acc, _ => some (acc.reverse, rest)
  | 0x5C :: 0x60 :: rest, acc, _ =>
    templateBody rest (0x60 :: 0x5C :: acc) (some ((0x5C :: acc).reverse, rest))
  | c :: rest, acc, lastPair => templateBody rest (c :: acc) lastPair

/-- The token at the head of a text that does not start with a blank, and the rest. -/
def next? (t : Text) : Option (Token × Text) :=
  match t with
  | [] => none
  | c :: rest =>
    if Text.isDigit c then
      let n := numberText t
      some (.number n, t.drop n.length)
    else if isNameStart c then
      let n := c :: rest.takeWhile isNameChar
      some (.name n, t.drop n.length)
    else if c = 0x27 || c = 0x22 then
      (stringBody c rest []).map fun (b, r) => (.string b, r)
    else if c = 0x60 then
      (templateBody rest [] none).map fun (b, r) => (.template b, r)
    else
      (symbols.find? (fun s => Text.startsWith t s.1)).map fun s => (.sym s.2, t.drop s.1.length)

/-- The tokens of a text; none when some part of it is not a token. Each token takes at
least one code point, which the guard on the rest's length records. -/
def scan (t : Text) : Option (List Token) :=
  match t with
  | [] => some []
  | c :: rest =>
    if isSpace c then scan rest
    else
      match next? (c :: rest) with
      | none => none
      | some (tok, r) =>
        if r.length < rest.length + 1 then (scan r).map (tok :: ·) else none
termination_by t.length

/-! ## Lemmas -/

theorem scan_nil : scan [] = some [] := by
  rw [scan]

/-- The scan of text that starts with a blank is the scan after it. -/
theorem scan_space {c : Nat} (hc : isSpace c = true) (r : Text) : scan (c :: r) = scan r := by
  rw [scan, if_pos hc]

/-- A scan reads the token at the head of text that starts with no blank, then scans what
the token leaves. -/
theorem scan_of_next? {c : Nat} {u r : Text} {tok : Token} (hc : isSpace c = false)
    (h : next? (c :: u ++ r) = some (tok, r)) : scan (c :: u ++ r) = (scan r).map (tok :: ·) := by
  rw [List.cons_append] at h ⊢
  rw [scan, if_neg (by simp [hc]), h]
  have hlen : r.length < (u ++ r).length + 1 := by simp only [List.length_append]; omega
  simp only [hlen, if_true]

/-- Every token of a scan is read by `next?` from a text no longer than the scanned one. -/
theorem scan_mem {t : Text} {ts : List Token} {tok : Token} :
    scan t = some ts → tok ∈ ts → ∃ u r, u.length ≤ t.length ∧ next? u = some (tok, r) := by
  fun_induction scan t generalizing ts with
  | case1 =>
    intro h hmem
    simp only [Option.some.injEq] at h
    subst h
    simp at hmem
  | case2 c rest _ ih =>
    intro h hmem
    obtain ⟨u, r, hu, hn⟩ := ih h hmem
    exact ⟨u, r, by simp only [List.length_cons]; omega, hn⟩
  | case3 => intro h; simp at h
  | case4 c rest _ tok' r hnext _ ih =>
    intro h hmem
    obtain ⟨ts', hts', rfl⟩ := Option.map_eq_some_iff.1 h
    rcases List.mem_cons.1 hmem with rfl | hmem'
    · exact ⟨c :: rest, r, Nat.le_refl _, hnext⟩
    · obtain ⟨u, r', hu, hn⟩ := ih hts' hmem'
      exact ⟨u, r', by simp only [List.length_cons]; omega, hn⟩
  | case5 => intro h; simp at h

example :
    scan (Text.ofString "a.b+1") =
      some [.name (Text.ofString "a"), .sym .dot, .name (Text.ofString "b"), .sym .plus,
        .number (Text.ofString "1")] := by
  decide +kernel

end Token

end Templating
