/-!
# Text as code points

Text in this library is a list of Unicode code points, each held as a natural number.
A code point need not be a Unicode scalar value: a lone surrogate such as `0xD800` is a
code point of its own, since an escape like `\ud800` in an expression produces one, and
it has to reach the output unchanged. Lean's `String` cannot hold it, so text is a list.

The searching operations follow the usual conventions of text libraries: the empty text
occurs at every position, replacement and splitting scan left to right without overlap.

Main statements:

    stripPrefix? p t = some r → r.length + p.length = t.length      (length_stripPrefix?)
    stripPrefix? p (p ++ r) = some r                                  (stripPrefix?_append)
    find? [] t = some 0                                               (find?_nil)
-/

namespace Templating

/-- Text: a finite sequence of code points, surrogates included. -/
abbrev Text := List Nat

namespace Text

/-! ## Algorithm -/

/-- The code points of a Lean string. -/
def ofString (s : String) : Text := s.toList.map Char.toNat

instance : Coe String Text := ⟨ofString⟩

/-- The Lean string of a text. Code points that are not scalar values (surrogates)
become U+0000, so this is meant for text already known to be plain, such as ASCII. -/
def toString (t : Text) : String := String.ofList (t.map Char.ofNat)

/-- `stripPrefix? p t` is the rest of `t` after `p`, when `t` starts with `p`. -/
def stripPrefix? : Text → Text → Option Text
  | [], t => some t
  | _ :: _, [] => none
  | d :: p, c :: t => if d = c then stripPrefix? p t else none

/-- Whether `p` is a prefix of `t`. -/
def startsWith (t p : Text) : Bool := (stripPrefix? p t).isSome

/-- Whether `s` is a suffix of `t`. -/
def endsWith (t s : Text) : Bool := startsWith t.reverse s.reverse

/-- The position of the first occurrence of `sub` in `t`; the empty text occurs at 0. -/
def find? (sub : Text) : Text → Option Nat
  | [] => if sub.isEmpty then some 0 else none
  | t@(_ :: rest) => if startsWith t sub then some 0 else (find? sub rest).map (· + 1)

/-- Whether `sub` occurs in `t`. -/
def containsText (t sub : Text) : Bool := (find? sub t).isSome

theorem length_stripPrefix? : ∀ {p t r : Text}, stripPrefix? p t = some r →
    r.length + p.length = t.length
  | [], t, r, h => by simp [stripPrefix?] at h; simp [h]
  | _ :: _, [], _, h => by simp [stripPrefix?] at h
  | d :: p, c :: t, r, h => by
    simp only [stripPrefix?] at h
    split at h
    · have := length_stripPrefix? h
      simp only [List.length_cons]
      omega
    · simp at h

/-- Replace every occurrence of a non-empty `old` by `new`, scanning left to right. -/
def replaceNonempty (old new : Text) (hold : old ≠ []) : Text → Text
  | [] => []
  | c :: rest =>
    match h : stripPrefix? old (c :: rest) with
    | some r =>
      have : r.length < rest.length + 1 := by
        have e := length_stripPrefix? h
        have : old.length ≠ 0 := by simpa using hold
        simp only [List.length_cons] at e
        omega
      new ++ replaceNonempty old new hold r
    | none => c :: replaceNonempty old new hold rest
termination_by t => t.length

/-- Every occurrence of `old` replaced by `new`, left to right and without overlap. The
empty text occurs before every code point and at the end, so replacing it puts `new`
around and between all code points. -/
def replaceAll (t old new : Text) : Text :=
  if h : old = [] then new ++ t.flatMap (fun c => c :: new)
  else replaceNonempty old new h t

/-- The pieces of `t` between the occurrences of a non-empty separator; `cur` collects
the current piece in reverse. -/
def splitNonempty (sep : Text) (hsep : sep ≠ []) (cur : Text) : Text → List Text
  | [] => [cur.reverse]
  | c :: rest =>
    match h : stripPrefix? sep (c :: rest) with
    | some r =>
      have : r.length < rest.length + 1 := by
        have e := length_stripPrefix? h
        have : sep.length ≠ 0 := by simpa using hsep
        simp only [List.length_cons] at e
        omega
      cur.reverse :: splitNonempty sep hsep [] r
    | none => splitNonempty sep hsep (c :: cur) rest
termination_by t => t.length

/-- The pieces of `t` between the occurrences of `sep`. An empty separator cuts `t` into
its single code points. -/
def splitOn (t sep : Text) : List Text :=
  if h : sep = [] then t.map (fun c => [c]) else splitNonempty sep h [] t

/-- The pieces joined with `sep` between neighbours. -/
def join (sep : Text) (pieces : List Text) : Text := sep.intercalate pieces

/-- The lowercase hexadecimal digit of a value below 16. -/
def hexDigit (d : Nat) : Nat := if d < 10 then 0x30 + d else 0x61 + (d - 10)

/-- The last `width` lowercase hexadecimal digits of `n`, with leading zeros. -/
def hex : Nat → Nat → Text
  | 0, _ => []
  | width + 1, n => hex width (n / 16) ++ [hexDigit (n % 16)]

/-- The value of a hexadecimal digit (either case), if it is one. -/
def hexDigitValue? (c : Nat) : Option Nat :=
  if 0x30 ≤ c && c ≤ 0x39 then some (c - 0x30)
  else if 0x61 ≤ c && c ≤ 0x66 then some (c - 0x61 + 10)
  else if 0x41 ≤ c && c ≤ 0x46 then some (c - 0x41 + 10)
  else none

/-- The value of exactly four hexadecimal digits. -/
def hex4? (ds : Text) : Option Nat :=
  if ds.length = 4 then
    ds.foldl (fun acc c => acc.bind fun a => (hexDigitValue? c).map (16 * a + ·)) (some 0)
  else none

/-- The decimal digits of a natural number, most significant first. -/
def decimal (n : Nat) : Text := ofString (Nat.repr n)

/-! ## Lemmas -/

@[simp] theorem stripPrefix?_nil (t : Text) : stripPrefix? [] t = some t := by
  simp [stripPrefix?]

@[simp] theorem stripPrefix?_append (p r : Text) : stripPrefix? p (p ++ r) = some r := by
  induction p with
  | nil => simp
  | cons d p ih => simp [stripPrefix?, ih]

@[simp] theorem find?_nil (t : Text) : find? [] t = some 0 := by
  cases t <;> simp [find?, startsWith]

end Text

end Templating
