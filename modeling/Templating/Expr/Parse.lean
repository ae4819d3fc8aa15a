import Templating.Expr.Surface
import Templating.Number.Reading
import Templating.Number.IntText
import Templating.Text.Blank
import Templating.Abort
/-!
# Parsing expression text

`Expr.parse` turns expression text (after the `=` marker) into an expression:

1. text that is all blank is refused as empty;
2. the text is cut into tokens and parsed into a concrete tree; any failure there is a
   syntax error;
3. the tree is built into an expression, children before their parent and left to right,
   so the first failure met in that order is the one reported:
   * `if` needs exactly three arguments, and any other call a builtin's name;
   * an integer literal may have at most `digitLimit` digits; a longer one ends the
     request (`Abort.longLiteral`);
   * a template is split into literal text and `${…}` parts, each part parsed as an
     expression of its own. A part's failure names the part's text, except for a failure
     that ends the request, which the template reports (`Abort.inTemplate`).

Parsing starts at a depth of the host's stack (see `Stack`), and building takes two frames
per level of the tree. Reading the text into a tree needs `scanFrames` free frames. A leaf
of the tree is where building goes deepest, so it is where the stack runs out: how it
fails depends on how few frames are left above it, and on its rule (`leafFailure?`, with
one table per kind of leaf). A failure inside the rule's own code is reported by the rule.

The parts of a template are shorter than the text that holds the template, which is what
the recursion of `Expr.parse` descends on.
-/

namespace Templating

/-- Why expression text does not parse. Each names the text that failed. -/
inductive ParseError where
  /-- The text is blank. -/
  | empty (source : Text)
  /-- The text is not in the grammar. -/
  | malformed (source : Text)
  /-- `if` is called with other than three arguments. -/
  | ifArity (source : Text)
  /-- A call names no builtin. -/
  | unknownFunction (source name : Text)
  /-- A `${` in a template has no closing brace. -/
  | unterminated (source : Text)
  /-- Building the expression met a failure that ends the request. -/
  | abort (a : Abort)
deriving DecidableEq

namespace ParseError

/-- The message of a parse failure. -/
def message : ParseError → Text
  | .empty s => cannot s (Text.ofString "expression is empty")
  | .malformed s => cannot s (Text.ofString "syntax error")
  | .ifArity s => cannot s (Text.ofString "if expects 3 arguments")
  | .unknownFunction s n =>
    cannot s (Text.ofString "unknown function '" ++ n ++ Text.ofString "'")
  | .unterminated s => cannot s (Text.ofString "unterminated '$\x7b' in template")
  | .abort a => a.message
where
  /-- The common form of a failure that names its text. -/
  cannot (source reason : Text) : Text :=
    Text.ofString "Cannot parse expression '" ++ source ++ Text.ofString "': " ++ reason

/-- The failure as seen from the template that holds the failing text: a failure that
ends the request is reported by the template's rule, any other stays as it is. -/
def inTemplate : ParseError → ParseError
  | .abort a => .abort (.inTemplate a)
  | e => e

end ParseError

namespace Expr

/-! ## Literals -/

/-- The control code point of a one-letter escape: `n t r b f`; any other code point
stands for itself. -/
def escapedCodePoint (c : Nat) : Nat :=
  if c = 0x6E then 0x0A
  else if c = 0x74 then 0x09
  else if c = 0x72 then 0x0D
  else if c = 0x62 then 0x08
  else if c = 0x66 then 0x0C
  else c

/-- The text of a quoted string's body: `\uXXXX` is that code point (surrogates kept
apart), `\n \t \r \b \f` the controls, and a backslash before anything else drops. -/
def unescape : Text → Text
  | [] => []
  | 0x5C :: c :: rest =>
    if c = 0x75 then
      match Text.hex4? (rest.take 4) with
      | some v => v :: unescape (rest.drop 4)
      | none => c :: unescape rest
    else escapedCodePoint c :: unescape rest
  | c :: rest => c :: unescape rest
termination_by t => t.length
decreasing_by all_goals simp only [List.length_cons, List.length_drop]; omega

/-- The length of the text before the brace that closes an opened `${`; none when no brace
closes it. Braces nest, and quoted text, in which a backslash takes the next code point
along, holds no braces. `quote` is the open quote, if any. -/
def braceEnd : Text → (depth : Nat) → (quote : Option Nat) → Option Nat
  | [], _, _ => none
  | 0x5C :: _ :: rest, depth, some q => (braceEnd rest depth (some q)).map (· + 2)
  | c :: rest, depth, some q =>
    (braceEnd rest depth (if c = q then none else some q)).map (· + 1)
  | c :: rest, depth, none =>
    if c = 0x27 || c = 0x22 then (braceEnd rest depth (some c)).map (· + 1)
    else if c = 0x7B then (braceEnd rest (depth + 1) none).map (· + 1)
    else if c = 0x7D then
      if depth = 0 then some 0 else (braceEnd rest (depth - 1) none).map (· + 1)
    else (braceEnd rest depth none).map (· + 1)

/-- The parts of a template body: literal runs and the expressions of its `${…}` parts,
parsed by `sub`. `\`` is a backtick; any other backslash is text. `run` holds the
current literal run, reversed. -/
def templateParts (source : Text) (sub : Text → Except ParseError Expr) :
    Text → (run : Text) → Except ParseError (List (Text ⊕ Expr))
  | [], run => .ok (literal run)
  | 0x5C :: 0x60 :: rest, run => templateParts source sub rest (0x60 :: run)
  | 0x24 :: 0x7B :: rest, run =>
    match braceEnd rest 0 none with
    | none => .error (.unterminated source)
    | some n => do
      let e ← sub (rest.take n)
      let tail ← templateParts source sub (rest.drop (n + 1)) []
      pure (literal run ++ .inr e :: tail)
  | c :: rest, run => templateParts source sub rest (c :: run)
termination_by t => t.length
decreasing_by all_goals simp; try omega
where
  /-- The literal run as a part, when it is not empty. -/
  literal (run : Text) : List (Text ⊕ Expr) := if run.isEmpty then [] else [.inl run.reverse]

/-- The integer or double of a number literal: a double when it has a point or an
exponent. -/
def number (t : Text) : Except ParseError Value :=
  if t.any (fun c => c = 0x2E || c = 0x65 || c = 0x45) then
    .ok (.float ((Reading.readFloat? t).getD Binary64.nan))
  else
    match Reading.readInt t with
    | .ok n => .ok (.int n)
    | .error (.tooManyDigits d) => .error (.abort (.longLiteral d))
    | .error .invalid => .ok (.int 0)

/-- The key of an object literal entry. -/
def keyText : SurfaceKey → Text
  | .name n => n
  | .string b => unescape b

/-! ## The stack while building -/

/-- How building a leaf of the concrete tree fares when its frame is only a few frames
below the stack's limit. -/
inductive Reach where
  /-- The host's own machinery runs out of stack: a bare recursion failure. -/
  | bare
  /-- The host's own machinery runs out calling through an object. -/
  | bareCalling
  /-- The leaf's rule runs out of stack, and reports it. -/
  | rule
  /-- The leaf's rule runs out calling through an object, and reports it. -/
  | ruleCalling
deriving DecidableEq

/-- The fate of a leaf with one token (a number, a name, a call without arguments), by
the frames free above its own: `k` free frames give entry `k`, and a leaf with more free
frames than the table has entries is built. -/
def tokenReach : List Reach :=
  [.bare, .bare, .bare, .bare, .bare, .bareCalling, .rule, .ruleCalling]

/-- The fate of an integer literal past the digit limit; with room enough the rule fails
on the literal itself. -/
def longReach : List Reach := [.bare, .bare, .bare, .bare, .bare, .bareCalling, .rule]

/-- The fate of a call of a name that is no builtin; with room enough the rule refuses the
name. -/
def unknownReach : List Reach :=
  [.bare, .bare, .bare, .bare, .bare, .bareCalling, .rule, .rule, .ruleCalling]

/-- The fate of a quoted string; one with a backslash is unescaped, which takes a call
more. -/
def stringReach (escaped : Bool) : List Reach :=
  if escaped then [.bare, .bare, .bare, .bare, .bare, .bareCalling, .ruleCalling, .rule, .ruleCalling]
  else [.bare, .bare, .bare, .bare, .bare, .bareCalling, .ruleCalling, .ruleCalling]

/-- The fate of a leaf without a token: `true`, `false`, `null`, `[]` and `{}`. -/
def bareReach : List Reach :=
  [.bare, .bare, .bareCalling, .bare, .bare, .bareCalling, .rule, .ruleCalling]

/-- The fate of a template before its parts are parsed; an empty one has no body to
scan. -/
def templateReach (empty : Bool) : List Reach :=
  [.bare, .bare, .bare, .bare, .bare, .bareCalling, if empty then .rule else .ruleCalling,
    .ruleCalling]

/-- The failure, if any, of building a leaf of the rule `rule` whose frame is at depth
`frame`, as `table` gives it. -/
def leafFailure? (rule : Text) (table : List Reach) (frame : Nat) : Option Abort :=
  if Stack.limit < frame then some (.stack []) else
  match table[Stack.limit - frame]? with
  | none => none
  | some .bare => some (.stack [])
  | some .bareCalling => some (.stack Stack.calling)
  | some .rule => some (.inRule rule (.stack []))
  | some .ruleCalling => some (.inRule rule (.stack Stack.calling))

/-- A leaf of the rule `rule` at depth `frame`: its stack failure, if it has one, and
else `built`. -/
def leaf (rule : Text) (table : List Reach) (frame : Nat) (built : Except ParseError Expr) :
    Except ParseError Expr :=
  match leafFailure? rule table frame with
  | some a => .error (.abort a)
  | none => built

/-- The rule that builds a keyword constant. -/
def constantRule : Value → Text
  | .bool true => Text.ofString "true"
  | .bool false => Text.ofString "false"
  | _ => Text.ofString "null"

/-! ## Building -/

mutual

/-- The expression of a concrete tree of the text `source` whose node is built in a frame
at depth `frame`; `sub` parses the parts of templates from a given depth. Every node's
children are two frames deeper per level of the host's grammar: one level for an operand,
two for the arguments of a call or the items of an array (the list is a level), three for
the values of an object's entries (the entry list and the entry). -/
def build (source : Text) (sub : Nat → Text → Except ParseError Expr) (frame : Nat) :
    Surface → Except ParseError Expr
  | .number t =>
    match number t with
    | .ok v => leaf (Text.ofString "number") tokenReach frame (.ok (.lit v))
    | .error e => leaf (Text.ofString "number") longReach frame (.error e)
  | .string b =>
    leaf (Text.ofString "string") (stringReach (b.contains 0x5C)) frame
      (.ok (.lit (.str (unescape b))))
  | .template b =>
    leaf (Text.ofString "template") (templateReach b.isEmpty) frame
      ((templateParts source (sub (frame + 7)) b []).mapError ParseError.inTemplate |>.map
        .template)
  | .constant v => leaf (constantRule v) bareReach frame (.ok (.lit v))
  | .name n => leaf (Text.ofString "var") tokenReach frame (.ok (.var n))
  | .member t n => (fun e => .member e n) <$> build source sub (frame + 2) t
  | .index t k => do
    let t ← build source sub (frame + 2) t
    let k ← build source sub (frame + 2) k
    pure (.index t k)
  | .call n [] =>
    if n = Text.ofString "if" then
      leaf (Text.ofString "call") tokenReach frame (.error (.ifArity source))
    else
      match Builtin.ofName? n with
      | some f => leaf (Text.ofString "call") tokenReach frame (.ok (.call f []))
      | none => leaf (Text.ofString "call") unknownReach frame (.error (.unknownFunction source n))
  | .call n args => do
    let args ← buildList source sub (frame + 4) args
    if n = Text.ofString "if" then
      match args with
      | [c, a, b] => pure (.cond c a b)
      | _ => .error (.ifArity source)
    else
      match Builtin.ofName? n with
      | some f => pure (.call f args)
      | none => .error (.unknownFunction source n)
  | .array [] => leaf (Text.ofString "array") bareReach frame (.ok (.array []))
  | .array items => .array <$> buildList source sub (frame + 4) items
  | .object [] => leaf (Text.ofString "object") bareReach frame (.ok (.object []))
  | .object pairs => .object <$> buildPairs source sub (frame + 6) pairs
  | .not e => .not <$> build source sub (frame + 2) e
  | .negate e => .negate <$> build source sub (frame + 2) e
  | .plus e => .plus <$> build source sub (frame + 2) e
  | .and l r => do
    let l ← build source sub (frame + 2) l
    let r ← build source sub (frame + 2) r
    pure (.and l r)
  | .or l r => do
    let l ← build source sub (frame + 2) l
    let r ← build source sub (frame + 2) r
    pure (.or l r)
  | .binary op l r => do
    let l ← build source sub (frame + 2) l
    let r ← build source sub (frame + 2) r
    pure (.binary op l r)

/-- The expressions of a list of trees, left to right, each at depth `frame`. -/
def buildList (source : Text) (sub : Nat → Text → Except ParseError Expr) (frame : Nat) :
    List Surface → Except ParseError (List Expr)
  | [] => .ok []
  | s :: rest => do
    let e ← build source sub frame s
    let es ← buildList source sub frame rest
    pure (e :: es)

/-- The entries of an object literal, left to right, each value at depth `frame`. -/
def buildPairs (source : Text) (sub : Nat → Text → Except ParseError Expr) (frame : Nat) :
    List (SurfaceKey × Surface) → Except ParseError (List (Text × Expr))
  | [] => .ok []
  | (k, s) :: rest => do
    let e ← build source sub frame s
    let es ← buildPairs source sub frame rest
    pure ((keyText k, e) :: es)

end

/-! ## Parsing -/

/-- The frames that reading text into a concrete tree takes above the frame that parses
it; a parse that starts with fewer free frames runs out of stack before any rule is
applied. -/
def scanFrames : Nat := 9

/-- The expression of a text, parsed from a frame at depth `depth`. The root of its tree
is built three frames deeper, and a template's parts are parsed seven frames below the
template's own frame. -/
def parse (depth : Nat) (source : Text) : Except ParseError Expr :=
  if Text.isAllBlank source then .error (.empty source) else
  if Stack.limit < depth + scanFrames then .error (.abort (.stack [])) else
  match (Token.scan source).bind Surface.parse? with
  | none => .error (.malformed source)
  | some s =>
    build source (fun d inner =>
      if inner.length < source.length then parse d inner else .error (.malformed inner))
      (depth + 3) s
termination_by source.length

end Expr

end Templating
