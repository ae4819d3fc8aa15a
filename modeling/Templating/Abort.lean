import Templating.Number.IntText
/-!
# Failures that end a request

Expressions are parsed and evaluated by a host whose call stack holds at most
`Stack.limit` frames. Everything here that the host does recursively is charged the frames
it takes: a computation starts at a *depth*, the number of frames in use when it begins,
and each call it makes takes one frame more for as long as the call lasts. The host also
takes a frame, for the length of a step, when it calls a function through an object,
compares two values, or decodes an array or object nested in JSON text.

Most failures of an expression are caught where it is evaluated, and become the message
of its outcome. The failures here are caught nowhere: they end the whole request that
met them.

* The host runs out of stack (`stack`): expression text, JSON text or a value nests too
  deeply for the frames left. The message ends with the *site* of the step that needed
  the frame: nothing for a plain call, `Stack.calling` for a call through an object, and
  `Stack.comparing` for a comparison.
* An integer literal has more digits than `digitLimit` (`digits`).
* A rule of the grammar that meets either of them while it builds a part of an expression
  reports it with its own name (`inRule`): the rule `number` for a long literal, the rule
  `template` for a failure in a part of a template, and the rule of a leaf whose own
  building runs out of stack.

However many rules report a failure, its message ends with the message of the failure
they report, its `cause`.

Main statements:

    a.cause.message <:+ a.message                               (message_cause_suffix)
    a.cause is a stack failure or a long literal                (cause_cases)
-/

namespace Templating

namespace Stack

/-- The most frames the host's call stack holds. -/
def limit : Nat := 1000

/-- The site of a call the host makes through an object. -/
def calling : Text := Text.ofString " while calling a Python object"

/-- The site of a comparison of two values. -/
def comparing : Text := Text.ofString " in comparison"

end Stack

/-- A failure that ends the request that met it. -/
inductive Abort where
  /-- The host ran out of stack; `site` ends the message. -/
  | stack (site : Text)
  /-- An integer literal has `count` digits, more than `digitLimit`. -/
  | digits (count : Nat)
  /-- A failure met by the grammar rule `rule`, which reports it. -/
  | inRule (rule : Text) (cause : Abort)
deriving DecidableEq

namespace Abort

/-! ## Algorithm -/

/-- The text with which a rule of the grammar reports a failure. -/
def ruleFailure (rule : Text) : Text :=
  Text.ofString "Error trying to process rule \"" ++ rule ++ Text.ofString "\":\n\n"

/-- The message of a failure. -/
def message : Abort → Text
  | .stack site => Text.ofString "maximum recursion depth exceeded" ++ site
  | .digits n => readLimitMessage n
  | .inRule rule a => ruleFailure rule ++ a.message

/-- A long integer literal, as the rule that builds numbers reports it. -/
def longLiteral (count : Nat) : Abort := .inRule (Text.ofString "number") (.digits count)

/-- A failure in a part of a template, as the rule that builds templates reports it. -/
def inTemplate (a : Abort) : Abort := .inRule (Text.ofString "template") a

/-- Whether the failure is the host running out of stack, as opposed to a failure that a
rule of the grammar reports. -/
def isStack : Abort → Bool
  | .stack _ => true
  | _ => false

/-- The failure a report is about, under the rules that report it. -/
def cause : Abort → Abort
  | .inRule _ a => a.cause
  | a => a

/-! ## Lemmas -/

@[simp] theorem cause_inRule (rule : Text) (a : Abort) : (inRule rule a).cause = a.cause := rfl

theorem cause_cases : ∀ a : Abort, (∃ site, a.cause = .stack site) ∨ ∃ n, a.cause = .digits n
  | .stack site => .inl ⟨site, rfl⟩
  | .digits n => .inr ⟨n, rfl⟩
  | .inRule _ a => cause_cases a

theorem message_cause_suffix : ∀ a : Abort, a.cause.message <:+ a.message
  | .stack _ | .digits _ => List.suffix_refl _
  | .inRule rule a => (message_cause_suffix a).trans (List.suffix_append (ruleFailure rule) _)

example :
    (inRule (Text.ofString "template") (stack [])).message =
      Text.ofString "Error trying to process rule \"template\":\n\nmaximum recursion depth exceeded" := by
  decide +kernel

end Abort

end Templating
