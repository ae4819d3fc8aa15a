import Templating.Value.Attribute
import Templating.Number.Arith
/-!
# Equality and order of values

Values are equal in the host's loose sense (`Value.looseEq`):

* numbers are equal by their exact value, across integers and doubles, and the booleans
  count as the integers 0 and 1 here; NaN equals nothing;
* texts are equal code point by code point;
* lists equal lists and tuples equal tuples item by item; a list never equals a tuple;
* objects are equal when they have the same keys with equal values, in any order;
* a record equals only itself, and so does a field description;
* two sets of field names are equal when they hold the same names, in any order;
* a method equals a method of the same name and type bound to the same object
  (`Value.sameObject`).

The host keeps one object for each boolean and each integer from -5 to 256, so reading
one of these twice gives the same object. Any other number is one object for each place
it is read from: two reads of one place in the context give the same object, and numbers
that are written in the expression or computed are each an object of their own, the
same as no other. A method of the class (`classMethods`) is bound to the class of its
receiver, which is one object for all integers, one for all booleans and one for all
doubles; an unbound function (`Host.staticNames`) is the same object wherever it is read.

The equality operator of expressions (`Value.strictEq`) is loose equality, except that a
boolean never equals a value that is not one. Order is defined between numbers (exactly,
NaN unordered) and between texts (code point by code point).
-/

namespace Templating

namespace Value

/-- The number of a value, for arithmetic: integers and doubles, never booleans. -/
def num? : Value → Option Num
  | .int n => some (.int n)
  | .float x => some (.float x)
  | _ => none

/-- The value of a number. -/
def ofNum : Num → Value
  | .int n => .int n
  | .float x => .float x

/-- The number of a value for equality, where booleans count as 0 and 1. -/
def numericView : Value → Option Num
  | .bool b => some (.int (if b then 1 else 0))
  | v => v.num?

/-- The object a method is bound to, as far as telling methods apart goes. -/
inductive Binder where
  /-- The class of the given name. -/
  | cls (name : Text)
  /-- One of the two booleans. -/
  | bool (b : Bool)
  /-- The one object of a small integer. -/
  | small (n : Int)
  /-- The number of the given type read from the context at `place`. -/
  | read (typeName : Text) (place : List Text)
  /-- The record with the given identity. -/
  | record (id : Nat)
  /-- The field description of the given model and field. -/
  | fieldInfo (owner : Nat) (name : Text)
  /-- The set of field names of the given model. -/
  | fieldNames (owner : Nat)
  /-- The root class. -/
  | objectClass
  /-- Nothing: the method is a plain function. -/
  | unbound
deriving DecidableEq

/-- The object that the method `name`, read from `r` at `place`, is bound to; `none` when
it is an object of its own, the same as no other. -/
def binder? (r : Value) (name : Text) (place : Option (List Text)) : Option Binder :=
  match r with
  | .bool b => some (if named classMethods name then .cls r.typeName else .bool b)
  | .int n =>
    if named classMethods name then some (.cls r.typeName)
    else if -5 ≤ n ∧ n ≤ 256 then some (.small n)
    else place.map (.read r.typeName)
  | .float _ =>
    if named classMethods name then some (.cls r.typeName) else place.map (.read r.typeName)
  | .record _ id _ => some (.record id)
  | .host (.fieldInfo o n) => some (if named Host.staticNames name then .unbound else .fieldInfo o n)
  | .host (.fieldNames o _) => some (.fieldNames o)
  | .host .objectClass => some .objectClass
  | _ => none

/-- Whether two methods are bound to the same object. -/
def sameObject (r : Value) (name : Text) (p : Option (List Text)) (r' : Value) (p' : Option (List Text)) : Bool :=
  match binder? r name p, binder? r' name p' with
  | some a, some b => a = b
  | _, _ => false

/-- Whether two lists of names hold the same names. -/
def sameNames (xs ys : List Text) : Bool := xs.all (ys.contains ·) && ys.all (xs.contains ·)

mutual

/-- Loose equality of values. -/
def looseEq : Value → Value → Bool
  | .null, .null => true
  | .str a, .str b => a = b
  | .list xs, .list ys => looseEqItems xs ys
  | .tuple xs, .tuple ys => looseEqItems xs ys
  | .object es, .object fs => es.length = fs.length && looseEqEntries es fs
  | .record _ i _, .record _ j _ => i = j
  | .method r m p, .method r' m' p' =>
    m = m' && r.typeName = r'.typeName && sameObject r m p r' p'
  | .host (.fieldNames _ xs), .host (.fieldNames _ ys) => sameNames xs ys
  | .host a, .host b => a = b
  | a, b =>
    match a.numericView, b.numericView with
    | some x, some y => x.compare? y = some .eq
    | _, _ => false

/-- Item-by-item loose equality of two lists. -/
def looseEqItems : List Value → List Value → Bool
  | [], [] => true
  | x :: xs, y :: ys => looseEq x y && looseEqItems xs ys
  | _, _ => false

/-- Whether every entry of the first list has a loosely equal value under its key in
`fs`. -/
def looseEqEntries : List (Text × Value) → Entries → Bool
  | [], _ => true
  | (k, v) :: es, fs =>
    (match fs.lookup k with
     | some w => looseEq v w
     | none => false) && looseEqEntries es fs

end

/-- Whether a value is a boolean. -/
def isBool : Value → Bool
  | .bool _ => true
  | _ => false

/-- The equality operator: loose equality, with a boolean never equal to a value that
is not a boolean. -/
def strictEq (a b : Value) : Bool := a.isBool == b.isBool && looseEq a b

/-- Whether a list holds an item loosely equal to the value. -/
def memLoose (x : Value) (xs : List Value) : Bool := xs.any (fun y => looseEq y x)

/-- The position of the first item loosely equal to the value. -/
def indexLoose? (x : Value) (xs : List Value) : Option Nat := xs.findIdx? (fun y => looseEq y x)

end Value

namespace Text

/-- The order of texts, code point by code point. -/
def order : Text → Text → Ordering
  | [], [] => .eq
  | [], _ :: _ => .lt
  | _ :: _, [] => .gt
  | a :: as, b :: bs => match compare a b with
    | .eq => order as bs
    | o => o

end Text

namespace Value

/-- The order of two values, when they are both numbers or both texts: `some none` for
two numbers that are unordered (NaN), `none` for values of no common order. -/
def order? : Value → Value → Option (Option Ordering)
  | .str a, .str b => some (some (Text.order a b))
  | a, b =>
    match a.num?, b.num? with
    | some x, some y => some (x.compare? y)
    | _, _ => none

end Value

end Templating
