import Templating.Value.Basic
/-!
# Attributes of host values

Besides the entries of objects and the fields of records, the host gives some values
named attributes, which expressions read like fields (`Value.attr`):

* an integer, and a boolean as the integer 0 or 1, has `real` and `numerator` (itself),
  `imag` (0) and `denominator` (1), and the methods `intMethods`;
* a double has `real` (itself) and `imag` (0.0), and the methods `floatMethods`;
* a validated model has, besides its fields, the settings `model_config` and
  `model_computed_fields` (both empty), `model_extra` (`null`), the descriptions of its
  fields `model_fields`, the set `model_fields_set` of its field names, and the methods
  `modelMethods`;
* the set of field names has the methods `setMethods`;
* a field description has its declared type `annotation` (the root class), its `default`
  (the marker of none), `repr` (true), an empty `metadata` list, and the methods
  `fieldInfoMethods`; its other settings are all `null`;
* the root class has the method `mro`.

A method read from a value is bound to it (`Value.method`); where the value was read from
is filled in by the evaluator. The methods in `classMethods` are bound to the value's
class instead, which shows in their text only, and the functions in `Host.staticNames`
are bound to nothing. Other values have no attributes.
-/

namespace Templating

namespace Value

/-! ## Data -/

/-- The methods of integers and booleans. -/
def intMethods : List String :=
  ["as_integer_ratio", "bit_count", "bit_length", "conjugate", "from_bytes", "to_bytes"]

/-- The methods of doubles. -/
def floatMethods : List String :=
  ["as_integer_ratio", "conjugate", "fromhex", "hex", "is_integer"]

/-- The methods of validated models. -/
def modelMethods : List String :=
  ["construct", "copy", "dict", "from_orm", "json", "model_construct", "model_copy",
   "model_dump", "model_dump_json", "model_json_schema", "model_parametrized_name",
   "model_post_init", "model_rebuild", "model_validate", "model_validate_json",
   "model_validate_strings", "parse_file", "parse_obj", "parse_raw", "schema", "schema_json",
   "update_forward_refs", "validate"]

/-- The methods, of all the above, that are bound to the class of the value they are
read from. -/
def classMethods : List String :=
  ["from_bytes", "fromhex", "construct", "from_orm", "model_construct", "model_json_schema",
   "model_parametrized_name", "model_rebuild", "model_validate", "model_validate_json",
   "model_validate_strings", "parse_file", "parse_obj", "parse_raw", "schema", "schema_json",
   "update_forward_refs", "validate"]

/-- The methods of sets. -/
def setMethods : List String :=
  ["add", "clear", "copy", "difference", "difference_update", "discard", "intersection",
   "intersection_update", "isdisjoint", "issubset", "issuperset", "pop", "remove",
   "symmetric_difference", "symmetric_difference_update", "union", "update"]

/-- The methods of field descriptions, the unbound ones included. -/
def fieldInfoMethods : List String :=
  ["apply_typevars_map", "asdict", "get_default", "is_required", "rebuild_annotation"] ++
    Host.staticNames

/-- Whether `name` is one of `names`. -/
def named (names : List String) (name : Text) : Bool := names.any (fun n => Text.ofString n = name)

/-! ## Algorithm -/

/-- An attribute of an integer `n` read as the value `v`. -/
def intAttribute (v : Value) (n : Int) (name : Text) : Value :=
  if name = Text.ofString "real" || name = Text.ofString "numerator" then .int n
  else if name = Text.ofString "imag" then .int 0
  else if name = Text.ofString "denominator" then .int 1
  else if named intMethods name then .method v name none
  else .null

/-- An attribute of a double `x`. -/
def floatAttribute (x : Binary64) (name : Text) : Value :=
  if name = Text.ofString "real" then .float x
  else if name = Text.ofString "imag" then .float (Binary64.zero false)
  else if named floatMethods name then .method (.float x) name none
  else .null

/-- An attribute of a validated model `v`, with identity `id` and fields `fs`, that is not
a field. -/
def modelAttribute (v : Value) (id : Nat) (fs : List (Text × Value)) (name : Text) : Value :=
  if name = Text.ofString "model_config" || name = Text.ofString "model_computed_fields" then
    .object []
  else if name = Text.ofString "model_fields" then
    .object (fs.map fun f => (f.1, .host (.fieldInfo id f.1)))
  else if name = Text.ofString "model_fields_set" then .host (.fieldNames id (fs.map Prod.fst))
  else if named modelMethods name then .method v name none
  else .null

/-- An attribute of a field description `v`. -/
def fieldInfoAttribute (v : Value) (name : Text) : Value :=
  if name = Text.ofString "annotation" then .host .objectClass
  else if name = Text.ofString "default" then .host .undefined
  else if name = Text.ofString "repr" then .bool true
  else if name = Text.ofString "metadata" then .list []
  else if named fieldInfoMethods name then .method v name none
  else .null

/-- An attribute of a host object `h`, read as the value `v`. -/
def hostAttribute (v : Value) (h : Host) (name : Text) : Value :=
  match h with
  | .fieldNames _ _ => if named setMethods name then .method v name none else .null
  | .fieldInfo _ _ => fieldInfoAttribute v name
  | .objectClass => if name = Text.ofString "mro" then .method v name none else .null
  | .undefined => .null

/-- The attribute `name` of a value that is not an object; `null` when it has none. -/
def attr (v : Value) (name : Text) : Value :=
  match v with
  | .bool b => intAttribute v (if b then 1 else 0) name
  | .int n => intAttribute v n name
  | .float x => floatAttribute x name
  | .record .model id fs =>
    match fs.lookup name with
    | some x => x
    | none => modelAttribute v id fs name
  | .record _ _ fs => (fs.lookup name).getD .null
  | .host h => hostAttribute v h name
  | _ => .null

/-- A value read from the context at `place`: a method read from it remembers the place
of its receiver. -/
def placed (place : Option (List Text)) : Value → Value
  | .method r name _ => .method r name place
  | v => v

end Value

end Templating
