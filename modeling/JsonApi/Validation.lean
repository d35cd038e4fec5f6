import JsonApi.Text

/-!
# Validation

A value is checked against a form: a settings record, a resource, a linkage.  What is wrong with it
is a list of issues, each a complaint about a place inside the value.  `Checked` values carry such
a list in place of a result; `Checked.pair` and `Checked.all` gather the issues of both sides.
-/

namespace JsonApi

/-- The kinds of records that objects stand for. -/
inductive RecordKind
  | dictionary
  | model
  | dataclass
  deriving DecidableEq

/-- What is wrong with a value. -/
inductive Complaint
  | missing
  | extra
  | frozen
  | text
  | integer
  | integerText
  | integerSize
  | fraction
  | notFinite
  | number
  | numberText
  | boolean
  | booleanText
  | array
  | tuple
  | dictionary
  /-- Neither a mapping nor a value of the named form. -/
  | record (form : Text)
  /-- A JSON value that is no object, where an object stands for a record. -/
  | object (kind : RecordKind)
  | shape
  /-- A check of the value's own refused it. -/
  | refused (message : Text)
  /-- Containers are nested too deep; the column tells where. -/
  | depth (column : Nat)
  /-- An integer has too many characters; the column tells where. -/
  | length (column : Nat)
  deriving DecidableEq

namespace Complaint

/-- The code of a complaint. -/
def code : Complaint → Text
  | .missing => "missing"
  | .extra => "extra_forbidden"
  | .frozen => "frozen_instance"
  | .text => "string_type"
  | .integer => "int_type"
  | .integerText => "int_parsing"
  | .integerSize => "int_parsing_size"
  | .fraction => "int_from_float"
  | .notFinite => "finite_number"
  | .number => "float_type"
  | .numberText => "float_parsing"
  | .boolean => "bool_type"
  | .booleanText => "bool_parsing"
  | .array => "list_type"
  | .tuple => "tuple_type"
  | .dictionary => "dict_type"
  | .record _ => "model_type"
  | .object .dictionary => "dict_type"
  | .object .model => "model_type"
  | .object .dataclass => "dataclass_type"
  | .shape => "enum"
  | .refused _ => "value_error"
  | .depth _ | .length _ => "json_invalid"

/-- The wording of a complaint. -/
def message : Complaint → Text
  | .missing => "Field required"
  | .extra => "Extra inputs are not permitted"
  | .frozen => "Instance is frozen"
  | .text => "Input should be a valid string"
  | .integer => "Input should be a valid integer"
  | .integerText => "Input should be a valid integer, unable to parse string as an integer"
  | .integerSize => "Unable to parse input string as an integer, exceeded maximum size"
  | .fraction => "Input should be a valid integer, got a number with a fractional part"
  | .notFinite => "Input should be a finite number"
  | .number => "Input should be a valid number"
  | .numberText => "Input should be a valid number, unable to parse string as a number"
  | .boolean => "Input should be a valid boolean"
  | .booleanText => "Input should be a valid boolean, unable to interpret input"
  | .array => "Input should be a valid array"
  | .tuple => "Input should be a valid tuple"
  | .dictionary => "Input should be a valid dictionary"
  | .record form => ("Input should be a valid dictionary or instance of " : Text) ++ form
  | .object _ => "Input should be an object"
  | .shape => "Input should be 'to-one' or 'to-many'"
  | .refused message => ("Value error, " : Text) ++ message
  | .depth column =>
    ("Invalid JSON: recursion limit exceeded at line 1 column " : Text) ++ Text.ofNat column
  | .length column =>
    ("Invalid JSON: number out of range at line 1 column " : Text) ++ Text.ofNat column

end Complaint

/-- A step into a value: the name of a member, or the index of an item. -/
inductive Step
  | member (name : Text)
  | item (index : Nat)
  deriving DecidableEq

/-- A complaint and the place that it is about. -/
structure Issue where
  place : List Step
  complaint : Complaint
  deriving DecidableEq

/-- A value that does not have the form it should have. -/
structure ValidationError where
  form : Text
  issues : List Issue
  deriving DecidableEq

/-- The headline of a validation error. -/
def ValidationError.message (e : ValidationError) : Text :=
  Text.ofNat e.issues.length ++
    (if e.issues.length = 1 then (" validation error for " : Text)
      else (" validation errors for " : Text)) ++ e.form

/-- The error for setting a field of a value that does not change. -/
def ValidationError.frozen (form field : Text) : ValidationError :=
  ⟨form, [⟨[.member field], .frozen⟩]⟩

/-- A value that has passed its checks, or the issues it failed with. -/
abbrev Checked (α : Type) := Except (List Issue) α

namespace Checked

variable {α β : Type}

/-- A value that fails with a complaint about itself. -/
def fail (c : Complaint) : Checked α := .error [⟨[], c⟩]

/-- A checked part of a value, whose issues get the step that leads to it. -/
def below (step : Step) (a : Checked α) : Checked α :=
  a.mapError (·.map fun issue => { issue with place := step :: issue.place })

/-- Two checked values together, with the issues of both. -/
def pair : Checked α → Checked β → Checked (α × β)
  | .ok a, .ok b => .ok (a, b)
  | .ok _, .error issues => .error issues
  | .error issues, .ok _ => .error issues
  | .error issues, .error issues' => .error (issues ++ issues')

/-- A list of checked values together, with the issues of all. -/
def all : List (Checked α) → Checked (List α)
  | [] => .ok []
  | a :: as => (pair a (all as)).map fun (a, as) => a :: as

/-- The outcome of checking a value against a form. -/
def report (form : Text) (a : Checked α) : Except ValidationError α :=
  a.mapError fun issues => ⟨form, issues⟩

end Checked

end JsonApi
