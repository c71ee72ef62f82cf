/-!
# Paging.Issue — what is wrong with values that were to be validated

An issue says what is wrong and where; each kind has a code and a sentence.
-/

namespace Paging

/-- A step on the way to the value at fault. -/
inductive Segment
  | field (name : String)
  | index (i : Nat)
  deriving DecidableEq

/-- The kinds of complaint about a value. -/
inductive Complaint
  /-- Not one of the strategies. -/
  | notAStrategy
  /-- No field of that name exists. -/
  | unknownField
  /-- The default page size exceeds the largest one. -/
  | sizesOutOfOrder
  /-- An integer below one. -/
  | belowOne
  /-- A number with digits after the point. -/
  | fractional
  /-- A text that is not an integer. -/
  | unreadable
  /-- An integer too long to be read. -/
  | tooLong
  /-- Neither a number nor a text. -/
  | notAnInteger
  | notAText
  | notAnObject
  /-- An assignment to a value that does not change. -/
  | frozen
  deriving DecidableEq

namespace Complaint

/-- The code of a complaint. -/
def code : Complaint → String
  | notAStrategy => "enum"
  | unknownField => "extra_forbidden"
  | sizesOutOfOrder => "value_error"
  | belowOne => "greater_than_equal"
  | fractional => "int_from_float"
  | unreadable => "int_parsing"
  | tooLong => "int_parsing_size"
  | notAnInteger => "int_type"
  | notAText => "string_type"
  | notAnObject => "dict_type"
  | frozen => "frozen_instance"

/-- The sentence of a complaint. -/
def message : Complaint → String
  | notAStrategy => "Input should be 'fail', 'return_last_page' or 'return_empty_page'"
  | unknownField => "Extra inputs are not permitted"
  | sizesOutOfOrder => "Value error, default_page_size must be <= max_page_size"
  | belowOne => "Input should be greater than or equal to 1"
  | fractional => "Input should be a valid integer, got a number with a fractional part"
  | unreadable => "Input should be a valid integer, unable to parse string as an integer"
  | tooLong => "Unable to parse input string as an integer, exceeded maximum size"
  | notAnInteger => "Input should be a valid integer"
  | notAText => "Input should be a valid string"
  | notAnObject => "Input should be a valid dictionary"
  | frozen => "Instance is frozen"

end Complaint

/-- A complaint and the place of the value it is about. -/
structure Issue where
  complaint : Complaint
  place : List Segment
  deriving DecidableEq

end Paging
