/-!
Why a YAML document has no value.
-/

set_option autoImplicit false

namespace BurstLoad.Yaml

/-- How a scalar fails to read as the type that it claims. -/
inductive Misfit where
  -- it writes no number, or a date that the calendar does not have
  | number
  -- it is empty where a number is needed
  | empty
  -- it is none of the words for true and false
  | truth
  -- it has not the form of a date or a time
  | timestamp
  -- it writes a number beyond the range
  | range
  -- it is a mapping where only a scalar has the form
  | shape
  -- it is a mapping that is its own default value
  | endless
  -- it lies in too many collections
  | tooDeep
  deriving Repr, DecidableEq

inductive Failure where
  -- the text is no document, or has a tag or a key that cannot be used
  | malformed
  | misfit (m : Misfit)
  deriving Repr, DecidableEq

end BurstLoad.Yaml
