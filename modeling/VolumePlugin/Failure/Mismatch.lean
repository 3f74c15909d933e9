/-
# Values of the wrong shape

A value of unknown shape is used as if it had the right one. Where it has not, the mismatch
says which use failed for which kinds of values. Each use has one wording.
-/
import VolumePlugin.Value

namespace VolumePlugin

/-- The comparisons that not all values allow. -/
inductive Relation
  | less
  | atMost
  | greater
  | atLeast
  deriving DecidableEq

/-- The sign of a comparison. -/
def Relation.sign : Relation → String
  | .less => "<"
  | .atMost => "<="
  | .greater => ">"
  | .atLeast => ">="

/-- The calculations that not all values allow. -/
inductive Calculation
  | product
  | wholeQuotient
  deriving DecidableEq

/-- The sign of a calculation. -/
def Calculation.sign : Calculation → String
  | .product => "*"
  | .wholeQuotient => "//"

/-- A value that is not of the shape that it is used with. -/
inductive Mismatch
  | lacks (kind : Value.Kind) (feature : String)
  | notIterable (kind : Value.Kind)
  | notSubscriptable (kind : Value.Kind)
  | listIndex
  | textIndex
  | unordered (relation : Relation) (left right : Value.Kind)
  | noNumber (calculation : Calculation) (kind : Value.Kind)
  | notCallable (kind : Value.Kind)
  | notText (kind : Value.Kind)
  | unhashable (kind : Value.Kind)
  deriving DecidableEq

/-- The wording of a mismatch. -/
def Mismatch.message : Mismatch → String
  | .lacks kind feature => String.join ["'", kind.name, "' object has no attribute '", feature, "'"]
  | .notIterable kind => String.join ["'", kind.name, "' object is not iterable"]
  | .notSubscriptable kind => String.join ["'", kind.name, "' object is not subscriptable"]
  | .listIndex => "list indices must be integers or slices, not str"
  | .textIndex => "string indices must be integers, not 'str'"
  | .unordered relation left right =>
    String.join ["'", relation.sign, "' not supported between instances of '", left.name,
      "' and '", right.name, "'"]
  | .noNumber calculation kind =>
    String.join ["unsupported operand type(s) for ", calculation.sign, ": '", kind.name,
      "' and 'int'"]
  | .notCallable kind => String.join ["'", kind.name, "' object is not callable"]
  | .notText kind => String.join ["str expected, not ", kind.name]
  | .unhashable kind => String.join ["unhashable type: '", kind.name, "'"]

end VolumePlugin
