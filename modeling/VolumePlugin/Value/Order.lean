/-
# Order of values

Numbers are ordered by their value, texts by their code points, and lists by the first items that
are not alike, or by their length where one list begins with the other. Values of other kinds
have no order, and neither have values of kinds that differ.
-/
import VolumePlugin.Failure
import VolumePlugin.Value.Alike

namespace VolumePlugin

namespace Relation

/-- Whether a relation holds between two numbers. -/
def ofNumbers (relation : Relation) (m n : Number) : Bool :=
  match relation with
  | .less => m.less n
  | .atMost => m.atMost n
  | .greater => n.less m
  | .atLeast => n.atMost m

/-- Whether a relation holds between two values of a total order. -/
def ofOrdering (relation : Relation) (ordering : Ordering) : Bool :=
  match relation with
  | .less => ordering.isLT
  | .atMost => ordering.isLE
  | .greater => ordering.isGT
  | .atLeast => ordering.isGE

end Relation

namespace Value

mutual

/-- Compare two values that should have an order. -/
def compare (relation : Relation) : Value → Value → Except Failure Bool
  | .text s, .text t => .ok (relation.ofOrdering (Ord.compare s t))
  | .list items, .list others => compareItems relation items others
  | left, right =>
    match left.number?, right.number? with
    | some m, some n => .ok (relation.ofNumbers m n)
    | _, _ => .error (.mismatch (.unordered relation left.kind right.kind))

/-- Compare two lists. -/
def compareItems (relation : Relation) : List Value → List Value → Except Failure Bool
  | [], others => .ok (relation.ofOrdering (Ord.compare 0 others.length))
  | _ :: rest, [] => .ok (relation.ofOrdering (Ord.compare (rest.length + 1) 0))
  | a :: rest, b :: others =>
    if alike a b || a.isNan && b.isNan then compareItems relation rest others
    else compare relation a b

end

/-- Whole numbers can be compared. -/
theorem compare_less_int (m n : Int) : compare .less (.int m) (.int n) = .ok (decide (m < n)) := by
  simp [compare, number?, Relation.ofNumbers, Number.less_int]

/-- Whole numbers can be compared. -/
theorem compare_atMost_int (m n : Int) :
    compare .atMost (.int m) (.int n) = .ok (decide (m ≤ n)) := by
  simp [compare, number?, Relation.ofNumbers, Number.atMost_int]

/-- Whole numbers can be compared. -/
theorem compare_greater_int (m n : Int) :
    compare .greater (.int m) (.int n) = .ok (decide (n < m)) := by
  simp [compare, number?, Relation.ofNumbers, Number.less_int]

/-- Whole numbers can be compared. -/
theorem compare_atLeast_int (m n : Int) :
    compare .atLeast (.int m) (.int n) = .ok (decide (n ≤ m)) := by
  simp [compare, number?, Relation.ofNumbers, Number.atMost_int]

example :
    compare .less (.list [.int 1, .text "a"]) (.list [.bool true, .int 2]) =
      .error (.mismatch (.unordered .less .text .int)) := rfl
example : (compare .less (.text "10") (.text "9")).toOption = some true := by decide +kernel

end Value

end VolumePlugin
