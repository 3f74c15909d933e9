/-
# Values of equal content

Two values can be alike without being the same: numbers are compared by their value, whatever
kind they are of, with truth values as zero and one, and objects by their members in any order.
NaN is not alike itself, but as a part of a list or an object it is.
-/
import VolumePlugin.Value.Equality

namespace VolumePlugin.Value

/-- Whether a value is the number NaN. -/
def isNan : Value → Bool
  | .float .nan => true
  | _ => false

mutual

/-- Whether two values have equal content. -/
def alike : Value → Value → Bool
  | .null, .null => true
  | .text s, .text t => s == t
  | .list items, .list others => alikeItems items others
  | .object members, other | .settings members, other =>
    other.members?.any fun others =>
      members.length == others.length && alikeMembers members others
  | a, b =>
    match a.number?, b.number? with
    | some m, some n => m.equal n
    | _, _ => false

/-- Whether two lists have equal content. -/
def alikeItems : List Value → List Value → Bool
  | [], [] => true
  | a :: rest, b :: others => (alike a b || a.isNan && b.isNan) && alikeItems rest others
  | _, _ => false

/-- Whether members are found among others, each with equal content. -/
def alikeMembers : List (String × Value) → List (String × Value) → Bool
  | [], _ => true
  | (name, a) :: rest, others =>
    (match others.lookup name with
      | some b => alike a b || a.isNan && b.isNan
      | none => false) &&
      alikeMembers rest others

end

/-- Whole numbers are alike where they are equal. -/
theorem alike_int (m n : Int) : alike (.int m) (.int n) = decide (m = n) := by
  simp [alike, number?, Number.equal_int]

/-- Texts are alike where they are equal. -/
theorem alike_text (s t : String) : alike (.text s) (.text t) = (s == t) := by
  simp [alike]

example : alike (.bool true) (.float (.ofDecimal false 1 0)) = true := by decide +kernel
example :
    alike (.object [("a", .int 1), ("b", .null)]) (.object [("b", .null), ("a", .bool true)]) =
      true := by
  decide +kernel

end VolumePlugin.Value
