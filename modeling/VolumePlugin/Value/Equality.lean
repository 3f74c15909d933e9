/-
# Equality of values

Values are compared part by part: lists item by item, and objects member by member in their
order. The comparison decides equality.
-/
import VolumePlugin.Value

namespace VolumePlugin.Value

mutual

/-- Whether two values are the same, their members being in the same order. -/
def same : Value → Value → Bool
  | .null, .null => true
  | .bool a, .bool b => a == b
  | .int m, .int n => m == n
  | .float x, .float y => x == y
  | .text s, .text t => s == t
  | .list items, .list others => sameItems items others
  | .object members, .object others => sameMembers members others
  | .settings members, .settings others => sameMembers members others
  | _, _ => false

/-- Whether two lists hold the same values. -/
def sameItems : List Value → List Value → Bool
  | [], [] => true
  | a :: rest, b :: others => same a b && sameItems rest others
  | _, _ => false

/-- Whether two objects have the same members. -/
def sameMembers : List (String × Value) → List (String × Value) → Bool
  | [], [] => true
  | (name, a) :: rest, (other, b) :: others =>
    name == other && same a b && sameMembers rest others
  | _, _ => false

end

mutual

/-- The comparison of values decides equality. -/
theorem same_iff : ∀ a b : Value, same a b = true ↔ a = b
  | .null, b => by cases b <;> simp [same]
  | .bool _, b => by cases b <;> simp [same]
  | .int _, b => by cases b <;> simp [same]
  | .float _, b => by cases b <;> simp [same]
  | .text _, b => by cases b <;> simp [same]
  | .list items, b => by cases b <;> simp [same, sameItems_iff items]
  | .object members, b => by cases b <;> simp [same, sameMembers_iff members]
  | .settings members, b => by cases b <;> simp [same, sameMembers_iff members]

/-- The comparison of lists decides equality. -/
theorem sameItems_iff : ∀ a b : List Value, sameItems a b = true ↔ a = b
  | [], b => by cases b <;> simp [sameItems]
  | a :: rest, b => by cases b <;> simp [sameItems, same_iff a, sameItems_iff rest]

/-- The comparison of objects decides equality. -/
theorem sameMembers_iff : ∀ a b : List (String × Value), sameMembers a b = true ↔ a = b
  | [], b => by cases b <;> simp [sameMembers]
  | (name, a) :: rest, b => by
    rcases b with _ | ⟨⟨other, b⟩, others⟩ <;>
      simp [sameMembers, same_iff a, sameMembers_iff rest, and_assoc]

end

instance : DecidableEq Value := fun a b => decidable_of_iff _ (same_iff a b)

end VolumePlugin.Value
