/-
# Values

What a provider sends, what a configuration holds and what a failure reports is not known in
advance, so it is kept as a value of one dynamic type: null, a truth value, a number, a text, a
list or an object. An object is a list of members, in the order in which they were written.
The objects of a configuration are a kind of their own: reading a member that they lack gives
null, and any feature that is asked of them is taken for a member.

A value counts as empty when it is null, false, a zero, or a text, list or object without
content. Optional parts of a message are dropped or defaulted by this rule alone.
-/
import VolumePlugin.Number.Order

namespace VolumePlugin

/-- A value of unknown shape. -/
inductive Value
  | null
  | bool (b : Bool)
  | int (n : Int)
  | float (x : Binary64)
  | text (s : String)
  | list (items : List Value)
  | object (members : List (String × Value))
  | settings (members : List (String × Value))
  deriving Inhabited

namespace Value

/-- The kinds of values. -/
inductive Kind
  | null
  | bool
  | int
  | float
  | text
  | list
  | object
  | settings
  deriving DecidableEq

/-- The word for a kind in a report. -/
def Kind.name : Kind → String
  | .null => "NoneType"
  | .bool => "bool"
  | .int => "int"
  | .float => "float"
  | .text => "str"
  | .list => "list"
  | .object => "dict"
  | .settings => "DefaultMunch"

/-- The kind of a value. -/
def kind : Value → Kind
  | .null => .null
  | .bool _ => .bool
  | .int _ => .int
  | .float _ => .float
  | .text _ => .text
  | .list _ => .list
  | .object _ => .object
  | .settings _ => .settings

/-- Whether a value is not empty. -/
def truthy : Value → Bool
  | .null => false
  | .bool b => b
  | .int n => n != 0
  | .float x => !x.isZero
  | .text s => s != ""
  | .list items => !items.isEmpty
  | .object members => !members.isEmpty
  | .settings members => !members.isEmpty

/-- The value itself unless it is empty, and then the other one. -/
def orElse (value fallback : Value) : Value :=
  if value.truthy then value else fallback

/-- The number that a value is. A truth value counts as zero or one. -/
def number? : Value → Option Number
  | .bool b => some (.int (if b then 1 else 0))
  | .int n => some (.int n)
  | .float x => some (.float x)
  | _ => none

/-- The members of an object of either kind. -/
def members? : Value → Option (List (String × Value))
  | .object members => some members
  | .settings members => some members
  | _ => none

mutual

/-- A value as part of a configuration: its objects, at any depth, are settings. -/
def asSettings : Value → Value
  | .list items => .list (itemsAsSettings items)
  | .object members => .settings (membersAsSettings members)
  | .settings members => .settings (membersAsSettings members)
  | other => other

/-- The items of a list as parts of a configuration. -/
def itemsAsSettings : List Value → List Value
  | [] => []
  | item :: rest => item.asSettings :: itemsAsSettings rest

/-- The members of an object as parts of a configuration. -/
def membersAsSettings : List (String × Value) → List (String × Value)
  | [] => []
  | (name, value) :: rest => (name, value.asSettings) :: membersAsSettings rest

end

/-- The member of a name. -/
def member? (members : List (String × Value)) (name : String) : Option Value :=
  members.lookup name

/-- Set a member. One that is there already keeps its place. -/
def setMember (name : String) (value : Value) : List (String × Value) → List (String × Value)
  | [] => [(name, value)]
  | (other, old) :: rest =>
    if other = name then (name, value) :: rest else (other, old) :: setMember name value rest

/-- The value that was set is the one that is found. -/
theorem member?_setMember_self (name : String) (value : Value)
    (members : List (String × Value)) :
    member? (setMember name value members) name = some value := by
  induction members with
  | nil => simp [setMember, member?]
  | cons head rest ih =>
      obtain ⟨other, old⟩ := head
      by_cases same : other = name
      · simp [setMember, member?, same]
      · have different : (name == other) = false := by simpa using Ne.symm same
        simpa [setMember, member?, same, List.lookup_cons, different] using ih

end Value

end VolumePlugin
