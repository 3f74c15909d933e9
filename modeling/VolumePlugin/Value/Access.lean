/-
# Access to the parts of a value

A value from outside is used as if it had the expected shape, and the first use that does not
fit it is the failure. Each way of use has its own refusal, so the order in which parts are
looked at decides which failure is reported.
-/
import VolumePlugin.Failure

namespace VolumePlugin.Value

/-- The members of an object. Another value lacks the feature that was asked of it. -/
def membersFor (value : Value) (feature : String) :
    Except Failure (List (String × Value)) :=
  match value.members? with
  | some members => .ok members
  | none => .error (.mismatch (.lacks value.kind feature))

/-- The members of an object that are to be looked up one by one. -/
def members (value : Value) : Except Failure (List (String × Value)) :=
  value.membersFor "get"

/-- A member that has to be there. -/
def require (members : List (String × Value)) (name : String) : Except Failure Value :=
  match member? members name with
  | some value => .ok value
  | none => .error (.missingMember (.text name))

/-- A member, or another value where it is missing. -/
def memberOr (members : List (String × Value)) (name : String) (fallback : Value) : Value :=
  (member? members name).getD fallback

/-- The member of a value that should be an object. -/
def index (value : Value) (name : String) : Except Failure Value :=
  match value with
  | .object members | .settings members => require members name
  | .list _ => .error (.mismatch .listIndex)
  | .text _ => .error (.mismatch .textIndex)
  | other => .error (.mismatch (.notSubscriptable other.kind))

/-- The elements of a value: the items of a list, the code points of a text, the names of an
object's members. -/
def elements (value : Value) : Except Failure (List Value) :=
  match value with
  | .list items => .ok items
  | .text s => .ok ((Text.codes s.toList).map fun code => .text (String.ofList (Text.held code)))
  | .object members | .settings members => .ok (members.map fun (name, _) => .text name)
  | other => .error (.mismatch (.notIterable other.kind))

/-- The text that a value has to be. -/
def requireText (value : Value) : Except Failure String :=
  match value with
  | .text s => .ok s
  | other => .error (.mismatch (.notText other.kind))

end VolumePlugin.Value
