/-
# Signatures

A signature lists the parameters of something that is called with arguments: those that have to
be given, and those that have a default. Arguments are bound to the parameters in order or by
name. Bound arguments give every parameter a value; where they do not fit, nothing is bound.
-/
import VolumePlugin.Value.Access

namespace VolumePlugin

/-- What is called, by its full name, and its parameters. -/
structure Signature where
  callee : String
  required : List String
  optional : List (String × Value) := []

/-- Values of parameters by their names. -/
abbrev Arguments := List (String × Value)

/-- The value of a parameter, null for a name that is no parameter. -/
def Arguments.value (arguments : Arguments) (parameter : String) : Value :=
  Value.memberOr arguments parameter .null

namespace Signature

/-- The name of the receiver among the parameters. -/
def receiver : String := "self"

/-- The refusal of arguments. -/
def refuse {α : Type} (signature : Signature) (fault : ArgumentFault) : Except Failure α :=
  .error (.argument signature.callee fault)

/-- All parameters in order. -/
def parameters (signature : Signature) : List String :=
  signature.required ++ signature.optional.map (·.1)

/-- The parameters that have to be given and are not. -/
def missing (signature : Signature) (given : Arguments) : List String :=
  signature.required.filter fun parameter => (given.lookup parameter).isNone

/-- Add the defaults of the parameters that were not given, unless a required one is missing. -/
def complete (signature : Signature) (given : Arguments) : Except Failure Arguments :=
  match signature.missing given with
  | [] => .ok (given ++ signature.optional)
  | parameters => signature.refuse (.missing parameters)

/-- Bind arguments that are given in the order of the parameters. -/
def bindInOrder (signature : Signature) (given : List Value) : Except Failure Arguments :=
  let most := signature.parameters.length
  if most < given.length then
    signature.refuse (.surplus (signature.required.length + 1) (most + 1) (given.length + 1))
  else signature.complete (signature.parameters.zip given)

/-- Bind arguments that are given by the names of the parameters. The first name that is no
parameter is refused. -/
def bindByName (signature : Signature) (given : Arguments) : Except Failure Arguments :=
  match given.find? fun (name, _) => !signature.parameters.contains name with
  | some (name, _) => signature.refuse (if name = receiver then .repeated name else .unknown name)
  | none => signature.complete given

/-- Without a fault every required parameter is given. -/
theorem complete_eq_ok_iff {signature : Signature} {given bound : Arguments} :
    signature.complete given = .ok bound ↔
      (∀ parameter ∈ signature.required, (given.lookup parameter).isSome) ∧
        bound = given ++ signature.optional := by
  have none_missing : (∀ parameter ∈ signature.required, (given.lookup parameter).isSome) ↔
      signature.missing given = [] := by
    simp [missing, List.filter_eq_nil_iff]
  rw [none_missing, complete]
  split
  next fits => simp only [Except.ok.injEq, fits, true_and, eq_comm]
  next faults =>
    simp only [refuse, reduceCtorEq, false_iff, not_and, eq_false faults, false_imp_iff]

example :
    ((Signature.mk "f" ["a"] [("b", .int 2)]).bindInOrder [.int 1]).toOption =
      some [("a", .int 1), ("b", .int 2)] := by
  decide +kernel
example :
    ((Signature.mk "f" ["a"] []).bindInOrder [.int 1, .int 2]).toOption = none := by
  decide +kernel

end Signature

end VolumePlugin
