/-
# Members of objects

An object answers for a member by its name alone: where the member stands among the others, and
which others there are, makes no difference as long as no name stands twice. A member that may be
missing counts as missing where its value is null or empty, so that there is one fallback for all
three.
-/
import VolumePlugin.Value.Access

namespace VolumePlugin.Value

/-! ## Empty values -/

/-- A value that counts as empty: null, false, a zero of any sign, or a text, list or object without
content. -/
inductive IsEmpty : Value → Prop
  | null : IsEmpty .null
  | no : IsEmpty (.bool false)
  | zero : IsEmpty (.int 0)
  | floatZero (negative : Bool) (exponent : Int) : IsEmpty (.float (.finite negative 0 exponent))
  | text : IsEmpty (.text "")
  | list : IsEmpty (.list [])
  | object : IsEmpty (.object [])
  | settings : IsEmpty (.settings [])

/-- These are the values that do not count where a value is asked for. -/
theorem truthy_eq_false_iff {value : Value} : value.truthy = false ↔ value.IsEmpty := by
  constructor
  · intro hempty
    cases value with
    | null => exact .null
    | bool b =>
        obtain rfl : b = false := hempty
        exact .no
    | int n =>
        obtain rfl : n = 0 := by simpa [truthy] using hempty
        exact .zero
    | float x =>
        cases x with
        | nan | infinite => cases hempty
        | finite negative mantissa exponent =>
            obtain rfl : mantissa = 0 := by simpa [truthy, Binary64.isZero] using hempty
            exact .floatZero negative exponent
    | text s =>
        obtain rfl : s = "" := by simpa [truthy] using hempty
        exact .text
    | list items =>
        obtain rfl : items = [] := by simpa [truthy] using hempty
        exact .list
    | object members =>
        obtain rfl : members = [] := by simpa [truthy] using hempty
        exact .object
    | settings members =>
        obtain rfl : members = [] := by simpa [truthy] using hempty
        exact .settings
  · rintro (_ | _) <;> rfl

theorem truthy_iff {value : Value} : value.truthy = true ↔ ¬ value.IsEmpty := by
  rw [← truthy_eq_false_iff, Bool.not_eq_false]

/-! ## Optional members -/

section Members

variable {members others : List (String × Value)} {name other : String} {value fallback : Value}

/-- What an object gives for a member that may be missing or empty. -/
inductive Gives (members : List (String × Value)) (name : String) (fallback : Value) :
    Value → Prop
  | given {value : Value} (hmember : member? members name = some value) (hvalue : ¬ value.IsEmpty) :
      Gives members name fallback value
  | empty {value : Value} (hmember : member? members name = some value) (hvalue : value.IsEmpty) :
      Gives members name fallback fallback
  | missing (hmember : member? members name = none) : Gives members name fallback fallback

/-- A member, or another value where it is missing or empty. -/
def nonemptyOr (members : List (String × Value)) (name : String) (fallback : Value) : Value :=
  (memberOr members name .null).orElse fallback

theorem gives_iff :
    Gives members name fallback value ↔ nonemptyOr members name fallback = value := by
  unfold nonemptyOr memberOr orElse
  constructor
  · intro hgives
    cases hgives with
    | given hmember hvalue => rw [hmember, Option.getD_some, if_pos (truthy_iff.2 hvalue)]
    | empty hmember hvalue =>
        rw [hmember, Option.getD_some, truthy_eq_false_iff.2 hvalue]
        rfl
    | missing hmember => rw [hmember]; rfl
  · rintro rfl
    cases hmember : member? members name with
    | none => exact .missing hmember
    | some value =>
        rw [Option.getD_some]
        split
        · exact .given hmember (truthy_iff.1 ‹_›)
        · exact .empty hmember (truthy_eq_false_iff.1 (Bool.eq_false_iff.2 ‹_›))

/-- What is not empty and not the fallback is given just by a member. -/
theorem gives_iff_of_ne (hvalue : ¬ value.IsEmpty) (hother : value ≠ fallback) :
    Gives members name fallback value ↔ member? members name = some value := by
  constructor
  · intro hgives
    cases hgives with
    | given hmember => exact hmember
    | empty | missing => exact (hother rfl).elim
  · exact fun hmember => .given hmember hvalue

theorem nonemptyOr_of_isEmpty (hmember : member? members name = some value)
    (hvalue : value.IsEmpty) : nonemptyOr members name fallback = fallback :=
  gives_iff.1 (.empty hmember hvalue)

theorem nonemptyOr_of_none (hmember : member? members name = none) :
    nonemptyOr members name fallback = fallback :=
  gives_iff.1 (.missing hmember)

theorem nonemptyOr_congr (hsame : member? others name = member? members name) (fallback : Value) :
    nonemptyOr others name fallback = nonemptyOr members name fallback := by
  rw [nonemptyOr, nonemptyOr, memberOr, memberOr, hsame]

/-! ## Adding, removing and reordering -/

/-- Take a member away. -/
def dropMember (name : String) (members : List (String × Value)) : List (String × Value) :=
  members.filter (·.1 ≠ name)

/-- Setting a member leaves the others as they are. -/
theorem member?_setMember_of_ne (hother : other ≠ name) (value : Value)
    (members : List (String × Value)) :
    member? (setMember name value members) other = member? members other := by
  have hdiffer : (other == name) = false := beq_false_of_ne hother
  unfold member?
  induction members with
  | nil => rw [setMember, List.lookup_cons, hdiffer]
  | cons head rest ih =>
      obtain ⟨first, old⟩ := head
      rw [setMember]
      split
      · rename_i hfirst
        rw [List.lookup_cons, List.lookup_cons, hfirst, hdiffer]
      · rw [List.lookup_cons, List.lookup_cons, ih]

/-- A member that was taken away is missing. -/
theorem member?_dropMember_self (name : String) (members : List (String × Value)) :
    member? (dropMember name members) name = none := by
  rw [member?, List.lookup_eq_none_iff]
  intro member hmember
  have hkept := (List.mem_filter.1 hmember).2
  exact bne_iff_ne.2 (of_decide_eq_true hkept).symm

/-- Taking a member away leaves the others as they are. -/
theorem member?_dropMember_of_ne (hother : other ≠ name) (members : List (String × Value)) :
    member? (dropMember name members) other = member? members other := by
  have hdiffer : (other == name) = false := beq_false_of_ne hother
  unfold member? dropMember
  induction members with
  | nil => rfl
  | cons head rest ih =>
      obtain ⟨first, value⟩ := head
      by_cases hfirst : first = name
      · rw [List.filter_cons_of_neg (by simpa using hfirst), ih, List.lookup_cons, hfirst, hdiffer]
      · rw [List.filter_cons_of_pos (by simpa using hfirst), List.lookup_cons, List.lookup_cons, ih]

/-- An empty member is as good as none. -/
theorem nonemptyOr_setMember_of_isEmpty (hvalue : value.IsEmpty) (name other : String)
    (members : List (String × Value)) (fallback : Value) :
    nonemptyOr (setMember name value members) other fallback =
      nonemptyOr (dropMember name members) other fallback := by
  by_cases hother : other = name
  · rw [hother, nonemptyOr_of_isEmpty (member?_setMember_self name value members) hvalue,
      nonemptyOr_of_none (member?_dropMember_self name members)]
  · apply nonemptyOr_congr
    rw [member?_setMember_of_ne hother, member?_dropMember_of_ne hother]

/-- Where no name stands twice, the member of a name is the only one with it. -/
theorem member?_eq_some_iff_mem (hnames : (members.map Prod.fst).Nodup) :
    member? members name = some value ↔ (name, value) ∈ members := by
  unfold member?
  induction members with
  | nil => simp
  | cons head rest ih =>
      obtain ⟨first, found⟩ := head
      obtain ⟨hfirst, hrest⟩ := List.nodup_cons.1 hnames
      rw [List.lookup_cons, List.mem_cons, Prod.mk.injEq]
      by_cases hsame : name = first
      · subst hsame
        have hnone : (name, value) ∉ rest := fun hmember =>
          hfirst (List.mem_map.2 ⟨_, hmember, rfl⟩)
        simp [hnone, eq_comm]
      · rw [beq_false_of_ne hsame, ih hrest]
        simp [hsame]

/-- Where no name stands twice, the order of members does not matter. -/
theorem member?_of_perm (hperm : members.Perm others) (hnames : (members.map Prod.fst).Nodup)
    (name : String) : member? others name = member? members name := by
  have hothers : (others.map Prod.fst).Nodup := (hperm.map Prod.fst).nodup_iff.1 hnames
  apply Option.ext
  intro value
  rw [member?_eq_some_iff_mem hothers, member?_eq_some_iff_mem hnames, hperm.mem_iff]

end Members

end VolumePlugin.Value
