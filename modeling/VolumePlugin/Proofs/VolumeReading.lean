/-
# Volumes read from values

A volume is read from six members of an object, three of which have to be there. What comes of any
value is told here: which failure where there is one, and otherwise what each part of the volume is.

The other members of the object, and the order of all of them, do not matter. The parts that may be
missing have one default, so that null, an empty value and none at all are read alike, and so are
the two ways to name a region. Whether a volume is owned hangs on its description alone.
-/
import VolumePlugin.Proofs.AnswerShape
import VolumePlugin.Proofs.Members

namespace VolumePlugin

open Value

/-! ## Values that have no elements -/

namespace Value

variable {value : Value} {failure : Failure}

/-- A number or a truth value that does not count as empty. -/
def IsNonzero (value : Value) : Prop :=
  (∃ number, value.number? = some number) ∧ ¬ value.IsEmpty

/-- A value that does not count as empty has elements unless it is a number. -/
theorem elements_eq_error_iff (hgiven : ¬ value.IsEmpty) :
    value.elements = .error failure ↔
      value.IsNonzero ∧ failure = .mismatch (.notIterable value.kind) := by
  rw [IsNonzero, and_iff_left hgiven]
  cases value with
  | null => exact (hgiven .null).elim
  | _ => simp [elements, number?, eq_comm]

end Value

namespace Volume

/-! ## What a volume is read from -/

/-- The members that may be missing. -/
def optionalMembers : List String := ["description", "region", "droplet_ids"]

/-- The members that a volume is read from. -/
def memberNames : List String := requiredMembers ++ optionalMembers

/-- The first member that has to be there and is missing. -/
def firstMissing? (members : List (String × Value)) : Option String :=
  requiredMembers.find? fun name => (member? members name).isNone

/-- How the name of a region is told: by itself, or by the slug of an object, which may be
missing. -/
inductive NamesRegion : Value → Value → Prop
  | bare {region : Value} (hbare : region.members? = none) : NamesRegion region region
  | slug {region slug : Value} {fields : List (String × Value)}
      (hfields : region.members? = some fields) (hslug : member? fields "slug" = some slug) :
      NamesRegion region slug
  | unnamed {region : Value} {fields : List (String × Value)}
      (hfields : region.members? = some fields) (hslug : member? fields "slug" = none) :
      NamesRegion region (.text "")

/-- The parts of a volume are those that the members of an object give. -/
structure TakenFrom (members : List (String × Value)) (volume : Volume) : Prop where
  id : member? members "id" = some volume.id
  name : member? members "name" = some volume.name
  size : member? members "size_gigabytes" = some volume.sizeGigabytes
  description : Gives members "description" (.text "") volume.description
  region : ∃ region, Gives members "region" (.object []) region ∧ NamesRegion region volume.region
  droplets : ∃ droplets, Gives members "droplet_ids" (.list []) droplets ∧
    droplets.elements = .ok volume.dropletIds

/-- There are droplets that cannot be told one by one. -/
def HasUncountedDroplets (members : List (String × Value)) (kind : Kind) : Prop :=
  ∃ droplets, member? members "droplet_ids" = some droplets ∧ droplets.IsNonzero ∧
    droplets.kind = kind

/-- What the members of an object come to, read as a volume. -/
structure ReadFrom (members : List (String × Value)) (outcome : Except Failure Volume) : Prop where
  missing : ∀ key, outcome = .error (.missingMember key) ↔
    ∃ name, firstMissing? members = some name ∧ key = .text name
  uncounted : ∀ kind, outcome = .error (.mismatch (.notIterable kind)) ↔
    firstMissing? members = none ∧ HasUncountedDroplets members kind
  volume : ∀ volume, outcome = .ok volume ↔ TakenFrom members volume
  read : (∃ volume, outcome = .ok volume) ↔
    firstMissing? members = none ∧ ∀ kind, ¬ HasUncountedDroplets members kind

variable {value : Value} {members others : List (String × Value)} {volume : Volume}

theorem namesRegion_iff {region name : Value} :
    NamesRegion region name ↔ regionName region = name := by
  unfold regionName memberOr
  constructor
  · intro hnames
    cases hnames with
    | bare hbare => rw [hbare]
    | slug hfields hslug => rw [hfields]; simp [hslug]
    | unnamed hfields hslug => rw [hfields]; simp [hslug]
  · rintro rfl
    cases hfields : region.members? with
    | none => exact .bare hfields
    | some fields =>
        cases hslug : member? fields "slug" with
        | none => simpa [hslug] using NamesRegion.unnamed hfields hslug
        | some slug => simpa [hslug] using NamesRegion.slug hfields hslug

/-- The droplets that are read. -/
def dropletsOf (members : List (String × Value)) : Except Failure (List Value) :=
  (nonemptyOr members "droplet_ids" (.list [])).elements

/-- The droplets are read unless they are given by a number. -/
theorem dropletsOf_eq_error_iff {failure : Failure} :
    dropletsOf members = .error failure ↔
      ∃ kind, HasUncountedDroplets members kind ∧ failure = .mismatch (.notIterable kind) := by
  obtain ⟨droplets, hgives⟩ : ∃ droplets, Gives members "droplet_ids" (.list []) droplets :=
    ⟨_, gives_iff.2 rfl⟩
  rw [dropletsOf, gives_iff.1 hgives]
  constructor
  · intro hfailed
    cases hgives with
    | given hmember hvalue =>
        obtain ⟨hnonzero, rfl⟩ := (elements_eq_error_iff hvalue).1 hfailed
        exact ⟨_, ⟨droplets, hmember, hnonzero, rfl⟩, rfl⟩
    | empty | missing => cases hfailed
  · rintro ⟨kind, ⟨given, hmember, hnonzero, rfl⟩, rfl⟩
    obtain rfl : given = droplets := by
      rw [← gives_iff.1 hgives, gives_iff.1 (.given hmember hnonzero.2)]
    exact (elements_eq_error_iff hnonzero.2).2 ⟨hnonzero, rfl⟩

section Reading

variable (hmembers : value.members? = some members)
include hmembers

/-- The parts of a volume in the order in which they are read. -/
theorem ofValue_eq :
    ofValue value = do
      let id ← require members "id"
      let name ← require members "name"
      let size ← require members "size_gigabytes"
      let droplets ← dropletsOf members
      return {
        id := id
        name := name
        sizeGigabytes := size
        description := nonemptyOr members "description" (.text "")
        region := regionName (nonemptyOr members "region" (.object []))
        dropletIds := droplets } := by
  unfold ofValue
  rw [members_eq_ok_iff.2 hmembers]
  rfl

/-- A volume fails by the first member that is missing, and if none is by its droplets. -/
theorem ofValue_eq_error_iff {failure : Failure} :
    ofValue value = .error failure ↔
      (∃ name, firstMissing? members = some name ∧ failure = .missingMember (.text name)) ∨
        firstMissing? members = none ∧ dropletsOf members = .error failure := by
  rw [ofValue_eq hmembers]
  cases hid : member? members "id" with
  | none => simp [require, hid, firstMissing?, requiredMembers, eq_comm]
  | some id =>
      cases hname : member? members "name" with
      | none => simp [require, hid, hname, firstMissing?, requiredMembers, eq_comm]
      | some name =>
          cases hsize : member? members "size_gigabytes" with
          | none => simp [require, hid, hname, hsize, firstMissing?, requiredMembers, eq_comm]
          | some size =>
              have hcomplete : firstMissing? members = none := by
                simp [firstMissing?, requiredMembers, hid, hname, hsize]
              simp only [require, hid, hname, hsize, ok_bind, hcomplete, reduceCtorEq, false_and,
                exists_false, false_or, true_and]
              rw [bind_eq_error]
              refine or_iff_left ?_
              rintro ⟨droplets, -, himpossible⟩
              cases himpossible

/-- A volume that is read is taken from the members, part by part. -/
theorem ofValue_eq_ok_iff : ofValue value = .ok volume ↔ TakenFrom members volume := by
  rw [ofValue_eq hmembers]
  simp only [bind_eq_ok, require_eq_ok_iff]
  constructor
  · rintro ⟨id, hid, name, hname, size, hsize, droplets, hdroplets, hvolume⟩
    cases hvolume
    exact ⟨hid, hname, hsize, gives_iff.2 rfl, ⟨_, gives_iff.2 rfl, namesRegion_iff.2 rfl⟩,
      ⟨_, gives_iff.2 rfl, hdroplets⟩⟩
  · rintro ⟨hid, hname, hsize, hdescription, ⟨region, hregion, hnamed⟩, ⟨given, hgiven, hdroplets⟩⟩
    refine ⟨_, hid, _, hname, _, hsize, volume.dropletIds, ?_, ?_⟩
    · rw [dropletsOf, gives_iff.1 hgiven, hdroplets]
    · rw [gives_iff.1 hdescription, gives_iff.1 hregion, namesRegion_iff.1 hnamed]
      rfl

/-- What is read is read from the members. -/
theorem readFrom_ofValue : ReadFrom members (ofValue value) where
  missing key := by
    rw [ofValue_eq_error_iff hmembers, dropletsOf_eq_error_iff]
    simp
  uncounted kind := by
    rw [ofValue_eq_error_iff hmembers, dropletsOf_eq_error_iff]
    simp
  volume _ := ofValue_eq_ok_iff hmembers
  read := by
    have hread : (∃ volume, ofValue value = .ok volume) ↔
        ∀ failure, ofValue value ≠ .error failure := by
      cases ofValue value <;> simp
    rw [hread]
    simp only [ne_eq, ofValue_eq_error_iff hmembers, dropletsOf_eq_error_iff]
    cases firstMissing? members with
    | none =>
        simp only [reduceCtorEq, false_and, exists_false, false_or, true_and, not_exists, not_and]
        exact ⟨fun hnever kind huncounted => hnever _ kind huncounted rfl,
          fun hcounted _ kind huncounted => (hcounted kind huncounted).elim⟩
    | some name => simp

/-- The volume is owned where the description is given, and to the letter. -/
theorem isOwned_of_ofValue (hvolume : ofValue value = .ok volume) :
    volume.isOwned = true ↔ member? members "description" = some (.text ownershipTag) := by
  have htag : ¬ (Value.text ownershipTag).IsEmpty := truthy_iff.1 (by decide)
  have hother : Value.text ownershipTag ≠ .text "" := by decide
  have hgives := ((ofValue_eq_ok_iff hmembers).1 hvolume).description
  rw [isOwned_iff, ← gives_iff_of_ne htag hother, gives_iff, ← gives_iff.1 hgives]

/-- Listed droplets are kept one by one. -/
theorem dropletIds_of_ofValue (hvolume : ofValue value = .ok volume) {items : List Value}
    (hdroplets : member? members "droplet_ids" = some (.list items)) :
    volume.dropletIds = items := by
  obtain ⟨given, hgives, helements⟩ := ((ofValue_eq_ok_iff hmembers).1 hvolume).droplets
  cases hgives with
  | given hmember =>
      rw [hdroplets] at hmember
      cases hmember
      exact (Except.ok.inj helements).symm
  | empty hmember hempty =>
      rw [hdroplets] at hmember
      cases hmember
      cases hempty
      exact (Except.ok.inj helements).symm
  | missing hmember =>
      rw [hdroplets] at hmember
      cases hmember

end Reading

/-! ## What does not matter -/

/-- The name of the region that is read. -/
def regionOf (members : List (String × Value)) : Value :=
  regionName (nonemptyOr members "region" (.object []))

section Alike

variable (hmembers : value.members? = some members)
include hmembers

/-- Members that give the same parts are read alike. -/
theorem ofValue_congr
    (hrequired : ∀ name ∈ requiredMembers, member? others name = member? members name)
    (hdescription : nonemptyOr others "description" (.text "") =
      nonemptyOr members "description" (.text ""))
    (hregion : regionOf others = regionOf members)
    (hdroplets : nonemptyOr others "droplet_ids" (.list []) =
      nonemptyOr members "droplet_ids" (.list [])) :
    ofValue (.object others) = ofValue value := by
  have hobject : (Value.object others).members? = some others := rfl
  have hsame (name : String) (hname : name ∈ requiredMembers) :
      require others name = require members name := by
    rw [require, require, hrequired name hname]
  unfold regionOf at hregion
  rw [ofValue_eq hobject, ofValue_eq hmembers, hsame "id" (by decide), hsame "name" (by decide),
    hsame "size_gigabytes" (by decide), hdescription, hregion, dropletsOf, dropletsOf, hdroplets]

/-- Members whose optional ones give the same in any case are read alike. -/
theorem ofValue_congr_of_nonemptyOr
    (hrequired : ∀ name ∈ requiredMembers, member? others name = member? members name)
    (hoptional : ∀ name ∈ optionalMembers, ∀ fallback,
      nonemptyOr others name fallback = nonemptyOr members name fallback) :
    ofValue (.object others) = ofValue value := by
  apply ofValue_congr hmembers hrequired
  · exact hoptional _ (by decide) _
  · rw [regionOf, regionOf, hoptional _ (by decide) _]
  · exact hoptional _ (by decide) _

/-- Only the members matter that a volume is read from. -/
theorem ofValue_congr_of_member?
    (hsame : ∀ name ∈ memberNames, member? others name = member? members name) :
    ofValue (.object others) = ofValue value := by
  apply ofValue_congr_of_nonemptyOr hmembers
  · exact fun name hname => hsame name (List.mem_append_left _ hname)
  · exact fun name hname => nonemptyOr_congr (hsame name (List.mem_append_right _ hname))

end Alike

/-- An optional member that is empty is read as one that is missing. -/
theorem ofValue_setMember_of_isEmpty {name : String} (hname : name ∈ optionalMembers)
    {empty : Value} (hempty : empty.IsEmpty) (members : List (String × Value)) :
    ofValue (.object (setMember name empty members)) =
      ofValue (.object (dropMember name members)) := by
  have hdisjoint : ∀ other ∈ requiredMembers, other ∉ optionalMembers := by decide
  apply ofValue_congr_of_nonemptyOr rfl
  · intro other hother
    have hdiffer : other ≠ name := by
      rintro rfl
      exact hdisjoint other hother hname
    rw [member?_setMember_of_ne hdiffer, member?_dropMember_of_ne hdiffer]
  · exact fun other _ fallback => nonemptyOr_setMember_of_isEmpty hempty name other members fallback

/-- A region is read by its slug as by its bare name. -/
theorem ofValue_setMember_region {fields : List (String × Value)} {slug : String}
    (hslug : member? fields "slug" = some (.text slug)) (hgiven : slug ≠ "")
    (members : List (String × Value)) :
    ofValue (.object (setMember "region" (.object fields) members)) =
      ofValue (.object (setMember "region" (.text slug) members)) := by
  have hother (name : String) (hname : name ≠ "region") :
      member? (setMember "region" (.object fields) members) name =
        member? (setMember "region" (.text slug) members) name := by
    rw [member?_setMember_of_ne hname, member?_setMember_of_ne hname]
  have hregion (region : Value) (hregion : ¬ region.IsEmpty) :
      regionOf (setMember "region" region members) = regionName region := by
    rw [regionOf, gives_iff.1 (.given (member?_setMember_self _ _ _) hregion)]
  have hfields : ¬ (Value.object fields).IsEmpty := by
    rintro ⟨⟩
    cases hslug
  have htext : ¬ (Value.text slug).IsEmpty := by
    rintro ⟨⟩
    exact hgiven rfl
  apply ofValue_congr rfl
  · intro name hname
    apply hother
    rintro rfl
    exact absurd hname (by decide)
  · exact nonemptyOr_congr (hother _ (by decide)) _
  · rw [hregion _ hfields, hregion _ htext, namesRegion_iff.1 (.slug rfl hslug),
      namesRegion_iff.1 (.bare rfl)]
  · exact nonemptyOr_congr (hother _ (by decide)) _

/-- What comes of any value that is read as a volume. Another value than an object has no members;
an object fails by the first member that it has to have and has not, then by droplets that are a
number, and is otherwise the volume that its members give. The volume is owned just where its
description is the tag, and listed droplets are kept. Nothing changes with members that a volume is
not read from, or with the order of the members; an optional member that is null or empty is as good
as none, and a region may be named by a slug or by itself. -/
theorem volume_read_by_members (value : Value) :
    (value.members? = none →
      ofValue value = .error (.mismatch (.lacks value.kind "get"))) ∧
    ∀ members, value.members? = some members →
      ReadFrom members (ofValue value) ∧
      (∀ volume, ofValue value = .ok volume →
        (volume.isOwned = true ↔ member? members "description" = some (.text ownershipTag)) ∧
        ∀ items, member? members "droplet_ids" = some (.list items) →
          volume.dropletIds = items) ∧
      (∀ others, (∀ name ∈ memberNames, member? others name = member? members name) →
        ofValue (.object others) = ofValue value) ∧
      (∀ name ∉ memberNames,
        (∀ added, ofValue (.object (setMember name added members)) = ofValue value) ∧
        ofValue (.object (dropMember name members)) = ofValue value) ∧
      (∀ others, members.Perm others → (members.map Prod.fst).Nodup →
        ofValue (.object others) = ofValue value) ∧
      (∀ name ∈ optionalMembers, ∀ empty : Value, empty.IsEmpty →
        ofValue (.object (setMember name empty members)) =
          ofValue (.object (dropMember name members))) ∧
      ∀ fields slug, member? fields "slug" = some (.text slug) → slug ≠ "" →
        ofValue (.object (setMember "region" (.object fields) members)) =
          ofValue (.object (setMember "region" (.text slug) members)) := by
  constructor
  · intro hnone
    unfold ofValue Value.members membersFor
    rw [hnone]
    rfl
  · intro members hmembers
    refine ⟨readFrom_ofValue hmembers, fun volume hvolume => ⟨isOwned_of_ofValue hmembers hvolume,
      fun items => dropletIds_of_ofValue hmembers hvolume⟩,
      fun others => ofValue_congr_of_member? hmembers, ?_, ?_, ?_, ?_⟩
    · intro name hname
      have hdiffer (other : String) (hother : other ∈ memberNames) : other ≠ name := by
        rintro rfl
        exact hname hother
      constructor
      · exact fun added => ofValue_congr_of_member? hmembers fun other hother =>
          member?_setMember_of_ne (hdiffer other hother) added members
      · exact ofValue_congr_of_member? hmembers fun other hother =>
          member?_dropMember_of_ne (hdiffer other hother) members
    · exact fun others hperm hnames => ofValue_congr_of_member? hmembers fun name _ =>
        member?_of_perm hperm hnames name
    · exact fun name hname empty hempty => ofValue_setMember_of_isEmpty hname hempty members
    · exact fun fields slug hslug hgiven => ofValue_setMember_region hslug hgiven members

/-- The members of an owned volume, one of which is not read. -/
def ownedMembers : List (String × Value) :=
  [("size_gigabytes", .int 16), ("name", .text "data"), ("tags", .list []), ("id", .text "v"),
   ("description", .text ownershipTag), ("region", .object [("slug", .text "nyc3")]),
   ("droplet_ids", .list [.int 7])]

/-- The volume is read with its droplet, also from the end and without the member that is not read;
with a region that is null as without one, and with the bare name of the region as with the slug.
Null is no object; without a size the volume fails by it, though the droplets are a number, and with
a size by these. -/
theorem owned_volume_read :
    (∃ volume, ofValue (.object ownedMembers) = .ok volume ∧ volume.isOwned = true ∧
      volume.dropletIds = [.int 7]) ∧
    ofValue (.object ownedMembers.reverse) = ofValue (.object ownedMembers) ∧
    ofValue (.object (dropMember "tags" ownedMembers)) = ofValue (.object ownedMembers) ∧
    ofValue (.object (setMember "region" .null ownedMembers)) =
      ofValue (.object (dropMember "region" ownedMembers)) ∧
    ofValue (.object (setMember "region" (.object [("slug", .text "nyc3")]) ownedMembers)) =
      ofValue (.object (setMember "region" (.text "nyc3") ownedMembers)) ∧
    ofValue .null = .error (.mismatch (.lacks .null "get")) ∧
    ofValue (.object (setMember "droplet_ids" (.int 7)
      (dropMember "size_gigabytes" ownedMembers))) =
        .error (.missingMember (.text "size_gigabytes")) ∧
    ofValue (.object (setMember "droplet_ids" (.int 7) ownedMembers)) =
      .error (.mismatch (.notIterable .int)) := by
  obtain ⟨hread, hparts, -, hunread, hordered, hoptional, hslug⟩ :=
    (volume_read_by_members (.object ownedMembers)).2 ownedMembers rfl
  obtain ⟨hsizeless, -⟩ := (volume_read_by_members
    (.object (setMember "droplet_ids" (.int 7) (dropMember "size_gigabytes" ownedMembers)))).2 _ rfl
  obtain ⟨huncounted, -⟩ :=
    (volume_read_by_members (.object (setMember "droplet_ids" (.int 7) ownedMembers))).2 _ rfl
  obtain ⟨volume, hvolume⟩ := hread.read.2 ⟨by decide, by
    rintro kind ⟨droplets, hdroplets, ⟨⟨number, hnumber⟩, -⟩, -⟩
    cases hdroplets
    cases hnumber⟩
  refine ⟨⟨volume, hvolume, (hparts volume hvolume).1.2 rfl, (hparts volume hvolume).2 _ rfl⟩,
    hordered _ (List.reverse_perm _).symm (by decide), (hunread "tags" (by decide)).2,
    hoptional "region" (by decide) .null .null,
    hslug [("slug", .text "nyc3")] "nyc3" rfl (by decide),
    (volume_read_by_members .null).1 rfl, ?_, ?_⟩
  · exact (hsizeless.missing _).2 ⟨_, by decide, rfl⟩
  · exact (huncounted.uncounted _).2
      ⟨by decide, .int 7, rfl, ⟨⟨_, rfl⟩, truthy_iff.1 rfl⟩, rfl⟩

end Volume

end VolumePlugin
