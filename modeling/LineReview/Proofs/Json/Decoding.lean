import LineReview.Json.Basic
import Mathlib.Data.List.Forall2

set_option autoImplicit false

namespace LineReview.Json

theorem mapM_eq_some_iff {Source Target : Type} {read? : Source → Option Target}
    {sources : List Source} {targets : List Target} :
    sources.mapM read? = some targets ↔
      List.Forall₂ (fun source target => read? source = some target) sources targets := by
  induction sources generalizing targets with
  | nil => cases targets <;> simp
  | cons source others ih =>
      simp only [List.mapM_cons, Option.pure_def, Option.bind_eq_bind, Option.bind_eq_some_iff,
        Option.some.injEq, ih, List.forall₂_cons_left_iff]
      constructor
      · rintro ⟨target, first, rest, later, rfl⟩
        exact ⟨target, rest, first, later, rfl⟩
      · rintro ⟨target, rest, first, later, rfl⟩
        exact ⟨target, first, rest, later, rfl⟩

/-- What the members of an object say of a name: nothing, or the value of the only member that bears
it. -/
inductive Named (members : List (String × Json)) (name : String) : Option Json → Prop where
  | absent (unnamed : ∀ member ∈ members, member.1 ≠ name) : Named members name none
  | present {before after : List (String × Json)} {value : Json}
      (split : members = before ++ (name, value) :: after)
      (once : ∀ member ∈ before ++ after, member.1 ≠ name) : Named members name (some value)

/-- A value records fields under names: an object may say anything beside them, and an array may
leave out its last ones. -/
inductive Records (names : List String) : Json → List (Option Json) → Prop where
  | object {members : List (String × Json)} {fields : List (Option Json)}
      (named : List.Forall₂ (Named members) names fields) : Records names (.object members) fields
  | array {items : List Json} {missing : Nat} (complete : items.length + missing = names.length) :
      Records names (.array items) (items.map some ++ List.replicate missing none)

/-- A field is left out or null, or it is a value that records something. -/
inductive Optionally {Target : Type} (recorded : Json → Target → Prop) :
    Option Json → Option Target → Prop where
  | missing : Optionally recorded none none
  | null : Optionally recorded (some .null) none
  | given {value : Json} {target : Target} (solid : value ≠ .null)
    (holds : recorded value target) :
      Optionally recorded (some value) (some target)

def IsText (value : Json) (text : String) : Prop :=
  value = .string text

theorem text?_eq_some_iff {value : Json} {text : String} :
    value.text? = some text ↔ value.IsText text := by
  cases value <;> simp [text?, IsText]

theorem filter_name_eq_nil_iff {members : List (String × Json)} {name : String} :
    (members.filter fun member => member.1 == name) = [] ↔
      ∀ member ∈ members, member.1 ≠ name := by
  simp [List.filter_eq_nil_iff]

theorem filter_name_eq_singleton_iff {members : List (String × Json)} {name : String}
    {member : String × Json} :
    (members.filter fun member => member.1 == name) = [member] ↔
      ∃ before after, members = before ++ member :: after ∧ member.1 = name ∧
        ∀ other ∈ before ++ after, other.1 ≠ name := by
  rw [List.filter_eq_cons_iff]
  constructor
  · rintro ⟨before, after, split, earlier, named, later⟩
    refine ⟨before, after, split, beq_iff_eq.mp named, fun other listed => ?_⟩
    rcases List.mem_append.mp listed with listed | listed
    · simpa using earlier other listed
    · exact filter_name_eq_nil_iff.mp later other listed
  · rintro ⟨before, after, split, named, once⟩
    refine ⟨before, after, split, fun other listed => ?_, beq_iff_eq.mpr named, ?_⟩
    · simpa using once other (List.mem_append_left _ listed)
    · exact filter_name_eq_nil_iff.mpr fun other listed =>
        once other (List.mem_append_right _ listed)

theorem fieldsOf?_eq_some_iff {names : List String} {members : List (String × Json)}
    {fields : List (Option Json)} :
    fieldsOf? names members = some fields ↔ List.Forall₂ (Named members) names fields := by
  rw [fieldsOf?, mapM_eq_some_iff]
  constructor
  · refine List.Forall₂.imp fun name field found => ?_
    split at found
    · rename_i unnamed
      cases found
      exact .absent (filter_name_eq_nil_iff.mp unnamed)
    · rename_i named
      cases found
      obtain ⟨before, after, split, rfl, once⟩ := filter_name_eq_singleton_iff.mp named
      exact .present split once
    · cases found
  · refine List.Forall₂.imp fun name field named => ?_
    cases named with
    | absent unnamed => rw [filter_name_eq_nil_iff.mpr unnamed]
    | present split once => rw [filter_name_eq_singleton_iff.mpr ⟨_, _, split, rfl, once⟩]

theorem record?_eq_some_iff {names : List String} {value : Json} {fields : List (Option Json)} :
    value.record? names = some fields ↔ Records names value fields := by
  constructor
  · intro found
    cases value with
    | object members => exact .object (fieldsOf?_eq_some_iff.mp found)
    | array items =>
        rw [record?] at found
        split at found
        · rename_i few
          cases found
          exact .array (Nat.add_sub_cancel' few)
        · cases found
    | _ => cases found
  · intro recorded
    cases recorded with
    | object named => exact fieldsOf?_eq_some_iff.mpr named
    | @array items missing complete =>
        have few : items.length ≤ names.length := by omega
        have left : names.length - items.length = missing := by omega
        rw [record?, if_pos few, left]

theorem optional?_eq_some_iff {Target : Type} {read? : Json → Option Target}
    {recorded : Json → Target → Prop}
    (reads : ∀ value target, read? value = some target ↔ recorded value target)
    {field : Option Json} {target : Option Target} :
    optional? read? field = some target ↔ Optionally recorded field target := by
  constructor
  · intro found
    unfold optional? at found
    split at found
    · cases found
      exact .missing
    · cases found
      exact .null
    · rename_i solid
      obtain ⟨held, reading, rfl⟩ := Option.map_eq_some_iff.mp found
      exact .given solid ((reads _ _).mp reading)
  · intro held
    cases held with
    | missing => rfl
    | null => rfl
    | given solid holds =>
        unfold optional?
        split
        · rename_i absent
          cases absent
        · rename_i null
          exact absurd (Option.some.inj null) solid
        · rename_i same
          cases same
          rw [(reads _ _).mpr holds]
          rfl

theorem list?_eq_some_iff {Target : Type} {read? : Json → Option Target}
    {recorded : Json → Target → Prop}
    (reads : ∀ value target, read? value = some target ↔ recorded value target) {value : Json}
    {targets : List Target} :
    list? read? value = some targets ↔
      ∃ items, value = .array items ∧ List.Forall₂ recorded items targets := by
  have each : (fun source target => read? source = some target) = recorded :=
    funext₂ fun source target => propext (reads source target)
  cases value with
  | array items => simp [list?, mapM_eq_some_iff, each]
  | _ => simp [list?]

end LineReview.Json
