import LineReview.Json.Basic
import LineReview.Proofs.Json.Document
import Mathlib.Data.List.Nodup

set_option autoImplicit false

namespace LineReview.Json

/-- Of members with distinct names, only one has the name of a given one. -/
theorem filter_name_eq_singleton {members : List (String × Json)}
    (distinct : (members.map Prod.fst).Nodup) {field : String × Json}
    (listed : field ∈ members) :
    (members.filter fun member => member.1 == field.1) = [field] := by
  induction members with
  | nil => cases listed
  | cons first others ih =>
      rw [List.map_cons, List.nodup_cons] at distinct
      obtain ⟨fresh, distinct⟩ := distinct
      rcases List.mem_cons.mp listed with rfl | later
      · have none : (others.filter fun member => member.1 == field.1) = [] := by
          rw [List.filter_eq_nil_iff]
          intro member listed same
          exact fresh (List.mem_map.mpr ⟨member, listed, beq_iff_eq.mp same⟩)
        rw [List.filter_cons_of_pos (by simp), none]
      · have different : (first.1 == field.1) = false := by
          rw [beq_eq_false_iff_ne]
          intro same
          exact fresh (List.mem_map.mpr ⟨field, later, same.symm⟩)
        rw [List.filter_cons_of_neg (by simp [different]), ih distinct later]

/-- The fields of a record are found among its members, whatever other members there are. -/
theorem fieldsOf?_of_subset {members fields : List (String × Json)}
    (distinct : (members.map Prod.fst).Nodup) (held : fields ⊆ members) :
    fieldsOf? (fields.map Prod.fst) members = some (fields.map fun field => some field.2) := by
  induction fields with
  | nil => rfl
  | cons field others ih =>
      obtain ⟨first, rest⟩ := List.cons_subset.mp held
      have found := ih rest
      unfold fieldsOf? at found ⊢
      rw [List.map_cons, List.mapM_cons, found, filter_name_eq_singleton distinct first]
      rfl

/-- An object with distinct names is the record of its own members. -/
theorem record?_object {members : List (String × Json)} (distinct : (members.map Prod.fst).Nodup) :
    (Json.object members).record? (members.map Prod.fst) =
      some (members.map fun member => some member.2) :=
  fieldsOf?_of_subset distinct fun _ listed => listed

theorem list?_map {Item : Type} {read? : Json → Option Item} {write : Item → Json}
    {items : List Item} (back : ∀ item ∈ items, read? (write item) = some item) :
    list? read? (.array (items.map write)) = some items := by
  unfold list?
  induction items with
  | nil => rfl
  | cons item others ih =>
      have rest := ih fun other listed => back other (List.mem_cons_of_mem _ listed)
      simp only [List.map_cons, List.mapM_cons, back item List.mem_cons_self] at rest ⊢
      rw [rest]
      rfl

theorem list?_texts (values : List String) : list? text? (.texts values) = some values :=
  list?_map fun _ _ => rfl

/-- The least number that is too large for a line number. -/
def lineBound : Nat := 0x10000000000000000

theorem lineNumber?_natural {line : Nat} (bounded : line < lineBound) :
    lineNumber? (.natural line) = some line :=
  if_pos bounded

theorem areWithin_map {Item : Type} (depth : Nat) {write : Item → Json} {items : List Item}
    (each : ∀ item ∈ items, (write item).isWithin depth = true) :
    areWithin depth (items.map write) = true := by
  induction items with
  | nil => rfl
  | cons item others ih =>
      rw [List.map_cons, areWithin, Bool.and_eq_true]
      exact ⟨each item List.mem_cons_self,
        ih fun other listed => each other (List.mem_cons_of_mem _ listed)⟩

theorem isWithin_texts (depth : Nat) (values : List String) :
    (Json.texts values).isWithin (depth + 1) = true := by
  rw [texts, isWithin]
  exact areWithin_map depth fun value _ => by cases depth <;> rfl

namespace Plain

theorem array_map {Item : Type} {write : Item → Json} {items : List Item}
    (each : ∀ item ∈ items, (write item).Plain) : Plain (.array (items.map write)) := by
  refine .array fun item listed => ?_
  obtain ⟨source, member, rfl⟩ := List.mem_map.mp listed
  exact each source member

theorem texts (values : List String) : Plain (.texts values) :=
  array_map fun value _ => .string value

/-- A number of at most 64 bits is within the bounds of double precision. -/
theorem line {line : Nat} (bounded : line < lineBound) : Plain (.natural line) := by
  have wide : lineBound < Numeral.bound := by decide +kernel
  exact .natural (Nat.lt_trans bounded wide)

end Plain

end LineReview.Json
