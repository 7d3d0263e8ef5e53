import LineReview.FileSystem
import LineReview.Proofs.Text.Trim

set_option autoImplicit false

namespace LineReview.Path

/-- The name is the last component of the path: only separators and single dots follow it. -/
def IsLast (path name : String) : Prop :=
  ∃ before after, pieces path = before ++ name :: after ∧ isVoid name = false ∧
    ∀ piece ∈ after, isVoid piece = true

/-- The name has the extension: after something else, a dot and then the extension, which has no dot
in it. -/
def HasExtension (name ext : String) : Prop :=
  ∃ stem, stem ≠ "" ∧ '.' ∉ ext.toList ∧ name = stem ++ "." ++ ext

theorem isLast_iff {path name : String} :
    IsLast path name ↔ ((pieces path).filter fun piece => !isVoid piece).getLast? =
      some name := by
  rw [List.getLast?_filter, List.find?_eq_some_iff_append]
  simp only [Bool.not_not, Bool.not_eq_true']
  constructor
  · rintro ⟨before, after, split, solid, void⟩
    refine ⟨solid, after.reverse, before.reverse, ?_,
      fun piece listed => void piece (List.mem_reverse.mp listed)⟩
    rw [split, List.reverse_append, List.reverse_cons, List.append_assoc, List.singleton_append]
  · rintro ⟨solid, after, before, split, void⟩
    refine ⟨before.reverse, after.reverse, ?_, solid,
      fun piece listed => void piece (List.mem_reverse.mp listed)⟩
    rw [List.reverse_eq_append_iff.mp split, List.reverse_cons, List.append_assoc,
      List.singleton_append]

theorem IsLast.unique {path name other : String} (last : IsLast path name)
    (otherLast : IsLast path other) : name = other := by
  rw [isLast_iff] at last otherLast
  exact Option.some.inj (last.symm.trans otherLast)

theorem fileName?_eq_some_iff {path name : String} :
    fileName? path = some name ↔ IsLast path name ∧ name ≠ ".." := by
  rw [isLast_iff, fileName?]
  split
  · rename_i up
    rw [up]
    constructor
    · intro impossible
      cases impossible
    · rintro ⟨same, other⟩
      exact absurd (Option.some.inj same).symm other
  · rename_i found other
    refine ⟨fun same => ⟨same, ?_⟩, And.left⟩
    rintro rfl
    exact other same

theorem exists_last_dot {name : List Char} (listed : '.' ∈ name) :
    ∃ stem ext, '.' ∉ ext ∧ name = stem ++ '.' :: ext := by
  obtain ⟨after, before, split, plain⟩ :=
    List.eq_append_cons_of_mem (List.mem_reverse.mpr listed)
  refine ⟨before.reverse, after.reverse, fun member => plain (List.mem_reverse.mp member), ?_⟩
  rw [List.reverse_eq_append_iff.mp split, List.reverse_cons, List.append_assoc,
    List.singleton_append]

theorem suffix?_of_no_dot {name : List Char} (plain : '.' ∉ name) : suffix? name = none := by
  have backwards : '.' ∉ name.reverse := fun listed => plain (List.mem_reverse.mp listed)
  have passed : name.reverse.dropWhile (· != '.') = [] :=
    List.dropWhile_eq_nil_iff.mpr (Text.passes_of_not_mem backwards)
  rw [suffix?, passed]

theorem suffix?_split {stem ext : List Char} (plain : '.' ∉ ext) :
    suffix? (stem ++ '.' :: ext) = if stem = [] then none else some ext := by
  have backwards : (stem ++ '.' :: ext).reverse = ext.reverse ++ '.' :: stem.reverse := by
    rw [List.reverse_append, List.reverse_cons, List.append_assoc, List.singleton_append]
  have plainBackwards : '.' ∉ ext.reverse := fun listed => plain (List.mem_reverse.mp listed)
  have starts : ∀ char ∈ ('.' :: stem.reverse).head?, char = '.' := by simp
  have taken := Text.takeWhile_to_mark plainBackwards starts
  have dropped := Text.dropWhile_to_mark plainBackwards starts
  rw [← backwards] at taken dropped
  by_cases empty : stem = []
  · rw [suffix?, dropped, if_pos empty, empty, List.reverse_nil]
  · obtain ⟨last, others, filled⟩ :=
      List.exists_cons_of_ne_nil (List.reverse_ne_nil_iff.mpr empty)
    rw [suffix?, dropped, taken, filled, if_neg empty, List.reverse_reverse]

theorem suffix?_eq_some_iff {name ext : List Char} :
    suffix? name = some ext ↔ ∃ stem, stem ≠ [] ∧ '.' ∉ ext ∧ name = stem ++
      '.' :: ext := by
  constructor
  · intro found
    by_cases dotted : '.' ∈ name
    · obtain ⟨stem, behind, plain, rfl⟩ := exists_last_dot dotted
      rw [suffix?_split plain] at found
      split at found
      · cases found
      · cases found
        exact ⟨stem, ‹_›, plain, rfl⟩
    · rw [suffix?_of_no_dot dotted] at found
      cases found
  · rintro ⟨stem, filled, plain, rfl⟩
    rw [suffix?_split plain, if_neg filled]

theorem hasExtension_iff {name ext : String} :
    HasExtension name ext ↔ suffix? name.toList = some ext.toList := by
  rw [suffix?_eq_some_iff]
  constructor
  · rintro ⟨stem, filled, plain, rfl⟩
    refine ⟨stem.toList, ?_, plain, by simp⟩
    rwa [ne_eq, String.toList_eq_nil_iff]
  · rintro ⟨stem, filled, plain, split⟩
    refine ⟨String.ofList stem, ?_, plain, ?_⟩
    · rwa [ne_eq, ← String.toList_eq_nil_iff, String.toList_ofList]
    · apply String.toList_inj.mp
      simpa using split

/-- The extension of a path is that of its last component, if this is not the folder above. -/
theorem extension?_eq_some_iff {path ext : String} :
    extension? path = some ext ↔
      ∃ name, (IsLast path name ∧ name ≠ "..") ∧ HasExtension name ext := by
  simp only [hasExtension_iff, extension?, Option.bind_eq_bind, Option.bind_eq_some_iff,
    fileName?_eq_some_iff]
  refine exists_congr fun name => and_congr_right fun _ => ?_
  constructor
  · rintro ⟨chars, found, same⟩
    rw [found, ← Option.some.inj same, String.toList_ofList]
  · intro found
    exact ⟨ext.toList, found, by rw [String.ofList_toList]; rfl⟩

/-- A name has an extension exactly if a dot stands in it behind its first character. -/
theorem exists_hasExtension_iff {name : String} :
    (∃ ext, HasExtension name ext) ↔ '.' ∈ name.toList.tail := by
  constructor
  · rintro ⟨ext, stem, filled, -, rfl⟩
    obtain ⟨first, rest, split⟩ :=
      List.exists_cons_of_ne_nil (mt String.toList_eq_nil_iff.mp filled)
    simp [split]
  · intro dotted
    obtain ⟨first, rest, whole⟩ :=
      List.exists_cons_of_ne_nil (List.ne_nil_of_mem (List.mem_of_mem_tail dotted))
    rw [whole, List.tail_cons] at dotted
    obtain ⟨stem, ext, plain, split⟩ := exists_last_dot dotted
    refine ⟨String.ofList ext, hasExtension_iff.mpr ?_⟩
    rw [suffix?_eq_some_iff, String.toList_ofList]
    exact ⟨first :: stem, List.cons_ne_nil _ _, plain, by rw [whole, split, List.cons_append]⟩

/-- A name with an extension names something. -/
theorem HasExtension.solid {name ext : String} (extended : HasExtension name ext) :
    isVoid name = false := by
  obtain ⟨stem, filled, -, rfl⟩ := extended
  have long : 2 ≤ (stem ++ "." ++ ext).length := by
    have some : stem.length ≠ 0 := by simpa using filled
    have dot : ".".length = 1 := rfl
    rw [String.length_append, String.length_append, dot]
    omega
  rw [isVoid, Bool.or_eq_false_iff, beq_eq_false_iff_ne, beq_eq_false_iff_ne]
  constructor <;>
  · intro same
    rw [same] at long
    exact absurd long (by decide)

section Name

variable {name : String} (unbroken : '/' ∉ name.toList) (solid : isVoid name = false)

include unbroken solid

theorem isLast_self : IsLast name name := by
  refine ⟨[], [], ?_, solid, nofun⟩
  rw [pieces, List.splitOn_eq_singleton unbroken, List.map_singleton, String.ofList_toList,
    List.nil_append]

theorem isLast_inFolder (folder : String) : IsLast (folder ++ "/" ++ name) name := by
  refine ⟨pieces folder, [], ?_, solid, nofun⟩
  have whole : (folder ++ "/" ++ name).toList = folder.toList ++ '/' :: name.toList := by simp
  rw [pieces, whole, List.splitOn_append_cons_self, List.splitOn_eq_singleton unbroken,
    List.map_append, List.map_singleton, String.ofList_toList, pieces]

end Name

end LineReview.Path
