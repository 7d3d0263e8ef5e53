import LineReview.FileSystem
import Mathlib.Tactic.SplitIfs

set_option autoImplicit false

namespace LineReview.FileTree

/-- A computation with a result has one at each of its steps. -/
theorem exists_of_bind_eq_ok {First Second : Type} {first : Except FileError First}
    {next : First → Except FileError Second} {result : Second}
    (done : (first >>= next) = .ok result) :
    ∃ middle, first = .ok middle ∧ next middle = .ok result := by
  cases first with
  | error error => cases done
  | ok middle => exact ⟨middle, rfl, done⟩

theorem needFolder_eq_ok {tree : FileTree} {location : Location} {done : Unit}
    (need : tree.needFolder location = .ok done) : tree.get? location = some .folder := by
  unfold needFolder at need
  split at need
  · assumption
  · cases need
  · cases need

/-- Where a piece of a path leads from a folder. -/
theorem step_of_folder {tree : FileTree} {location : Location}
    (folder : tree.get? location = some .folder) (piece : String) :
    tree.step location piece =
      if Path.isVoid piece then .ok location
      else if piece == ".." then .ok location.tail
      else if maxName < piece.utf8ByteSize then .error .nameTooLong
      else if (tree.get? (piece :: location)).isSome then .ok (piece :: location)
      else .error .notFound := by
  have need : tree.needFolder location = .ok () := by
    rw [needFolder, folder]
  rw [step, need]
  rfl

/-- Nothing but a folder can be passed through. -/
theorem folder_of_step {tree : FileTree} {location next : Location} {piece : String}
    (led : tree.step location piece = .ok next) : tree.get? location = some .folder := by
  obtain ⟨_, need, -⟩ := exists_of_bind_eq_ok led
  exact needFolder_eq_ok need

/-- Where a piece of a path can lead from a folder: nowhere else, to the folder above, or to
something inside. -/
inductive Leads (tree : FileTree) (location : Location) (piece : String) : Location → Prop where
  | stay (void : Path.isVoid piece = true) : Leads tree location piece location
  | up (solid : Path.isVoid piece = false) (climbs : piece = "..") :
      Leads tree location piece location.tail
  | down (solid : Path.isVoid piece = false) (named : piece ≠ "..")
      (short : piece.utf8ByteSize ≤ maxName)
      (there : (tree.get? (piece :: location)).isSome = true) :
      Leads tree location piece (piece :: location)

theorem step_eq_ok_iff {tree : FileTree} {location next : Location} {piece : String} :
    tree.step location piece = .ok next ↔
      tree.get? location = some .folder ∧ tree.Leads location piece next := by
  constructor
  · intro led
    have folder := folder_of_step led
    refine ⟨folder, ?_⟩
    rw [step_of_folder folder] at led
    split_ifs at led with void climbs long there <;> cases led
    · exact .stay void
    · exact .up (by simpa using void) (by simpa using climbs)
    · exact .down (by simpa using void) (by simpa using climbs) (by omega) there
  · rintro ⟨folder, leads⟩
    rw [step_of_folder folder]
    cases leads with
    | stay void => rw [if_pos void]
    | up solid climbs => rw [if_neg (by simp [solid]), if_pos (by simp [climbs])]
    | down solid named short there =>
        have fits : ¬ maxName < piece.utf8ByteSize := by omega
        simp [solid, named, fits, there]

theorem walk_append (tree : FileTree) (location : Location) (first second : List String) :
    tree.walk location (first ++ second) = (tree.walk location first).bind fun middle =>
      tree.walk middle second :=
  List.foldlM_append

theorem walk_concat_eq_ok_iff {tree : FileTree} {location next : Location} {pieces : List String}
    {piece : String} :
    tree.walk location (pieces ++ [piece]) = .ok next ↔
      ∃ middle, tree.walk location pieces = .ok middle ∧ tree.step middle piece = .ok next := by
  have last : ∀ middle, tree.walk middle [piece] = tree.step middle piece := fun middle => by
    simp [walk]
  rw [walk_append]
  cases tree.walk location pieces with
  | error error => simp [Except.bind]
  | ok middle => simp [Except.bind, last]

/-- What was a folder before is a folder after, and what was taken before is taken after. -/
structure Persists (before after : FileTree) : Prop where
  folder : ∀ location, before.get? location = some .folder → after.get? location = some .folder
  taken : ∀ location, (before.get? location).isSome = true → (after.get? location).isSome = true

namespace Persists

variable {before after : FileTree}

theorem step_ok (persists : Persists before after) {location next : Location} {piece : String}
    (led : before.step location piece = .ok next) : after.step location piece = .ok next := by
  rw [step_eq_ok_iff] at led ⊢
  obtain ⟨folder, leads⟩ := led
  refine ⟨persists.folder location folder, ?_⟩
  cases leads with
  | stay void => exact .stay void
  | up solid climbs => exact .up solid climbs
  | down solid named short there => exact .down solid named short (persists.taken _ there)

/-- A path that leads somewhere keeps leading there. -/
theorem walk_ok (persists : Persists before after) {location next : Location} {pieces : List String}
    (led : before.walk location pieces = .ok next) : after.walk location pieces = .ok next := by
  induction pieces generalizing location with
  | nil => exact led
  | cons piece rest ih =>
      rw [walk, List.foldlM_cons] at led ⊢
      cases first : before.step location piece with
      | error error =>
          rw [first] at led
          cases led
      | ok middle =>
          rw [first] at led
          rw [persists.step_ok first]
          exact ih led

end Persists

theorem locate_eq_ok_iff {tree : FileTree} {folder location : Location} {path : String} :
    tree.locate folder path = .ok location ↔
      checkPath path = .ok () ∧ tree.walk (start folder path) (Path.pieces path) =
        .ok location := by
  constructor
  · intro led
    obtain ⟨_, sound, led⟩ := exists_of_bind_eq_ok led
    exact ⟨sound, led⟩
  · rintro ⟨sound, led⟩
    rw [locate, sound]
    exact led

section Node

variable {tree : FileTree} {folder : Location} {path : String}

theorem nodeAt?_eq_some_iff {node : Node} :
    tree.nodeAt? folder path = some node ↔
      ∃ location, tree.locate folder path = .ok location ∧ tree.get? location = some node := by
  unfold nodeAt?
  cases tree.locate folder path with
  | error error => simp
  | ok location => simp

/-- A path leads to the same from two folders if it starts at the same place, as an absolute one
does. -/
theorem nodeAt?_congr {first second : Location} (same : start first path = start second path) :
    tree.nodeAt? first path = tree.nodeAt? second path := by
  rw [nodeAt?, nodeAt?, locate, locate, same]

theorem isFile_iff :
    tree.isFile folder path = true ↔
      ∃ content, tree.nodeAt? folder path = some (.file content) := by
  unfold isFile
  cases tree.nodeAt? folder path with
  | none => simp
  | some node => cases node <;> simp

theorem read_eq_ok_iff {content : ByteArray} :
    tree.read folder path = .ok content ↔ tree.nodeAt? folder path = some (.file content) := by
  unfold read nodeAt?
  cases tree.locate folder path with
  | error error => simp [bind, Except.bind]
  | ok location =>
      cases found : tree.get? location with
      | none => simp [bind, Except.bind, found]
      | some node => cases node <;> simp [bind, Except.bind, pure, Except.pure, found]

theorem readText_of_file {content : ByteArray}
    (file : tree.nodeAt? folder path = some (.file content)) :
    tree.readText folder path = textOfBytes content := by
  rw [readText, read_eq_ok_iff.mpr file]
  rfl

theorem exists_error_of_missing (missing : tree.nodeAt? folder path = none) :
    ∃ error, tree.read folder path = .error error := by
  cases found : tree.read folder path with
  | error error => exact ⟨error, rfl⟩
  | ok content =>
      rw [read_eq_ok_iff, missing] at found
      cases found

end Node

end LineReview.FileTree
