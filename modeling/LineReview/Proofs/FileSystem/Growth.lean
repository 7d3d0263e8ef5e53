import LineReview.Proofs.FileSystem.Walk
import Mathlib.Data.List.Induction

set_option autoImplicit false

/-! Growing file trees. Making folders adds folders where there was nothing and changes nothing
else. A path that leads somewhere keeps leading there, and a path that leads to something old in the
grown tree led there before, unless it climbs out of a folder that has only just been made. -/

namespace LineReview.FileTree

/-- The tree after holds all that the tree before holds, and folders besides. -/
structure Grown (before after : FileTree) : Prop where
  kept : ∀ location node, before.get? location = some node → after.get? location = some node
  added : ∀ location node, after.get? location = some node →
    before.get? location = some node ∨ node = .folder

theorem Grown.refl (tree : FileTree) : Grown tree tree where
  kept := fun _ _ found => found
  added := fun _ _ found => Or.inl found

theorem Grown.trans {first second third : FileTree} (early : Grown first second)
    (late : Grown second third) : Grown first third where
  kept := fun location node found => late.kept location node (early.kept location node found)
  added := by
    intro location node found
    rcases late.added location node found with second | folder
    · exact early.added location node second
    · exact Or.inr folder

/-- A file of the grown tree was there before. -/
theorem Grown.file {before after : FileTree} (grown : Grown before after) {location : Location}
    {content : ByteArray} (found : after.get? location = some (.file content)) :
    before.get? location = some (.file content) := by
  rcases grown.added location _ found with old | folder
  · exact old
  · cases folder

namespace Grown

variable {before after : FileTree}

theorem persists (grown : Grown before after) : Persists before after where
  folder := fun location found => grown.kept location _ found
  taken := by
    intro location taken
    obtain ⟨node, found⟩ := Option.isSome_iff_exists.mp taken
    rw [grown.kept location node found]
    rfl

/-- What is in the way in a tree stays in the way when the tree grows; only what is missing may be
made. -/
theorem step_error (grown : Grown before after) {location : Location} {piece : String}
    {error : FileError} (failed : before.step location piece = .error error)
    (present : error ≠ .notFound) :
    after.step location piece = .error error := by
  cases found : before.get? location with
  | none =>
      rw [step, needFolder, found] at failed
      cases failed
      exact absurd rfl present
  | some node =>
      have old := grown.kept location node found
      cases node with
      | file content =>
          rw [step, needFolder, found] at failed
          rw [step, needFolder, old, ← failed]
          rfl
      | folder =>
          rw [step_of_folder found] at failed
          rw [step_of_folder old]
          split_ifs at failed ⊢ <;> cases failed
          · rfl
          · exact absurd rfl present
          · exact absurd rfl present

theorem walk_error (grown : Grown before after) {location : Location} {pieces : List String}
    {error : FileError} (failed : before.walk location pieces = .error error)
    (present : error ≠ .notFound) :
    after.walk location pieces = .error error := by
  induction pieces generalizing location with
  | nil => cases failed
  | cons piece rest ih =>
      rw [walk, List.foldlM_cons] at failed ⊢
      cases first : before.step location piece with
      | error reason =>
          rw [first] at failed
          cases failed
          rw [grown.step_error first present]
          rfl
      | ok middle =>
          rw [first] at failed
          rw [grown.persists.step_ok first]
          exact ih failed

/-- A walk that the grown tree allows leads to the same place before, unless something was missing
on the way. -/
theorem walk_ok_of_ne_notFound (grown : Grown before after) {location next : Location}
    {pieces : List String} (led : after.walk location pieces = .ok next)
    (whole : before.walk location pieces ≠ .error .notFound) :
    before.walk location pieces = .ok next := by
  cases earlier : before.walk location pieces with
  | ok other =>
      have same := grown.persists.walk_ok earlier
      rw [led] at same
      cases same
      rfl
  | error error =>
      have present : error ≠ .notFound := by
        rintro rfl
        exact whole earlier
      have failed := grown.walk_error earlier present
      rw [led] at failed
      cases failed

/-- A walk in the grown tree that ends at something old was possible before, if no `..` on it climbs
out of a folder that was missing. -/
theorem walk_ok_of_old (grown : Grown before after) {location next : Location}
    {pieces : List String} (led : after.walk location pieces = .ok next)
    (old : (before.get? next).isSome = true)
    (whole : ∀ up down, pieces = up ++ ".." :: down →
      before.walk location (up ++ [".."]) ≠ .error .notFound) :
    before.walk location pieces = .ok next := by
  -- From the last piece back: an old place lies in an old folder, so that only a climb can come
  -- from a new one.
  induction pieces using List.reverseRecOn generalizing next with
  | nil => exact led
  | append_singleton pieces piece ih =>
      have shorter : ∀ up down, pieces = up ++ ".." :: down →
          before.walk location (up ++ [".."]) ≠ .error .notFound := by
        rintro up down rfl
        exact whole up (down ++ [piece]) (by simp)
      have climbing := led
      rw [walk_concat_eq_ok_iff] at led ⊢
      obtain ⟨middle, led, last⟩ := led
      obtain ⟨folder, leads⟩ := step_eq_ok_iff.mp last
      cases leads with
      | stay void =>
          obtain ⟨node, found⟩ := Option.isSome_iff_exists.mp old
          have same := grown.kept next node found
          rw [folder, ← found] at same
          exact ⟨next, ih led old shorter, step_eq_ok_iff.mpr ⟨same.symm, .stay void⟩⟩
      | up solid climbs =>
          subst climbs
          exact walk_concat_eq_ok_iff.mp
            (grown.walk_ok_of_ne_notFound climbing (whole pieces [] rfl))
      | down solid named short there =>
          have above := before.get?_parent old
          have present : (before.get? middle).isSome = true := by
            rw [above]
            rfl
          exact ⟨middle, ih led present shorter,
            step_eq_ok_iff.mpr ⟨above, .down solid named short old⟩⟩

end Grown

section Making

variable {tree : FileTree}

/-- The name can be given to a new folder in the one that the pieces before it lead to. -/
structure Vacant (tree : FileTree) (start : Location) (name : String) (before : List String)
    (parent : Location) : Prop where
  led : tree.walk start before.reverse = .ok parent
  inside : tree.get? parent = some .folder
  absent : tree.get? (name :: parent) = none
  named : name ≠ ".."
  short : name.utf8ByteSize ≤ maxName

theorem Vacant.get?_put {start : Location} {name : String} {before : List String}
    {parent : Location} (vacant : Vacant tree start name before parent) (other : Location) :
    (tree.put (name :: parent) .folder).get? other =
      if name :: parent = other then some .folder else tree.get? other := by
  refine FileTree.get?_put vacant.inside ?_ .folder other
  rw [vacant.absent]
  nofun

theorem Vacant.grown {start : Location} {name : String} {before : List String} {parent : Location}
    (vacant : Vacant tree start name before parent) :
    Grown tree (tree.put (name :: parent) .folder) where
  kept := by
    intro location node found
    have apart : name :: parent ≠ location := by
      rintro rfl
      rw [vacant.absent] at found
      cases found
    rw [vacant.get?_put, if_neg apart, found]
  added := by
    intro location node found
    rw [vacant.get?_put] at found
    split_ifs at found
    · cases found
      exact Or.inr rfl
    · exact Or.inl found

/-- A folder is only ever made in a folder, where there is nothing. -/
theorem makeFolder_eq_ok {start : Location} {name : String} {before : List String}
    {added : FileTree} (made : tree.makeFolder start name before = .ok added) :
    ∃ parent, Vacant tree start name before parent ∧
      added = tree.put (name :: parent) .folder := by
  obtain ⟨parent, led, made⟩ := exists_of_bind_eq_ok made
  obtain ⟨_, need, made⟩ := exists_of_bind_eq_ok made
  by_cases taken : (name == ".." || (tree.get? (name :: parent)).isSome) = true
  · rw [if_pos taken] at made
    cases made
  · rw [if_neg taken] at made
    dsimp only at made
    by_cases long : maxName < name.utf8ByteSize
    · rw [if_pos long] at made
      cases made
    · rw [if_neg long] at made
      cases made
      have free : name ≠ ".." ∧ tree.get? (name :: parent) = none := by simpa using taken
      exact ⟨parent, ⟨led, needFolder_eq_ok need, free.2, free.1, by omega⟩, rfl⟩

theorem grown_makeFolder {start : Location} {name : String} {before : List String}
    {added : FileTree} (made : tree.makeFolder start name before = .ok added) :
    Grown tree added := by
  obtain ⟨parent, vacant, rfl⟩ := makeFolder_eq_ok made
  exact vacant.grown

/-- What becomes of the tree when folders are made along pieces: nothing, what becomes of it along
the pieces before the last one, or one folder more than it had in either case. -/
theorem makeFolders_cases (tree : FileTree) (start : Location) (piece : String)
    (before : List String) :
    (tree.makeFolders start (piece :: before)).1 = tree ∨
    (tree.makeFolders start (piece :: before)).1 = (tree.makeFolders start before).1 ∨
    Path.isVoid piece = false ∧
      (tree.makeFolder start piece before = .ok (tree.makeFolders start (piece :: before)).1 ∨
        (tree.makeFolders start before).1.makeFolder start piece before =
          .ok (tree.makeFolders start (piece :: before)).1) := by
  rw [makeFolders]
  by_cases void : Path.isVoid piece = true
  · rw [if_pos void]
    exact Or.inr (Or.inl rfl)
  · have solid : Path.isVoid piece = false := by simpa using void
    rw [if_neg void]
    cases made : tree.makeFolder start piece before with
    | ok added => exact Or.inr (Or.inr ⟨solid, Or.inl rfl⟩)
    | error error =>
        cases error with
        | notFound =>
            cases earlier : tree.makeFolders start before with
            | mk grown result =>
                cases result with
                | error error => exact Or.inr (Or.inl rfl)
                | ok done =>
                    dsimp only
                    cases again : grown.makeFolder start piece before with
                    | ok added => exact Or.inr (Or.inr ⟨solid, Or.inr rfl⟩)
                    | error error => exact Or.inr (Or.inl rfl)
        | _ => exact Or.inl rfl

/-- Whether or not all missing folders can be made, the tree has only grown. -/
theorem grown_makeFolders (tree : FileTree) (start : Location) (pieces : List String) :
    Grown tree (tree.makeFolders start pieces).1 := by
  induction pieces with
  | nil => exact Grown.refl tree
  | cons piece before ih =>
      rcases makeFolders_cases tree start piece before with same | early | ⟨-, made | again⟩
      · rw [same]
        exact Grown.refl tree
      · rw [early]
        exact ih
      · exact grown_makeFolder made
      · exact ih.trans (grown_makeFolder again)

theorem grown_makeFoldersAt (tree : FileTree) (folder : Location) (path : String) :
    Grown tree (tree.makeFoldersAt folder path).1 := by
  unfold makeFoldersAt
  split
  · exact Grown.refl tree
  · exact grown_makeFolders tree _ _

/-- The first ones of the pieces lead to the location. -/
def OnTheWay (tree : FileTree) (start : Location) (pieces : List String) (location : Location) :
    Prop :=
  ∃ up, up <+: pieces ∧ tree.walk start up = .ok location

theorem OnTheWay.persists {before after : FileTree} {start location : Location}
    {pieces : List String} (reached : before.OnTheWay start pieces location)
    (persists : Persists before after) : after.OnTheWay start pieces location := by
  obtain ⟨up, first, led⟩ := reached
  exact ⟨up, first, persists.walk_ok led⟩

theorem OnTheWay.concat {start location : Location} {pieces : List String}
    (reached : tree.OnTheWay start pieces location) (piece : String) :
    tree.OnTheWay start (pieces ++ [piece]) location := by
  obtain ⟨up, first, led⟩ := reached
  exact ⟨up, first.trans (List.prefix_append pieces [piece]), led⟩

/-- The pieces lead to the folder that has been made for them. -/
theorem onTheWay_of_makeFolder {start location : Location} {name : String} {before : List String}
    {added : FileTree} (made : tree.makeFolder start name before = .ok added)
    (solid : Path.isVoid name = false) (absent : tree.get? location = none)
    (there : (added.get? location).isSome = true) :
    added.OnTheWay start (before.reverse ++ [name]) location := by
  obtain ⟨parent, vacant, rfl⟩ := makeFolder_eq_ok made
  have grown := vacant.grown
  have here : name :: parent = location := by
    by_contra apart
    rw [vacant.get?_put, if_neg apart, absent] at there
    cases there
  subst here
  refine ⟨before.reverse ++ [name], List.prefix_rfl,
    walk_concat_eq_ok_iff.mpr ⟨parent, ?_, ?_⟩⟩
  · exact grown.persists.walk_ok vacant.led
  · exact step_eq_ok_iff.mpr
      ⟨grown.persists.folder parent vacant.inside, .down solid vacant.named vacant.short there⟩

/-- Folders are made on the way along the pieces and nowhere else. -/
theorem onTheWay_of_makeFolders (start : Location) (pieces : List String) {location : Location}
    (absent : tree.get? location = none)
    (there : ((tree.makeFolders start pieces).1.get? location).isSome = true) :
    (tree.makeFolders start pieces).1.OnTheWay start pieces.reverse location := by
  have missing : ¬ (tree.get? location).isSome = true := by simp [absent]
  induction pieces with
  | nil => exact absurd there missing
  | cons piece before ih =>
      rw [List.reverse_cons]
      rcases makeFolders_cases tree start piece before with same | early | ⟨solid, made | again⟩
      · rw [same] at there
        exact absurd there missing
      · rw [early] at there ⊢
        exact (ih there).concat piece
      · exact onTheWay_of_makeFolder made solid absent there
      · by_cases earlier : ((tree.makeFolders start before).1.get? location).isSome = true
        · have grown := grown_makeFolder again
          exact ((ih earlier).persists grown.persists).concat piece
        · rw [Option.not_isSome_iff_eq_none] at earlier
          exact onTheWay_of_makeFolder again solid earlier there

end Making

section Writing

/-- The last piece of a text is empty when the text is, or when it ends in a slash, and only
then. -/
theorem getLast?_splitOn_eq_nil_iff {text : List Char} :
    (text.splitOn '/').getLast? = some [] ↔ text = [] ∨ text.getLast? = some '/' := by
  induction text with
  | nil => simp
  | cons char rest ih =>
      obtain ⟨first, others, split⟩ := List.exists_cons_of_ne_nil (List.splitOn_ne_nil '/' rest)
      rw [List.splitOn_cons_eq_if_modifyHead, split]
      rw [split] at ih
      by_cases empty : rest = []
      · subst empty
        cases split
        by_cases slash : char = '/' <;> simp [slash]
      · obtain ⟨next, more, rfl⟩ := List.exists_cons_of_ne_nil empty
        rw [List.getLast?_cons_cons]
        simp only [empty, false_or] at ih
        cases others with
        | nil =>
            have solid : first ≠ [] := by
              rintro rfl
              have joined : ['/'].intercalate ((next :: more).splitOn '/') = next :: more :=
                List.intercalate_splitOn '/'
              rw [split] at joined
              cases joined
            split_ifs <;> simp [solid, ← ih]
        | cons second others =>
            split_ifs <;> simpa using ih

theorem getLast?_pieces_eq_empty_iff {path : String} :
    (Path.pieces path).getLast? = some "" ↔ path = "" ∨ path.toList.getLast? = some '/' := by
  have last := @getLast?_splitOn_eq_nil_iff path.toList
  rw [String.toList_eq_nil_iff] at last
  rw [← last, Path.pieces, List.getLast?_map]
  cases (path.toList.splitOn '/').getLast? with
  | none => simp
  | some piece => simp

theorem checkPath_eq_ok {path : String} {done : Unit} (sound : checkPath path = .ok done) :
    path ≠ "" := by
  rintro rfl
  cases sound

/-- A path can be written to: it ends in a name for a file, in a folder that the pieces before the
name lead to. -/
structure Target (tree : FileTree) (folder : Location) (path : String) (name : String)
    (parent : Location) : Prop where
  sound : checkPath path = .ok ()
  led : ∃ front, Path.pieces path = front ++ [name] ∧
    tree.walk (start folder path) front = .ok parent
  inside : tree.get? parent = some .folder
  solid : Path.isVoid name = false
  named : name ≠ ".."
  short : name.utf8ByteSize ≤ maxName

/-- Where a file is written. -/
theorem write_eq_ok_iff {tree : FileTree} {folder : Location} {path : String} {content : ByteArray}
    {written : FileTree} :
    tree.write folder path content = .ok written ↔
      ∃ name parent, tree.Target folder path name parent ∧
        tree.get? (name :: parent) ≠ some .folder ∧
        written = tree.put (name :: parent) (.file content) := by
  constructor
  · intro done
    unfold write at done
    obtain ⟨_, sound, done⟩ := exists_of_bind_eq_ok done
    have filled := checkPath_eq_ok sound
    split at done
    · cases done
    · rename_i name before reversed
      obtain ⟨parent, led, done⟩ := exists_of_bind_eq_ok done
      obtain ⟨_, need, done⟩ := exists_of_bind_eq_ok done
      dsimp only at done
      split at done
      · cases done
      · rename_i refused
        split at done
        · cases done
        · rename_i short
          split at done
          · cases done
          · rename_i free
            cases done
            simp only [Bool.or_eq_true, beq_iff_eq, not_or] at refused
            obtain ⟨⟨noDot, noDots⟩, closed⟩ := refused
            have last : (Path.pieces path).getLast? ≠ some "" := by
              rw [ne_eq, getLast?_pieces_eq_empty_iff]
              exact not_or.mpr ⟨filled, closed⟩
            have whole : Path.pieces path = before.reverse ++ [name] := by
              rw [← List.head?_reverse] at last
              rw [← List.reverse_reverse (Path.pieces path), ← List.reverse_cons, ← reversed]
              cases backward : (Path.pieces path).reverse with
              | nil => rfl
              | cons piece front =>
                  rw [backward, List.head?_cons] at last
                  have filled : piece ≠ "" := by simpa using last
                  rw [List.dropWhile_cons_of_neg (by simpa using filled)]
            have filled : name ≠ "" := by
              rintro rfl
              exact last (by rw [whole]; simp)
            have solid : Path.isVoid name = false := by simp [Path.isVoid, filled, noDot]
            exact ⟨name, parent, ⟨sound, ⟨_, whole, led⟩, needFolder_eq_ok need, solid,
              noDots, by omega⟩, free, rfl⟩
  · rintro ⟨name, parent,
      ⟨sound, ⟨front, whole, led⟩, inside, solid, named, short⟩, free, rfl⟩
    obtain ⟨filled, noDot⟩ : name ≠ "" ∧ name ≠ "." := by simpa [Path.isVoid] using solid
    have closed : path.toList.getLast? ≠ some '/' := by
      intro slash
      have last := getLast?_pieces_eq_empty_iff.mpr (Or.inr slash)
      rw [whole, List.getLast?_concat] at last
      exact filled (Option.some.inj last)
    have reversed : (Path.pieces path).reverse.dropWhile (· == "") = name :: front.reverse := by
      rw [whole, List.reverse_concat, List.dropWhile_cons_of_neg (by simpa using filled)]
    have accepted : (name == "." || name == ".." || path.toList.getLast? == some '/') = false := by
      simp [noDot, named, closed]
    have fits : ¬ maxName < name.utf8ByteSize := by omega
    have need : tree.needFolder parent = .ok () := by rw [needFolder, inside]
    simp only [write, sound, reversed, List.reverse_reverse, bind, Except.bind, led, need, accepted,
      fits, Bool.false_eq_true, if_false]
    cases found : tree.get? (name :: parent) with
    | none => rfl
    | some node =>
        cases node with
        | folder => exact absurd found free
        | file old => rfl

theorem Target.locate {tree : FileTree} {folder parent : Location} {path name : String}
    (target : tree.Target folder path name parent)
    (there : (tree.get? (name :: parent)).isSome = true) :
    tree.locate folder path = .ok (name :: parent) := by
  obtain ⟨front, whole, led⟩ := target.led
  rw [locate_eq_ok_iff, whole, walk_concat_eq_ok_iff]
  exact ⟨target.sound, parent, led,
    step_eq_ok_iff.mpr ⟨target.inside, .down target.solid target.named target.short there⟩⟩

/-- A path that leads to a file can be written to there. -/
theorem target_of_locate {tree : FileTree} {folder location : Location} {path : String}
    {content : ByteArray} (led : tree.locate folder path = .ok location)
    (found : tree.get? location = some (.file content)) :
    ∃ name parent, location = name :: parent ∧ tree.Target folder path name parent := by
  obtain ⟨sound, led⟩ := locate_eq_ok_iff.mp led
  obtain ⟨front, name, whole⟩ : ∃ front name, Path.pieces path = front ++ [name] := by
    rcases List.eq_nil_or_concat (Path.pieces path) with none | ⟨front, name, whole⟩
    · simp [Path.pieces] at none
    · exact ⟨front, name, by simpa using whole⟩
  rw [whole, walk_concat_eq_ok_iff] at led
  obtain ⟨parent, above, last⟩ := led
  obtain ⟨inside, leads⟩ := step_eq_ok_iff.mp last
  cases leads with
  | stay void =>
      rw [found] at inside
      cases inside
  | up solid climbs =>
      have outside : tree.get? parent.tail = some .folder := by
        cases parent with
        | nil => rfl
        | cons inner outer =>
            have taken : (tree.get? (inner :: outer)).isSome = true := by rw [inside]; rfl
            exact tree.get?_parent taken
      rw [found] at outside
      cases outside
  | down solid named short there =>
      exact ⟨name, parent, rfl, sound, ⟨front, whole, above⟩, inside, solid, named, short⟩

end Writing

end LineReview.FileTree
